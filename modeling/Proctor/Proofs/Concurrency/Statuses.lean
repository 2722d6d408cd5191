import Proctor.Proofs.Concurrency.Clients
import Proctor.Proofs.Concurrency.Verdict

/-!
# What a stored status says

A status tells more than a phase: which generation it is about, when the generation was started and
when it was over, and how it went. Its parts fit its phase (`Status.WellFormed`) in every Test that
is ever stored, as long as Tests are made without a status and clients leave statuses to the
controllers; it does not matter how many controllers race, nor how old the copies are that they set
out with. For each action keeps what the phase it leads to needs and clears what does not belong
there, and a generation begins with a status of its own.
-/

namespace Proctor

namespace Status

/-- The status names its generation. -/
def Identified (st : Status) : Prop :=
  st.testId.isSome = true ∧ st.digest.isSome = true ∧ st.version.isSome = true

/-- The status does not tell how a run went. -/
def Open (st : Status) : Prop := st.results = none ∧ st.errors = [] ∧ st.completedAt = none

/-- The parts of a status fit its phase. -/
def WellFormed (st : Status) : Prop :=
  match st.phase with
  | .pending => st.Identified ∧ st.Open ∧ st.startedAt = none
  | .running => st.Identified ∧ st.Open ∧ st.startedAt.isSome = true
  | .passed | .failed =>
    st.Identified ∧ st.startedAt.isSome = true ∧ st.completedAt.isSome = true
  | .error =>
    st.Identified ∧ st.completedAt.isSome = true ∧ st.results = none ∧ st.errors ≠ []
  | .unset | .new | .updating | .deleting => True

theorem wellFormed_of_isWish {st : Status} (h : st.phase.isWish = true) : st.WellFormed := by
  rw [WellFormed]
  split
  all_goals first
    | trivial
    | next hp =>
      rw [hp] at h
      cases h

end Status

theorem Test.phase_congr {t u : Test} (h : u.status = t.status) : u.phase = t.phase := by
  rw [phase, phase, h]

/-- A Test has no status, or one whose parts fit its phase. -/
def Test.WellFormed (t : Test) : Prop := ∀ st ∈ t.status, st.WellFormed

namespace Test.WellFormed

variable {t u : Test}

theorem of_status_eq (h : t.WellFormed) (hs : u.status = t.status) : u.WellFormed := by
  rw [WellFormed, hs]
  exact h

/-- A Test that stands in a phase has a status that fits the phase. -/
theorem of_phase {p : Phase} (h : t.WellFormed) (hp : t.phase = p) (hne : p ≠ .unset) :
    ∃ st, t.status = some st ∧ st.phase = p ∧ st.WellFormed := by
  rw [phase] at hp
  cases hs : t.status with
  | none =>
    rw [hs] at hp
    exact absurd hp.symm hne
  | some st =>
    rw [hs] at hp
    exact ⟨st, rfl, hp, h st hs⟩

/-- What is said of a Test that waits for its workload. -/
theorem of_pending (h : t.WellFormed) (hp : t.phase = .pending) :
    ∃ st, t.status = some st ∧ st.Identified ∧ st.Open ∧ st.startedAt = none := by
  obtain ⟨st, hs, hst, hw⟩ := h.of_phase hp (by decide)
  rw [Status.WellFormed, hst] at hw
  exact ⟨st, hs, hw⟩

/-- What is said of a Test whose workload was applied. -/
theorem of_running (h : t.WellFormed) (hp : t.phase = .running) :
    ∃ st, t.status = some st ∧ st.Identified ∧ st.Open ∧ st.startedAt.isSome = true := by
  obtain ⟨st, hs, hst, hw⟩ := h.of_phase hp (by decide)
  rw [Status.WellFormed, hst] at hw
  exact ⟨st, hs, hw⟩

theorem testId?_ne_none (h : t.WellFormed) (hp : t.phase = .pending ∨ t.phase = .running) :
    t.testId? ≠ none := by
  have hi : ∃ st, t.status = some st ∧ st.Identified := by
    rcases hp with hp | hp
    · obtain ⟨st, hs, hi, -⟩ := h.of_pending hp
      exact ⟨st, hs, hi⟩
    · obtain ⟨st, hs, hi, -⟩ := h.of_running hp
      exact ⟨st, hs, hi⟩
  obtain ⟨st, hs, hi, -⟩ := hi
  rw [testId?, hs]
  exact Option.isSome_iff_ne_none.1 hi

end Test.WellFormed

/-- What an action computes from a Test of its phase fits the phase it leads to. -/
theorem Computes.wellFormed {config : Config} {t u : Test} {a : Action} {es : List Exchange}
    (h : Computes config t a es u) (ha : Action.ofPhase t.phase = a) (ht : t.WellFormed) :
    u.WellFormed := by
  have hh := Action.handles_iff.2 ha
  intro st' hst
  cases h with
  | begun id hc =>
    cases hst
    exact ⟨⟨rfl, rfl, rfl⟩, ⟨rfl, rfl, rfl⟩, rfl⟩
  | refused id now hc =>
    cases hst
    exact ⟨⟨rfl, rfl, rfl⟩, rfl, rfl, by simp [Status.refused]⟩
  | started now hn hw =>
    obtain ⟨st, hs, hi, ho, -⟩ := ht.of_pending (by simpa [Action.handles] using hh)
    rw [Test.withStatus, hs] at hst
    cases hst
    exact ⟨hi, ho, rfl⟩
  | @judged namespaceName es phase kept now hn hv =>
    have hp : t.phase = .running := by simpa [Action.handles] using hh
    obtain ⟨st, hs, hi, ho, hst'⟩ := ht.of_running hp
    rw [Test.withStatus, hs] at hst
    cases hst
    cases hv with
    | unnamed hid => exact absurd hid (ht.testId?_ne_none (Or.inr hp))
    | lost hid => exact ⟨hi, rfl, rfl, by simp [Status.finished]⟩
    | succeeded hid hout => exact ⟨hi, hst', rfl⟩
    | failed hid hout => exact ⟨hi, hst', rfl⟩
  | restarted hd =>
    cases hst
    trivial

/-- The errors of a run that was judged by its Pod are those that the Pod tells: a Test that runs
has none. -/
theorem Computes.collected {config : Config} {t u : Test} {a : Action} {round : List Exchange}
    (h : Computes config t a round u) (ha : Action.ofPhase t.phase = a) (ht : t.WellFormed)
    (hu : u.phase = .passed ∨ u.phase = .failed) :
    ∃ id pod now, u.testId? = some id ∧
      round = [⟨.getPod u.home.namespaceName (generationName u.nameAny id), .ok (some pod)⟩,
        ⟨.clock, now⟩] ∧
      (u.phase = .passed ↔ pod.outcome = .succeeded) ∧
      u.status.map Status.errors = some (pod.collect pod.outcome).errors := by
  have hh := Action.handles_iff.2 ha
  cases h with
  | begun id hc => rcases hu with hu | hu <;> cases hu
  | refused id now hc => rcases hu with hu | hu <;> cases hu
  | started now hn hw => rcases hu with hu | hu <;> cases hu
  | restarted hd => rcases hu with hu | hu <;> cases hu
  | @judged namespaceName es phase kept now hn hv =>
    obtain ⟨st, hs, -, ⟨-, he, -⟩, -⟩ := ht.of_running (by simpa [Action.handles] using hh)
    have hns : t.metadata.namespaceName.getD "" = namespaceName := by rw [hn]; rfl
    have herr : ∀ {phase kept}, (t.withStatus fun s => s.finished phase kept now).status.map
        Status.errors = some kept.errors := by
      intro phase kept
      simp [Test.withStatus, Status.finished, hs, he]
    have hid : ∀ {id phase kept}, t.testId? = some id →
        (t.withStatus fun s => s.finished phase kept now).testId? = some id := by
      intro id phase kept hi
      rw [Test.testId?, hs] at hi
      rw [Test.testId?, Test.withStatus, hs]
      exact hi
    cases hv with
    | unnamed hi => rcases hu with hu | hu <;> cases hu
    | lost hi => rcases hu with hu | hu <;> cases hu
    | @succeeded id pod hi ho =>
      refine ⟨id, pod, now, hid hi, ?_, by simp [ho, Status.finished], by rw [ho]; exact herr⟩
      rw [← hns]
      rfl
    | @failed id pod hi ho =>
      refine ⟨id, pod, now, hid hi, ?_, by simp [ho, Status.finished], by rw [ho]; exact herr⟩
      rw [← hns]
      rfl

/-- No workload can be computed from a Test without an id; one that has an id has another fault. -/
theorem Test.workload_ne_missingTestId {t : Test} {config : Config} {name : String}
    (h : t.testId? ≠ none) : t.workload config ≠ .error (.missingTestId name) := by
  intro he
  cases workload_eq_error_iff.1 he with
  | validity hc =>
    obtain ⟨p, hp, -⟩ := check_eq_error_iff.1 hc
    cases hp
  | generation _ _ hi => exact h hi

/-! ### Copies that rounds run on -/

/-- A copy that a round of the job runs on, after what was heard. -/
def Job.RunsOn (j : Job) (heard : List Exchange) (copy : Test) : Prop :=
  ∃ namespaceName k earlier round, heard = earlier ++ round ∧
    j.action.Retries j.config namespaceName j.observed.nameAny j.observed.phase k j.observed
      earlier copy

namespace System

variable {s : System}

theorem Reaches.wellFormed (h : Reaches Tended s) : ∀ t ∈ s.past, t.WellFormed := by
  induction h with
  | empty => simp
  | @step s m h hm ih =>
    intro u hu
    rcases h.mem_past_step hm hu with hst | ⟨w, hw, hb, rfl⟩
    · cases hst with
      | kept hu => exact ih u hu
      | made hn =>
        intro st hst
        rw [hn] at hst
        cases hst
      | edited ht hh hs => exact (ih _ ht).of_status_eq hs
      | @wished t phase ht hh hp hs =>
        intro st hst
        rw [hs] at hst
        cases hst
        exact Status.wellFormed_of_isWish hp
    · obtain ⟨_, _, n, -, hc, ha⟩ := (h.step hm).reconciling.computed hw
      exact (hc.wellFormed rfl (ih _ hb)).of_status_eq (by rw [ha]; rfl)

/-- A Test whose phase no client can ask for has the status that a controller has written. -/
theorem Reaches.written (h : Reaches Tended s) :
    ∀ t ∈ s.past, t.phase = .unset ∨ t.phase.isWish = true ∨
      ∃ w ∈ s.writes, w.after.status = t.status ∧ w.after.home = t.home := by
  induction h with
  | empty => simp
  | @step s m h hm ih =>
    have hold : ∀ t ∈ s.past, t.phase = .unset ∨ t.phase.isWish = true ∨
        ∃ w ∈ (s.step m).writes, w.after.status = t.status ∧ w.after.home = t.home := by
      intro t ht
      rcases ih t ht with hp | hp | ⟨w, hw, hs⟩
      · exact Or.inl hp
      · exact Or.inr (Or.inl hp)
      · exact Or.inr (Or.inr ⟨w, mem_writes_step hw, hs⟩)
    intro u hu
    rcases h.mem_past_step hm hu with hst | ⟨w, hw, -, rfl⟩
    · cases hst with
      | kept hu => exact hold u hu
      | made hn => exact Or.inl (by rw [Test.phase, hn]; rfl)
      | edited ht hh hs =>
        rw [Test.phase_congr hs, hs, hh]
        exact hold _ ht
      | wished ht hh hp hs =>
        rw [Test.phase_congr hs]
        exact Or.inr (Or.inl hp)
    · exact Or.inr (Or.inr ⟨w, hw, rfl, rfl⟩)

/-- A copy that a round runs on was stored at some time, and stands in the phase that the controller
observed. -/
theorem Sound.mem_of_runsOn (h : s.Sound) {t : Task} (ht : t ∈ s.tasks) {copy : Test}
    (hc : t.job.RunsOn t.heard copy) : copy ∈ s.past ∧ copy.phase = t.job.observed.phase := by
  obtain ⟨_, _, _, _, hh, hr⟩ := hc
  exact ⟨(h.tasks t ht).mem_of_retries hr hh, hr.phase_eq rfl⟩

/-- All parts of a stored status fit its phase. So a start, and the judging of a run, only ever run
on copies with an id: no reconciliation ends because an id is missing. And the errors of a Test that
has passed or failed are just those that the Pod of its generation has told. -/
theorem stored_status (h : Reaches Tended s) :
    (∀ p t, s.store.tests.get? p = some t → t.WellFormed) ∧
    (∀ t ∈ s.tasks, t.job.action = .start ∨ t.job.action = .evaluate →
      ∀ copy, t.job.RunsOn t.heard copy → copy.testId? ≠ none) ∧
    (∀ config observed heard r walk name,
      ⟨.reconcile config observed, heard, .done r, walk⟩ ∈ s.tasks →
        r.result ≠ .error (.missingTestId name)) ∧
    (∀ p t, s.store.tests.get? p = some t → t.phase = .passed ∨ t.phase = .failed →
      ∃ w ∈ s.writes, ∃ earlier id pod now, w.after.status = t.status ∧ t.testId? = some id ∧
        w.heard = earlier ++
          [⟨.getPod t.home.namespaceName (generationName t.nameAny id), .ok (some pod)⟩,
            ⟨.clock, now⟩] ∧
        (t.phase = .passed ↔ pod.outcome = .succeeded) ∧
        t.status.map Status.errors = some (pod.collect pod.outcome).errors) := by
  have hs := h.tended_sound
  have hwf := h.wellFormed
  have hids : ∀ t ∈ s.tasks, t.job.action = .start ∨ t.job.action = .evaluate →
      ∀ copy, t.job.RunsOn t.heard copy → copy.testId? ≠ none := by
    intro t ht ha copy hc
    obtain ⟨hm, hp⟩ := hs.mem_of_runsOn ht hc
    have hh := Action.handles_iff.2 (h.reconciling.actions.1 t ht).symm
    refine (hwf copy hm).testId?_ne_none ?_
    rw [hp]
    rcases ha with ha | ha <;> rw [ha] at hh
    · exact Or.inl (by simpa [Action.handles] using hh)
    · exact Or.inr (by simpa [Action.handles] using hh)
  refine ⟨fun p t ht => hwf t (hs.history.mem_of_get? ht), hids, ?_, ?_⟩
  · intro config observed heard r walk name ht hr
    have htold : ¬ ∃ e ∈ heard, e.fault? = some (.missingTestId name) := by
      rintro ⟨e, he, hf⟩
      cases h.heard_foreign ht he hf
    rcases Action.runOn_ends_error (Test.reconcile_ends_error walk hr) with
      hf | hf | hf | ⟨namespaceName, k, earlier, round, copy, rfl, hk, hf⟩
    · cases hf
    · cases hf
    · exact htold hf
    · rcases Action.handle_faults _ _ _ _ _ hf with (⟨-, hf⟩ | ⟨ha, hf⟩) | ⟨e, he, hf⟩
      · cases hf
      · exact Test.workload_ne_missingTestId
          (hids _ ht (Or.inl ha) copy ⟨namespaceName, k, earlier, round, rfl, hk⟩) hf
      · exact htold ⟨e, List.mem_append_right _ he, hf⟩
  · intro p t ht hp
    rcases h.written t (hs.history.mem_of_get? ht) with hu | hu | ⟨w, hw, hst, hh⟩
    · rcases hp with hp | hp <;> rw [hp] at hu <;> cases hu
    · rcases hp with hp | hp <;> rw [hp] at hu <;> cases hu
    · obtain ⟨earlier, round, n, hheard, hc, ha⟩ := h.reconciling.computed hw
      have hcs : w.copy.status = t.status := by
        rw [← hst, ha]
        rfl
      have hplace : w.copy.home = t.home := by
        rw [← hh, ha]
        exact (Test.home_congr hc.metadata_eq).trans rfl
      have hcp := Test.phase_congr hcs
      obtain ⟨id, pod, now, hid, hround, hpass, herr⟩ :=
        hc.collected rfl (hwf _ (hs.writes w hw).before) (hcp ▸ hp)
      have hname : w.copy.nameAny = t.nameAny := congrArg Place.name hplace
      rw [hplace, hname] at hround
      exact ⟨w, hw, earlier, id, pod, now, hst, by rw [← hid, Test.testId?, Test.testId?, hcs],
        hround ▸ hheard, hcp ▸ hpass, hcs ▸ herr⟩

/-! ### A run that is held back -/

theorem Reaches.tended_round {p : Place} {config : Config} {f : Fate} (h : Reaches Tended s)
    (hf : f.fault = none) (n : Nat) : Reaches Tended (s.round p config f n) := by
  rw [System.round]
  split
  · exact h
  · next t ht =>
    have hl : s.Tended (.launch (.reconcile config t)) :=
      ⟨h.tended_sound.history.mem_of_get? ht, config, t, rfl⟩
    exact (h.step hl).run (.replicate (fun _ => by simp [Tended, hf]) n _)

/-- A client takes the Test out of the hands of the controllers, and then has it run again. -/
def hold : List Move :=
  [.edit (.setPhase greeted (some .updating)), .edit (.setPhase greeted (some .new))]

theorem allAllowed_hold (s : System) : AllAllowed Tended s hold := by
  simp [hold, AllAllowed, Tended, Rehearsal.Edit.LeavesStatus, Phase.isWish]

/-- A Test that runs is held back, and its next generation is begun. -/
def resumed : System :=
  ((begun.round greeted {} plainFate 7).run hold).round greeted {} plainFate 2

theorem tended_begun : Reaches Tended begun := by
  have hmade : Reaches Tended (System.step {} (.edit (.putTest (some greeter)))) :=
    Reaches.empty.step fun u hu => by
      cases hu
      rfl
  exact hmade.tended_round rfl 2

theorem reaches_resumed : Reaches Tended resumed.finish := by
  have hheld : Reaches Tended ((begun.round greeted {} plainFate 7).run hold) :=
    (tended_begun.tended_round rfl 7).run (allAllowed_hold _)
  have hstarted : Reaches Tended (resumed.round greeted {} plainFate 7) :=
    (hheld.tended_round rfl 2).tended_round rfl 7
  have hover : Reaches Tended ((resumed.round greeted {} plainFate 7).step (.edit success)) :=
    hstarted.step trivial
  exact hover.tended_round rfl 3

theorem resumed_status : Reaches Tended resumed.finish ∧
    ∃ t, resumed.finish.store.tests.get? greeted = some t ∧ t.phase = .passed ∧ t.WellFormed ∧
      ∃ pod : Pod, pod.outcome = .succeeded ∧
        t.status.map Status.errors = some (pod.collect pod.outcome).errors := by
  obtain ⟨hw, -, -, he⟩ := stored_status reaches_resumed
  obtain ⟨-, -, -, -, pod, -, -, -, -, hpod, herr⟩ := he greeted _ rfl (Or.inl rfl)
  exact ⟨reaches_resumed, _, rfl, rfl, hw greeted _ rfl, pod, hpod.1 rfl, herr⟩

end System

end Proctor
