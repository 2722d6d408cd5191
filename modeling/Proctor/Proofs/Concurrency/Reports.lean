import Proctor.Lifecycle.Metrics
import Proctor.Proofs.Concurrency.Edges

/-!
# What is told of a run

A reconciliation does not tell of its write when it makes it. It compares the phase that it observed
with that of the Test that is returned at the end, after rounds that may have met conflicts, or may
have given the write up. Still each write that is accepted is told of once: it is the last thing
that the reconciliation does, so the Test that is returned is the one that was stored; and it leads
from the observed phase along one of the edges, so the phase is another one, and the move is one
that users hear of.

## What is left out

What becomes of an event or a measurement once it is told is not asked; an event may be lost on its
way, and neither the controller nor the Test is affected by that. And a write whose answer is lost
is told of by nobody: such answers are left out of a system, so an accepted write is one that the
controller heard of.
-/

namespace Proctor

/-! ### The event of a move -/

/-- Users hear of each move of the controller. The event names the action whose move it is, and
warns of a failure or an error. -/
theorem Phase.event_of_leadsTo {p q : Phase} (h : p.leadsTo q = true) :
    ∃ e, Event.ofTransition? p q = some e ∧ e.action = (Action.ofPhase p).name.capitalize ∧
      (e.weight = "Warning" ↔ q = .failed ∨ q = .error) := by
  cases p <;> cases q <;> first | exact ⟨_, rfl, by decide, by decide⟩ | cases h

/-! ### One reconciliation -/

namespace Reconciliation

/-- Every reconciliation is counted once, by its action and by how it went. -/
theorem filter_reconcile_measurements (r : Reconciliation) :
    r.measurements.filter (·.instrument = "yaks_test_reconcile_total") =
      [⟨"yaks_test_reconcile_total", [("action", r.action.name),
        ("result", if r.result.isOk then "success" else "error")]⟩] := by
  obtain ⟨action, result, entered, notice⟩ := r
  cases result <;> cases entered <;> simp [measurements, Except.isOk, Except.toBool]

/-- A phase that is entered is counted once, and no other one is. -/
theorem filter_transition_measurements (r : Reconciliation) :
    r.measurements.filter (·.instrument = "yaks_test_phase_transitions_total") =
      (r.entered.map fun p =>
        (⟨"yaks_test_phase_transitions_total", [("phase", p.wire)]⟩ : Measurement)).toList := by
  obtain ⟨action, result, entered, notice⟩ := r
  cases entered <;> simp [measurements]

end Reconciliation

/-- What comes of a reconciliation: its last exchange was a write that was accepted, and it tells of
the Test that was stored; or no write was accepted, and there is nothing to tell. -/
theorem Test.reconcile_ends_cases {t : Test} {config : Config} {heard : List Exchange}
    {r : Reconciliation} (h : (t.reconcile config).Ends heard r) :
    r.action = .ofPhase t.phase ∧
      ((∃ es u p, heard = es ++ [⟨.writeStatus u, .ok p⟩] ∧ t.phase.leadsTo u.phase = true ∧
          r = .ofOutcome t.phase (.ofPhase t.phase) (.ok (some p))) ∨
        (∀ e ∈ heard, e.accepted? = none) ∧ r.entered = none ∧ r.notice = none) := by
  rw [reconcile_eq, Program.ends_bind_iff] at h
  obtain ⟨heard, _, o, rfl, hends, hdone⟩ := h
  obtain ⟨rfl, hr⟩ := Program.walk_done_iff.1 hdone
  rw [List.append_nil]
  cases hr
  -- a write that was accepted would have been returned
  have hquiet : (∀ p, o ≠ .ok (some p)) → ∀ e ∈ heard, e.accepted? = none := by
    intro ho e he
    obtain ⟨es, fs, rfl⟩ := List.append_of_mem he
    obtain ⟨next, hw, hfs⟩ := Program.walk_append_cons_iff.1 hends
    obtain ⟨q, x⟩ := e
    cases q with
    | writeStatus u =>
      rcases x with f | p
      · rfl
      · rw [(Action.runOn_walk_write hw).1 p] at hfs
        cases (Program.walk_done_iff.1 hfs).2
        exact absurd rfl (ho p)
    | freshId | clock | getTest _ _ | getPod _ _ | apply _ => rfl
  rcases o with f | _ | p
  · exact ⟨rfl, Or.inr ⟨hquiet (by simp), rfl, rfl⟩⟩
  · exact ⟨rfl, Or.inr ⟨hquiet (by simp), rfl, rfl⟩⟩
  · obtain ⟨_, k, earlier, round, t', u, -, -, rfl, hr, hc⟩ := Action.runOn_ends_some hends
    have hp : t'.phase = t.phase := hr.phase_eq rfl
    refine ⟨?_, Or.inl ⟨_, u, p, rfl, hp ▸ hc.leadsTo (congrArg _ hp), rfl⟩⟩
    rw [Reconciliation.ofOutcome]
    split <;> rfl

/-- What is told of a write that entered another phase. -/
theorem Reconciliation.ofOutcome_some {phase : Phase} {a : Action} {p : Test}
    (h : phase.leadsTo p.phase = true) :
    (ofOutcome phase a (.ok (some p))).entered = some p.phase ∧
      (ofOutcome phase a (.ok (some p))).notice = p.notice? phase := by
  have hne : p.phase ≠ phase := by
    intro he
    rw [he] at h
    cases phase <;> cases h
  rw [ofOutcome, if_neg hne]
  exact ⟨rfl, rfl⟩

/-! ### All reconciliations of a system -/

namespace Task

/-- What has come of a reconciliation, if it is over. -/
def reconciliation? : Task → Option Reconciliation
  | ⟨.reconcile _ _, _, .done r, _⟩ => some r
  | _ => none

/-- What a controller has counted. -/
def measured (t : Task) : List Measurement :=
  (t.reconciliation?.map Reconciliation.measurements).getD []

/-- The event that a controller has told of. -/
def announced (t : Task) : Option Notice := t.reconciliation?.bind Reconciliation.notice

/-- A write of the controller was accepted. -/
def hasWritten (t : Task) : Bool := t.heard.any (·.accepted?.isSome)

theorem ends_of_reconciliation? {t : Task} {r : Reconciliation} (h : t.reconciliation? = some r) :
    (t.job.observed.reconcile t.job.config).Ends t.heard r := by
  obtain ⟨j, heard, rest, walk⟩ := t
  cases j with
  | act a config observed => cases h
  | reconcile config observed =>
    cases rest with
    | ask q next => cases h
    | done r' =>
      cases h
      exact walk

/-- After a write that is accepted nothing is left to do. -/
theorem not_hasWritten_of_ask {t : Task} {q : Query} {next : q.Answer → Program t.job.Result}
    (h : t.rest = .ask q next) : t.hasWritten = false := by
  rw [hasWritten, List.any_eq_false]
  intro e he ha
  obtain ⟨es, fs, hh⟩ := List.append_of_mem he
  have hwalk := t.walk
  rw [hh, Program.walk_append_cons_iff] at hwalk
  obtain ⟨next', hw, hfs⟩ := hwalk
  obtain ⟨q', x⟩ := e
  cases q' with
  | writeStatus u =>
    rcases x with f | p
    · cases ha
    · rw [(Job.walk_write hw).1 p, h] at hfs
      cases (Program.walk_done_iff.1 hfs).2
  | freshId | clock | getTest _ _ | getPod _ _ | apply _ => cases ha

theorem hasWritten_hear {t : Task} {q : Query} {next : q.Answer → Program t.job.Result}
    (h : t.rest = .ask q next) (x : q.Answer) :
    (t.hear h x).hasWritten = (⟨q, x⟩ : Exchange).accepted?.isSome := by
  have ht := not_hasWritten_of_ask h
  simp only [hasWritten, hear, List.any_append] at ht ⊢
  simp [ht]

end Task

namespace System

variable {s : System}

/-- What the controllers have counted. -/
def measured (s : System) : List Measurement := s.tasks.flatMap Task.measured

/-- The events that the controllers have told of. -/
def announced (s : System) : List Notice := s.tasks.filterMap Task.announced

/-- As many controllers have had a write accepted as writes were accepted. -/
theorem Reaches.countP_hasWritten {allowed : System → Move → Prop} (h : Reaches allowed s) :
    s.tasks.countP Task.hasWritten = s.writes.length := by
  induction h with
  | empty => rfl
  | @step s m _ _ ih =>
    cases m with
    | edit e => exact ih
    | launch j =>
      show (s.tasks ++ [Task.begin j]).countP _ = s.writes.length
      rw [List.countP_append, ih]
      rfl
    | answer i f =>
      rw [System.step]
      rcases s.answer_eq i f with ha | ⟨t, q, next, hq, ht, ha⟩
      · rwa [ha]
      · obtain ⟨hi, rfl⟩ := List.getElem?_eq_some_iff.1 ht
        have hcount : (s.hear i s.tasks[i] hq f).tasks.countP Task.hasWritten =
            s.writes.length + if (⟨q, (s.store.answer f q).1⟩ : Exchange).accepted?.isSome
              then 1 else 0 := by
          show (s.tasks.set i (s.tasks[i].hear hq _)).countP _ = _
          rw [List.countP_set hi, ih, Task.hasWritten_hear, Task.not_hasWritten_of_ask hq]
          rfl
        rw [ha, hcount]
        rcases s.hear_cases (i := i) hq f with ⟨he, -, -, hw⟩ | ⟨copy, old, he, -, -, -, hw⟩
        · rw [he, hw]
          rfl
        · rw [he, hw]
          rfl

/-- Whoever has made a write that was accepted is still known, and it was the last thing that it
did. -/
theorem Reaches.writer {allowed : System → Move → Prop} (h : Reaches allowed s) :
    ∀ w ∈ s.writes, ∃ t ∈ s.tasks, t.job = w.job ∧
      t.heard = w.heard ++ [⟨.writeStatus w.copy, .ok w.after⟩] := by
  induction h with
  | empty => simp
  | @step s m _ _ ih =>
    cases m with
    | edit e => exact ih
    | launch j =>
      intro w hw
      obtain ⟨t, ht, hr⟩ := ih w hw
      exact ⟨t, List.mem_append_left _ ht, hr⟩
    | answer i f =>
      rw [System.step]
      rcases s.answer_eq i f with ha | ⟨t, q, next, hq, ht, ha⟩
      · rwa [ha]
      · obtain ⟨hi, hti⟩ := List.getElem?_eq_some_iff.1 ht
        -- the controllers that have written are not the one that was asking
        have hold : ∀ w ∈ s.writes, ∃ t' ∈ (s.hear i t hq f).tasks, t'.job = w.job ∧
            t'.heard = w.heard ++ [⟨.writeStatus w.copy, .ok w.after⟩] := by
          intro w hw
          obtain ⟨t', ht', hj, hh⟩ := ih w hw
          obtain ⟨k, hk, rfl⟩ := List.getElem_of_mem ht'
          have hne : i ≠ k := by
            rintro rfl
            have hasked := Task.not_hasWritten_of_ask hq
            rw [← hti, Task.hasWritten, hh] at hasked
            simp [Exchange.accepted?] at hasked
          refine ⟨s.tasks[k], ?_, hj, hh⟩
          exact List.mem_of_getElem? ((task_hear_ne hq f hne).trans (List.getElem?_eq_getElem hk))
        rw [ha]
        rcases s.hear_cases (i := i) hq f with ⟨-, -, -, hw⟩ | ⟨copy, old, he, -, -, -, hw⟩
        · rwa [hw]
        · rw [hw]
          intro w hw'
          rcases List.mem_cons.1 hw' with rfl | hw'
          · refine ⟨t.hear hq (s.store.answer f q).1, List.mem_set hi _, rfl, ?_⟩
            rw [← he]
            rfl
          · exact hold w hw'

/-- What comes of a reconciliation and what is told of it. -/
theorem Reaches.reported (h : Reaches Reconciling s) {t : Task} (ht : t ∈ s.tasks)
    {r : Reconciliation} (hr : t.reconciliation? = some r) :
    r.action = .ofPhase t.job.observed.phase ∧
      ((∃ w ∈ s.writes, w.job = t.job ∧
          t.heard = w.heard ++ [⟨.writeStatus w.copy, .ok w.after⟩] ∧
          r.entered = some w.after.phase ∧
          ∃ n, r.notice = some n ∧
            n.event.action = (Action.ofPhase t.job.observed.phase).name.capitalize ∧
            (n.event.weight = "Warning" ↔ w.after.phase = .failed ∨ w.after.phase = .error)) ∨
        (∀ e ∈ t.heard, e.accepted? = none) ∧ r.entered = none ∧ r.notice = none) := by
  have hs := h.sound fun _ _ => Reconciling.known
  obtain ⟨ha, ⟨es, u, p, hh, hl, rfl⟩ | hquiet⟩ :=
    Test.reconcile_ends_cases (Task.ends_of_reconciliation? hr)
  · refine ⟨ha, Or.inl ?_⟩
    obtain ⟨w, hw, hj, rfl, rfl, rfl⟩ := hs.told t ht es u p [] hh
    obtain ⟨n, hafter⟩ := (hs.writes w hw).after
    have hphase : w.copy.phase = w.after.phase := by
      rw [hafter]
      rfl
    rw [hphase] at hl
    obtain ⟨hentered, hnotice⟩ := Reconciliation.ofOutcome_some
      (a := .ofPhase t.job.observed.phase) hl
    obtain ⟨e, he, hname, hweight⟩ := Phase.event_of_leadsTo hl
    have hn : w.after.notice? t.job.observed.phase =
        some ⟨e, w.after.reference, w.after.note? t.job.observed.phase⟩ := by
      rw [Test.notice?, he]
      rfl
    exact ⟨w, hw, hj, hh, hentered, _, hnotice.trans hn, hname, hweight⟩
  · exact ⟨ha, Or.inr hquiet⟩

/-- A controller that reconciles has told of a transition just if a write of it was accepted. -/
theorem Reaches.told_iff_hasWritten (h : Reaches Reconciling s) {t : Task} (ht : t ∈ s.tasks) :
    (t.announced.isSome = true ↔ t.hasWritten = true) ∧
      t.measured.countP (·.instrument = "yaks_test_phase_transitions_total") =
        if t.hasWritten then 1 else 0 := by
  cases hr : t.reconciliation? with
  | some r =>
    have hm : t.measured.countP (·.instrument = "yaks_test_phase_transitions_total") =
        (r.entered.toList).length := by
      rw [Task.measured, hr, Option.map_some, Option.getD_some, List.countP_eq_length_filter,
        r.filter_transition_measurements]
      cases r.entered <;> rfl
    rw [hm, Task.announced, hr, Option.bind_some]
    obtain ⟨-, ⟨w, -, -, hh, he, n, hn, -⟩ | ⟨hquiet, he, hn⟩⟩ := h.reported ht hr
    · have hw : t.hasWritten = true := by simp [Task.hasWritten, hh, Exchange.accepted?]
      rw [he, hn, hw]
      simp
    · have hw : t.hasWritten = false := by
        rw [Task.hasWritten, List.any_eq_false]
        intro e hm
        rw [hquiet e hm]
        exact Bool.false_ne_true
      rw [he, hn, hw]
      simp
  | none =>
    -- a reconciliation that is not over still has a question
    have hw : t.hasWritten = false := by
      obtain ⟨config, u, hj⟩ := (h.jobs fun _ _ hj => hj.2).1 t ht
      obtain ⟨j, heard, rest, walk⟩ := t
      cases hj
      cases rest with
      | done r => cases hr
      | ask q next => exact Task.not_hasWritten_of_ask rfl
    rw [Task.measured, Task.announced, hr, hw]
    simp

/-- Each reconciliation that is over is counted once, with the action of the phase that it observed
and with how it went. If a write of it was accepted, it has counted one phase that was entered, that
of the Test that was stored, and told of one event, which names its action and warns of a failure or
an error; otherwise it has done neither. Each write that was accepted is the last exchange of a
controller. So over all there are as many transitions counted, and as many events told of, as there
were writes accepted. -/
theorem transitions_told_once (h : Reaches Reconciling s) :
    (∀ t ∈ s.tasks, ∀ r, t.reconciliation? = some r →
      t.measured.filter (·.instrument = "yaks_test_reconcile_total") =
        [⟨"yaks_test_reconcile_total",
          [("action", (Action.ofPhase t.job.observed.phase).name),
            ("result", if r.result.isOk then "success" else "error")]⟩] ∧
      ((∃ w ∈ s.writes, w.job = t.job ∧
          t.heard = w.heard ++ [⟨.writeStatus w.copy, .ok w.after⟩] ∧
          t.measured.filter (·.instrument = "yaks_test_phase_transitions_total") =
            [⟨"yaks_test_phase_transitions_total", [("phase", w.after.phase.wire)]⟩] ∧
          ∃ n, t.announced = some n ∧
            n.event.action = (Action.ofPhase t.job.observed.phase).name.capitalize ∧
            (n.event.weight = "Warning" ↔ w.after.phase = .failed ∨ w.after.phase = .error)) ∨
        (∀ e ∈ t.heard, e.accepted? = none) ∧
          t.measured.filter (·.instrument = "yaks_test_phase_transitions_total") = [] ∧
          t.announced = none)) ∧
    (∀ w ∈ s.writes, ∃ t ∈ s.tasks, t.job = w.job ∧
      t.heard = w.heard ++ [⟨.writeStatus w.copy, .ok w.after⟩]) ∧
    s.measured.countP (·.instrument = "yaks_test_phase_transitions_total") = s.writes.length ∧
    s.announced.length = s.writes.length := by
  refine ⟨fun t ht r hr => ?_, h.writer, ?_, ?_⟩
  · have hm : t.measured = r.measurements := by rw [Task.measured, hr]; rfl
    have hn : t.announced = r.notice := by rw [Task.announced, hr]; rfl
    obtain ⟨ha, htold⟩ := h.reported ht hr
    rw [hm, hn, r.filter_reconcile_measurements, r.filter_transition_measurements, ha]
    refine ⟨rfl, htold.imp ?_ ?_⟩
    · rintro ⟨w, hw, hj, hh, he, hnotice⟩
      exact ⟨w, hw, hj, hh, by rw [he]; rfl, hnotice⟩
    · rintro ⟨hquiet, he, hnotice⟩
      exact ⟨hquiet, by rw [he]; rfl, hnotice⟩
  · rw [← h.countP_hasWritten]
    exact countP_flatMap_of_countP fun t ht => (h.told_iff_hasWritten ht).2
  · rw [← h.countP_hasWritten, announced, List.length_filterMap_eq_countP]
    exact List.countP_congr fun t ht => (h.told_iff_hasWritten ht).1

/-- Of the two that race one tells of the error that it has stored, and the other, which meets a
conflict and finds the phase changed, tells of nothing. -/
theorem race_told_once : Reaches Reconciling (run {} (race ++ [.answer 1 plainFate,
      .answer 0 plainFate, .answer 0 plainFate])) ∧
    (run {} (race ++ [.answer 1 plainFate, .answer 0 plainFate,
      .answer 0 plainFate])).announced.length = 1 := by
  have h : Reaches Reconciling (run {} (race ++ [.answer 1 plainFate, .answer 0 plainFate,
      .answer 0 plainFate])) := by
    rw [run_append]
    exact reaches_race.run ⟨trivial, trivial, trivial, trivial⟩
  exact ⟨h, (transitions_told_once h).2.2.2.trans (by decide)⟩

end System

end Proctor
