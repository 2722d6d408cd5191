import Proctor.Proofs.Concurrency.Accounting
import Proctor.Proofs.Concurrency.Applied

/-!
# A single controller

One Test, and one controller that always sets out with the Test as it is stored and finishes before
it sets out again. Others edit the source of the Test and let Pods progress, at any moment. Then
nobody else writes a status, so what the controller has observed holds until its own write, and
nobody else applies anything, so what it has applied stays. What is stored about a generation is
therefore known: its fingerprint is that of the source it was begun with, and its ConfigMap holds
the files of the spec it was started with (`System.Generation`).
-/

namespace Proctor

/-! ### What is not edited -/

/-- What of a Test is not edited: all but its source, its version and its status. -/
def Test.fixed (t : Test) : ObjectMeta × Spec :=
  ({ t.metadata with resourceVersion := none }, { t.spec with source := default })

namespace Test

variable {t u : Test}

theorem nameAny_of_fixed (h : t.fixed = u.fixed) : t.nameAny = u.nameAny :=
  congrArg (fun k => k.1.nameAny) h

theorem namespaceName_of_fixed (h : t.fixed = u.fixed) :
    t.metadata.namespaceName = u.metadata.namespaceName :=
  congrArg (fun k => k.1.namespaceName) h

theorem place_of_fixed (h : t.fixed = u.fixed) : t.metadata.place = u.metadata.place :=
  congrArg (fun k => k.1.place) h

theorem others_of_fixed (h : t.fixed = u.fixed) : t.spec.others = u.spec.others :=
  congrArg (fun k => k.2.others) h

end Test

/-! ### What is known about a generation -/

namespace Phase

/-- A generation was begun, and not refused. -/
def hasBegun : Phase → Bool
  | .pending | .running | .passed | .failed => true
  | _ => false

/-- A generation was started, and could be judged if it is over. -/
def hasStarted : Phase → Bool
  | .running | .passed | .failed => true
  | _ => false

end Phase

/-- Nothing is left for a controller to do. -/
def Task.Finished (t : Task) : Prop := ∃ r, t.rest = .done r

theorem Task.not_finished_of_ask {t : Task} {q : Query} {next : q.Answer → Program t.job.Result}
    (h : t.rest = .ask q next) : ¬ t.Finished := by
  rintro ⟨r, hr⟩
  rw [h] at hr
  cases hr

instance (t : Task) : Decidable t.Finished :=
  match h : t.rest with
  | .done r => isTrue ⟨r, h⟩
  | .ask _ _ => isFalse (Task.not_finished_of_ask h)

namespace System

variable {p : Place} {config : Config} {s : System}

/-- What is stored about the generation of a Test. -/
structure Generation (config : Config) (s : System) (t : Test) : Prop where
  /-- Its fingerprint is that of the source it was begun with. -/
  begun : t.phase.hasBegun = true →
    ∃ w, s.writes.find? (·.after.phase = .pending) = some w ∧
      t.status.bind Status.digest = some (w.before.spec.source.digest config.version)
  /-- Its ConfigMap holds the files it was started with. -/
  started : t.phase.hasStarted = true →
    ∃ w id c, s.writes.find? (·.after.phase = .running) = some w ∧ w.before.check = .ok () ∧
      t.testId? = some id ∧
      s.store.configMaps.get?
        ⟨t.metadata.namespaceName.getD "", generationName t.nameAny id⟩ = some c ∧
      c.data = some (Workload.configData w.before.spec)

/-- The moves of a single controller and of those who edit the source of its Test: the Test is made
once, its source is edited, Pods progress, and the controller sets out with the Test as it is stored
when it has finished before. -/
inductive Solo (p : Place) (config : Config) (s : System) : Move → Prop where
  /-- The Test is made. -/
  | made {t : Test} (hs : s.past = []) (hp : t.metadata.place = p) (ht : t.status = none) :
    Solo p config s (.edit (.putTest (some t)))
  /-- Its source is edited. -/
  | edited {q : Place} {t : Test} (source : Source) (ht : s.store.tests.get? q = some t) :
    Solo p config s (.edit (.setSpec q (some { t.spec with source })))
  /-- Pods progress. -/
  | progressed {e : Rehearsal.Edit} (he : e.aboutPods = true) : Solo p config s (.edit e)
  /-- The controller sets out. -/
  | launched {t : Test} (hf : ∀ task ∈ s.tasks, task.Finished)
    (ht : s.store.tests.get? p = some t) : Solo p config s (.launch (.reconcile config t))
  /-- A question of the controller is answered. -/
  | answered (i : Nat) (f : Fate) : Solo p config s (.answer i f)

/-- What holds while a single controller is at work. -/
structure Lone (p : Place) (config : Config) (s : System) : Prop where
  /-- All that was ever stored is the one Test. -/
  placed : ∀ t ∈ s.past, t.metadata.place = p
  /-- Only its source, its version and its status changed. -/
  fixed : ∀ t ∈ s.past, ∀ u ∈ s.past, t.fixed = u.fixed
  /-- Only the last controller may have something left to do. -/
  last : ∀ i t, s.tasks[i]? = some t → ¬ t.Finished → i + 1 = s.tasks.length
  /-- Until it has finished, the status is the one that it observed. -/
  observed : ∀ t ∈ s.tasks, ¬ t.Finished → ∀ u, s.store.tests.get? p = some u →
    u.status = t.job.observed.status
  /-- Until it has finished, what it has applied is stored. -/
  applied : ∀ t ∈ s.tasks, ¬ t.Finished → ∀ q c, lastConfigMap? t.heard q = some c →
    s.store.configMaps.get? q = some c
  /-- What is stored about the generation is known. -/
  generation : ∀ u, s.store.tests.get? p = some u → s.Generation config u

theorem Solo.known (h : s.store.History s.past) {m : Move} (hm : Solo p config s m) :
    s.Known m := by
  cases hm with
  | launched hf ht => exact h.mem_of_get? ht
  | made | edited | progressed | answered => trivial

/-- The jobs of a single controller. -/
theorem Reaches.solo_jobs (h : Reaches (Solo p config) s) {t : Task} (ht : t ∈ s.tasks) :
    t.job.config = config ∧ t.job.action = .ofPhase t.job.observed.phase := by
  refine (h.jobs (P := fun j => j.config = config ∧ j.action = .ofPhase j.observed.phase)
    fun s j hj => ?_).1 t ht
  cases hj with
  | launched hf ht => exact ⟨rfl, rfl⟩

theorem Lone.empty : Lone p config {} where
  placed := by simp
  fixed := by simp
  last := by simp
  observed := by simp
  applied := by simp
  generation u hu := by simp [Table.get?] at hu

/-! #### The moves of others -/

theorem generation_of_not_hasBegun {t : Test} (h : t.phase.hasBegun = false) :
    s.Generation config t where
  begun hb := by rw [h] at hb; cases hb
  started hs := by
    cases hp : t.phase <;> rw [hp] at h hs <;> cases h <;> cases hs

/-- The generation is a matter of the status, the writes and the ConfigMaps. -/
theorem Generation.congr {s' : System} {t u : Test} (h : s.Generation config t)
    (hs : u.status = t.status) (hf : u.fixed = t.fixed) (hw : s'.writes = s.writes)
    (hc : s'.store.configMaps = s.store.configMaps) : s'.Generation config u := by
  have hp : u.phase = t.phase := by rw [Test.phase, Test.phase, hs]
  have hi : u.testId? = t.testId? := by rw [Test.testId?, Test.testId?, hs]
  exact {
    begun := by
      rw [hp, hs, hw]
      exact h.begun
    started := by
      rw [hp, hi, hw, hc, Test.namespaceName_of_fixed hf, Test.nameAny_of_fixed hf]
      exact h.started }

theorem Lone.made (hs : s.Sound) (hn : s.past = []) {t : Test} (hp : t.metadata.place = p)
    (ht : t.status = none) : (s.step (.edit (.putTest (some t)))).Lone p config := by
  have hm : ∀ u ∈ (s.step (.edit (.putTest (some t)))).past,
      u = t.numbered (s.store.versions + 1) := by
    intro u hu
    rcases hs.history.mem_put rfl hu with hu | hu
    · exact hu
    · rw [hn] at hu
      cases hu
  have hnone : ∀ task ∈ s.tasks, False := by
    intro task hi
    have hm := (hs.tasks task hi).observed
    rw [hn] at hm
    cases hm
  exact {
    placed := fun u hu => (hm u hu) ▸ hp
    fixed := fun u hu v hv => (hm u hu) ▸ (hm v hv) ▸ rfl
    last := fun i task hi => (hnone task (List.mem_of_getElem? hi)).elim
    observed := fun task hi => (hnone task hi).elim
    applied := fun task hi => (hnone task hi).elim
    generation := by
      intro u hu
      have hst := hs.keep ((Rehearsal.Edit.putTest (some t)).change_after hs.history)
      rw [hm u (hst.history.mem_of_get? hu)]
      exact generation_of_not_hasBegun (by rw [Test.phase_numbered, Test.phase, ht]; rfl) }

/-- When a Test takes the place of one that differs from it only in what is edited, all that was
ever stored is still the one Test. -/
theorem Lone.past_put (hs : s.Sound) (h : s.Lone p config) {store : Store} {q : Place}
    {t u : Test} (hst : store.tests = s.store.tests.put q u) (ht : t ∈ s.past)
    (hf : u.fixed = t.fixed) :
    (∀ v ∈ (s.keep store).past, v.metadata.place = p) ∧
      ∀ v ∈ (s.keep store).past, ∀ w ∈ (s.keep store).past, v.fixed = w.fixed := by
  have hm : ∀ v ∈ (s.keep store).past, v.fixed = t.fixed := by
    intro v hv
    rcases hs.history.mem_put hst hv with rfl | hv
    · exact hf
    · exact h.fixed v hv t ht
  refine ⟨fun v hv => ?_, fun v hv w hw => (hm v hv).trans (hm w hw).symm⟩
  exact (Test.place_of_fixed (hm v hv)).trans (h.placed t ht)

theorem Lone.edited (hs : s.Sound) (h : s.Lone p config) {q : Place} {t : Test} {source : Source}
    (ht : s.store.tests.get? q = some t) :
    (s.step (.edit (.setSpec q (some { t.spec with source })))).Lone p config := by
  obtain rfl : q = p := (hs.history.place_of_get? ht).symm.trans
    (h.placed t (hs.history.mem_of_get? ht))
  have hm := hs.history.mem_of_get? ht
  rw [step, Rehearsal.Edit.after_setSpec ht]
  let u : Test := ({ t with spec := { t.spec with source } } : Test).numbered (s.store.versions + 1)
  have hf : u.fixed = t.fixed := rfl
  have hst : (s.store.putTest q { t with spec := { t.spec with source } }).1.tests =
      s.store.tests.put q u := rfl
  have hg : ∀ v, (s.store.tests.put q u).get? q = some v → v = u := by
    intro v hv
    simpa [eq_comm] using hv
  obtain ⟨hplaced, hfixed⟩ := h.past_put hs hst hm hf
  exact {
    placed := hplaced
    fixed := hfixed
    last := h.last
    observed := fun task hi ho v hv => by
      rw [hg v hv]
      exact h.observed task hi ho t ht
    applied := h.applied
    generation := fun v hv => by
      rw [hg v hv]
      exact (h.generation t ht).congr rfl hf rfl rfl }

theorem Lone.progressed (hs : s.Sound) (h : s.Lone p config) {e : Rehearsal.Edit}
    (he : e.aboutPods = true) : (s.step (.edit e)).Lone p config := by
  obtain ⟨pods, ha⟩ := e.after_of_aboutPods he s.store
  have hm : ∀ u ∈ (s.step (.edit e)).past, u ∈ s.past := by
    intro u hu
    exact hs.history.mem_fewer (by rw [ha]; exact fun _ => id) hu
  have htests : (e.after s.store).tests = s.store.tests := by rw [ha]
  have hconfigMaps : (e.after s.store).configMaps = s.store.configMaps := by rw [ha]
  exact {
    placed := fun u hu => h.placed u (hm u hu)
    fixed := fun u hu v hv => h.fixed u (hm u hu) v (hm v hv)
    last := h.last
    observed := fun t hi ho u hu => h.observed t hi ho u (htests ▸ hu)
    applied := fun t hi ho q c hc => hconfigMaps ▸ h.applied t hi ho q c hc
    generation := fun u hu => (h.generation u (htests ▸ hu)).congr rfl rfl rfl hconfigMaps }

theorem Lone.launched (h : s.Lone p config) {t : Test} (hf : ∀ task ∈ s.tasks, task.Finished)
    (ht : s.store.tests.get? p = some t) :
    (s.step (.launch (.reconcile config t))).Lone p config := by
  have hnew : ∀ task ∈ s.tasks ++ [.begin (.reconcile config t)], ¬ task.Finished →
      task = .begin (.reconcile config t) := by
    intro task hi ho
    rcases List.mem_append.1 hi with hi | hi
    · exact absurd (hf task hi) ho
    · exact List.mem_singleton.1 hi
  exact {
    placed := h.placed
    fixed := h.fixed
    last := fun i task hi ho => by
      rcases Nat.lt_trichotomy i s.tasks.length with hlt | rfl | hlt
      · rw [step, List.getElem?_append_left hlt] at hi
        exact absurd (hf task (List.mem_of_getElem? hi)) ho
      · simp [step]
      · rw [step, List.getElem?_append_right (Nat.le_of_lt hlt), List.getElem?_eq_none] at hi
        · cases hi
        · simp only [List.length_singleton]
          omega
    observed := fun task hi ho u hu => by
      rw [hnew task hi ho]
      exact congrArg Test.status (Option.some.inj (hu.symm.trans ht))
    applied := fun task hi ho q c hc => by
      rw [hnew task hi ho] at hc
      cases hc
    generation := fun u hu => (h.generation u hu).congr rfl rfl rfl rfl }

/-! #### The moves of the controller -/

/-- What a change of the status keeps, it keeps of a Test that stands in some phase. -/
theorem bind_withStatus {α : Type} {t : Test} {F : Status → Option α} {change : Status → Status}
    (hp : t.phase ≠ .unset) (hF : ∀ st, F (change st) = F st) :
    (t.withStatus change).status.bind F = t.status.bind F := by
  cases hs : t.status with
  | none => exact absurd (by rw [Test.phase, hs]; rfl) hp
  | some st => simp [Test.withStatus, hs, hF]

/-- A write that neither begins a generation nor touches the fingerprint leaves it as it was. -/
theorem Generation.begun_kept {s' : System} {old u : Test} {change : Status → Status}
    (hg : s.Generation config old) (hb : old.phase.hasBegun = true)
    (hu : u.status = (old.withStatus change).status)
    (hd : ∀ st, (change st).digest = st.digest)
    (hw : s'.writes.find? (·.after.phase = .pending) =
      s.writes.find? (·.after.phase = .pending)) :
    ∃ w, s'.writes.find? (·.after.phase = .pending) = some w ∧
      u.status.bind Status.digest = some (w.before.spec.source.digest config.version) := by
  obtain ⟨w, hf, hdig⟩ := hg.begun hb
  have hne : old.phase ≠ .unset := by
    intro hp
    rw [hp] at hb
    cases hb
  refine ⟨w, hw.trans hf, ?_⟩
  rw [hu, ← hdig]
  exact bind_withStatus hne hd

/-- What is known about the generation after the controller has written: a generation that begins
carries the fingerprint of the source that is stored, one that is started has the files of the spec
that is stored, and judging a run changes neither. -/
theorem Generation.written {s' : System} {old copy u : Test} {a : Action} {w : Write}
    {earlier round : List Exchange} (hg : s.Generation config old)
    (hc : Computes config old a round copy) (ha : Action.ofPhase old.phase = a)
    (happ : ∀ q c, lastConfigMap? (earlier ++ round) q = some c →
      s.store.configMaps.get? q = some c)
    (hu : u.status = copy.status) (hf : u.fixed = old.fixed) (hw : s'.writes = w :: s.writes)
    (hb : w.before = old) (hwu : w.after = u)
    (hcm : s'.store.configMaps = s.store.configMaps) : s'.Generation config u := by
  have hp : u.phase = copy.phase := by rw [Test.phase, Test.phase, hu]
  have hi : u.testId? = copy.testId? := by rw [Test.testId?, Test.testId?, hu]
  have hh := Action.handles_iff.2 ha
  have hnew : ∀ phase, u.phase = phase → s'.writes.find? (·.after.phase = phase) = some w := by
    intro phase hp'
    rw [hw, List.find?_cons_of_pos (by simp [hwu, hp'])]
  have hold : ∀ phase, u.phase ≠ phase →
      s'.writes.find? (·.after.phase = phase) = s.writes.find? (·.after.phase = phase) := by
    intro phase hp'
    rw [hw, List.find?_cons_of_neg (by simp [hwu, hp'])]
  cases hc with
  | begun id hcheck =>
    refine ⟨fun _ => ⟨w, hnew _ hp, by rw [hu, hb]; rfl⟩, fun hs => ?_⟩
    rw [hp] at hs
    cases hs
  | refused id now hcheck => exact generation_of_not_hasBegun (by rw [hp]; rfl)
  | @started namespaceName wl now hn hwl =>
    have hop : old.phase = .pending := by simpa [Action.handles] using hh
    have hne : old.phase ≠ .unset := by simp [hop]
    have hup : u.phase = .running := hp
    refine ⟨fun _ => ?_, fun _ => ?_⟩
    · exact hg.begun_kept (by rw [hop]; rfl) hu (fun _ => rfl) (hold _ (by rw [hup]; decide))
    · obtain ⟨hcheck, namespaceName', id, c, hn', hid, hl, hd⟩ :=
        (Computes.started now hn hwl).lastConfigMap?_start earlier
      refine ⟨w, id, c, hnew _ hp, hb ▸ hcheck, ?_, ?_, hb ▸ hd⟩
      · rw [hi, ← hid]
        exact bind_withStatus hne fun _ => rfl
      · rw [hcm, Test.namespaceName_of_fixed hf, Test.nameAny_of_fixed hf, hn']
        exact happ _ c hl
  | @judged namespaceName es phase kept now hn hv =>
    have hop : old.phase = .running := by simpa [Action.handles] using hh
    have hne : old.phase ≠ .unset := by simp [hop]
    -- a judged Test is neither of the two that a write is looked for
    have hup : u.phase ≠ .pending ∧ u.phase ≠ .running := by
      rw [show u.phase = phase from hp]
      cases hv <;> decide
    refine ⟨fun _ => ?_, fun _ => ?_⟩
    · exact hg.begun_kept (by rw [hop]; rfl) hu (fun _ => rfl) (hold _ hup.1)
    · obtain ⟨w₀, id, c, hw₀, hcheck, hid, hl, hd⟩ := hg.started (by rw [hop]; rfl)
      refine ⟨w₀, id, c, (hold _ hup.2).trans hw₀, hcheck, ?_, ?_, hd⟩
      · rw [hi, ← hid]
        exact bind_withStatus hne fun _ => rfl
      · rw [hcm, Test.namespaceName_of_fixed hf, Test.nameAny_of_fixed hf]
        exact hl
  | restarted hd => exact generation_of_not_hasBegun (by rw [hp]; rfl)

section Hear

variable {i : Nat} {t : Task} {q : Query} {next : q.Answer → Program t.job.Result}
  (hq : t.rest = .ask q next) (f : Fate)

/-- The controller that is answered is the only one that may have something left to do. -/
theorem Lone.open_hear (h : s.Lone p config) (hi : s.tasks[i]? = some t) {j : Nat} {t' : Task}
    (hj : (s.hear i t hq f).tasks[j]? = some t') (ho : ¬ t'.Finished) :
    j + 1 = s.tasks.length ∧ t' = t.hear hq (s.store.answer f q).1 := by
  have hil := h.last i t hi (Task.not_finished_of_ask hq)
  by_cases he : i = j
  · subst he
    rw [task_hear hq f hi] at hj
    exact ⟨hil, (Option.some.inj hj).symm⟩
  · rw [task_hear_ne hq f he] at hj
    have hjl := h.last j t' hj ho
    omega

include hq in
/-- While objects are applied the Test is `Pending`. -/
theorem Lone.phase_of_apply (h : s.Lone p config) (hi : s.tasks[i]? = some t)
    (hj : t.job.action = .ofPhase t.job.observed.phase) {c : ConfigMap}
    (he : (⟨q, (s.store.answer f q).1⟩ : Exchange).configMap? = some c) {u : Test}
    (hu : s.store.tests.get? p = some u) : u.phase = .pending := by
  obtain rfl : q = .apply (.configMap c) :=
    congrArg Exchange.query (Exchange.configMap?_eq_some_iff.1 he)
  have hw : t.job.program.Walk t.heard (.ask _ next) := hq ▸ t.walk
  have ha := Action.handles_iff.2 (hj ▸ Job.walk_apply hw)
  have hs := h.observed t (List.mem_of_getElem? hi) (Task.not_finished_of_ask hq) u hu
  have hp : u.phase = t.job.observed.phase := by rw [Test.phase, Test.phase, hs]
  rw [hp]
  simpa [Action.handles] using ha

/-- An answer that is not a write that was accepted. -/
theorem Lone.hear_quiet (hs : s.Sound) (h : s.Lone p config) (hi : s.tasks[i]? = some t)
    (hj : t.job.action = .ofPhase t.job.observed.phase)
    (htests : (s.hear i t hq f).store.tests = s.store.tests)
    (hw : (s.hear i t hq f).writes = s.writes) : (s.hear i t hq f).Lone p config := by
  have ht := List.mem_of_getElem? hi
  have ho := Task.not_finished_of_ask hq
  have hfewer : ∀ e ∈ (s.hear i t hq f).store.tests.entries, e ∈ s.store.tests.entries := by
    rw [htests]
    exact fun _ => id
  have hm : ∀ u ∈ (s.hear i t hq f).past, u ∈ s.past := fun u => hs.history.mem_fewer hfewer
  exact {
    placed := fun u hu => h.placed u (hm u hu)
    fixed := fun u hu v hv => h.fixed u (hm u hu) v (hm v hv)
    last := fun j t' hj' ho' => by
      rw [(h.open_hear hq f hi hj' ho').1]
      exact (List.length_set ..).symm
    observed := fun t' ht' ho' u hu => by
      obtain ⟨j, hj'⟩ := List.getElem?_of_mem ht'
      rw [(h.open_hear hq f hi hj' ho').2]
      exact h.observed t ht ho u (htests ▸ hu)
    applied := fun t' ht' ho' => by
      obtain ⟨j, hj'⟩ := List.getElem?_of_mem ht'
      rw [(h.open_hear hq f hi hj' ho').2]
      exact Store.holds_answer (h.applied t ht ho)
    generation := fun u hu => by
      rw [htests] at hu
      cases he : (⟨q, (s.store.answer f q).1⟩ : Exchange).configMap? with
      | none =>
        refine (h.generation u hu).congr rfl rfl hw ?_
        rw [store_hear, Store.configMaps_answer, he]
      | some c =>
        have hp := h.phase_of_apply hq f hi hj he hu
        refine ⟨fun hb => hw ▸ (h.generation u hu).begun hb, fun hst => ?_⟩
        rw [hp] at hst
        cases hst }

/-- A controller is done with a write that is accepted, and so none has anything left to do. -/
theorem Lone.finished_hear (h : s.Lone p config) (hi : s.tasks[i]? = some t) {copy after : Test}
    (he : (⟨q, (s.store.answer f q).1⟩ : Exchange) = ⟨.writeStatus copy, .ok after⟩) :
    ∀ t' ∈ (s.hear i t hq f).tasks, t'.Finished := by
  intro t' ht'
  obtain ⟨j, hj⟩ := List.getElem?_of_mem ht'
  by_cases ho : t'.Finished
  · exact ho
  · obtain ⟨-, rfl⟩ := h.open_hear hq f hi hj ho
    exact ⟨_, Task.rest_hear_accepted hq he⟩

/-- A write that was accepted. -/
theorem Lone.hear_write (hs : s.Sound) (h : s.Lone p config) (hi : s.tasks[i]? = some t)
    (hj : t.job.config = config ∧ t.job.action = .ofPhase t.job.observed.phase) {copy old : Test}
    (he : (⟨q, (s.store.answer f q).1⟩ : Exchange) =
      ⟨.writeStatus copy, .ok (s.store.overwritten old copy)⟩)
    (hold : s.store.tests.get? copy.home = some old)
    (hst : (s.hear i t hq f).store =
      (s.store.putTest copy.home { old with status := copy.status }).1)
    (hw : (s.hear i t hq f).writes =
      ⟨t.job, t.heard, old, copy, s.store.overwritten old copy⟩ :: s.writes) :
    (s.hear i t hq f).Lone p config := by
  have ht := List.mem_of_getElem? hi
  have ho := Task.not_finished_of_ask hq
  have hmem := hs.history.mem_of_get? hold
  have hhome : copy.home = p := (hs.history.place_of_get? hold).symm.trans (h.placed old hmem)
  have hputs : (s.hear i t hq f).store.tests =
      s.store.tests.put copy.home (s.store.overwritten old copy) := by
    rw [hst]
    rfl
  have hf : (s.store.overwritten old copy).fixed = old.fixed := rfl
  have hdone := h.finished_hear hq f hi he
  obtain ⟨hplaced, hfixed⟩ := h.past_put hs hputs hmem hf
  exact {
    placed := hplaced
    fixed := hfixed
    last := fun j t' hj' ho' => absurd (hdone t' (List.mem_of_getElem? hj')) ho'
    observed := fun t' ht' ho' => absurd (hdone t' ht') ho'
    applied := fun t' ht' ho' => absurd (hdone t' ht') ho'
    generation := fun u hu => by
      obtain rfl : s.store.overwritten old copy = u := by
        rw [hputs, hhome] at hu
        simpa using hu
      have hs' := hs.hear (i := i) hq f ht
      obtain ⟨_, _, earlier, round, -, -, hh, hr, hc⟩ :=
        (hs'.writes _ (hw ▸ List.mem_cons_self)).computed hs'.history.unique
      have hop : old.phase = t.job.observed.phase := hr.phase_eq rfl
      have happ := h.applied t ht ho
      rw [show t.heard = earlier ++ round from hh] at happ
      rw [hj.1] at hc
      exact (h.generation old (hhome ▸ hold)).written hc (hop ▸ hj.2.symm) happ rfl hf hw rfl rfl
        (by rw [hst]; rfl) }

theorem Lone.answered (hs : s.Sound) (h : s.Lone p config)
    (hj : ∀ t ∈ s.tasks, t.job.config = config ∧ t.job.action = .ofPhase t.job.observed.phase)
    (i : Nat) (f : Fate) : (s.step (.answer i f)).Lone p config := by
  rw [step]
  rcases s.answer_eq i f with ha | ⟨t, q, next, hq, hi, ha⟩
  · rwa [ha]
  · rw [ha]
    have hjt := hj t (List.mem_of_getElem? hi)
    rcases s.hear_cases (i := i) hq f with ⟨-, ht, -, hw⟩ | ⟨copy, old, he, ho, -, hst, hw⟩
    · exact h.hear_quiet hq f hs hi hjt.2 ht hw
    · exact h.hear_write hq f hs hi hjt he ho hst hw

end Hear

/-! #### All runs -/

theorem Reaches.solo (h : Reaches (Solo p config) s) : s.Sound ∧ s.Lone p config := by
  induction h with
  | empty => exact ⟨.empty, .empty⟩
  | @step s m h hm ih =>
    obtain ⟨hs, hl⟩ := ih
    refine ⟨hs.step (hm.known hs.history), ?_⟩
    cases hm with
    | made hn hp ht => exact Lone.made hs hn hp ht
    | edited source ht => exact hl.edited hs ht
    | progressed he => exact hl.progressed hs he
    | launched hf ht => exact hl.launched hf ht
    | answered i f => exact hl.answered hs (fun t => h.solo_jobs) i f

end System

end Proctor
