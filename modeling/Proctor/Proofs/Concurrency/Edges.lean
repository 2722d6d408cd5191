import Proctor.Proofs.Concurrency.Accounting

/-!
# The moves of racing controllers

Any number of controllers reconcile, each from any copy that the store ever held, while others edit
what is stored. The phase is compared on a copy, before the write and not with it, and still every
write that is accepted moves the phase that is stored at that moment along one of the edges of
`Phase.leadsTo`: the copy stands in the phase that the controller observed, and the Test that is
written over is the copy (`Write.Accounted.computed`).
-/

namespace Proctor.System

variable {s : System}

/-- Controllers reconcile, each from a Test that was stored at some time. -/
def Reconciling (s : System) : Move → Prop
  | .launch j => j.observed ∈ s.past ∧ ∃ config t, j = .reconcile config t
  | .edit _ | .answer _ _ => True

theorem Reconciling.known {m : Move} (h : s.Reconciling m) : s.Known m := by
  cases m with
  | launch j => exact h.1
  | edit e => trivial
  | answer i f => trivial

/-- Controllers that reconcile run the action of the phase that they observed. -/
theorem Reaches.actions (h : Reaches Reconciling s) :
    (∀ t ∈ s.tasks, t.job.action = .ofPhase t.job.observed.phase) ∧
      ∀ w ∈ s.writes, w.job.action = .ofPhase w.job.observed.phase := by
  refine h.jobs (P := fun j => j.action = .ofPhase j.observed.phase) fun s j hj => ?_
  obtain ⟨-, config, t, rfl⟩ := hj
  rfl

/-- What a controller that reconciles writes was computed by the action of the phase of the Test
that it is written over, and of that Test it changes the status alone. -/
theorem Reaches.computed (h : Reaches Reconciling s) {w : Write} (hw : w ∈ s.writes) :
    ∃ earlier round n, w.heard = earlier ++ round ∧
      Computes w.job.config w.before (.ofPhase w.before.phase) round w.copy ∧
      w.after = ({ w.before with status := w.copy.status } : Test).numbered n := by
  have hs := h.sound fun _ _ => Reconciling.known
  obtain ⟨n, ha⟩ := (hs.writes w hw).after
  obtain ⟨_, _, earlier, round, -, -, hh, hr, hc⟩ :=
    (hs.writes w hw).computed hs.history.unique
  have hp : w.before.phase = w.job.observed.phase := hr.phase_eq rfl
  rw [h.actions.2 w hw, ← hp] at hc
  exact ⟨earlier, round, n, hh, hc, ha⟩

/-- A write of a controller that reconciles moves the Test that is stored along an edge, and changes
nothing of it but the status and the version. -/
theorem Reaches.leadsTo (h : Reaches Reconciling s) {w : Write} (hw : w ∈ s.writes) :
    w.before.phase.leadsTo w.after.phase = true ∧
      ∃ n, w.after = ({ w.before with status := w.after.status } : Test).numbered n := by
  obtain ⟨_, _, n, -, hc, ha⟩ := h.computed hw
  refine ⟨?_, n, ?_⟩
  · rw [ha]
    exact hc.leadsTo rfl
  · rw [ha]
    rfl

/-- No two writes that were accepted carried one version. -/
theorem Reaches.nodup_versions (h : Reaches Reconciling s) :
    (s.writes.map fun w => w.copy.version?).Nodup := by
  have hs := h.sound fun _ _ => Reconciling.known
  have he : (s.writes.map fun w => w.copy.version?) = s.writes.map fun w => w.before.version? :=
    List.map_congr_left fun w hw => (hs.writes w hw).version.symm
  exact he ▸ hs.distinct

/-- Whoever a question is answered to, the Tests that are stored stay as they are, or a write is
accepted. It carries the version that is stored, which no other write that was accepted carried; it
takes the phase that is stored at that moment along one of the edges, and so it never leaves
`Updating` or `Deleting`; and of the Test it changes nothing but the status and the version. -/
theorem reconciling_answer (h : Reaches Reconciling s) (i : Nat) (f : Fate) :
    (s.step (.answer i f)).store.tests = s.store.tests ∧
        (s.step (.answer i f)).writes = s.writes ∨
      ∃ w, (s.step (.answer i f)).writes = w :: s.writes ∧
        s.store.tests.get? w.copy.home = some w.before ∧
        (s.step (.answer i f)).store.tests = s.store.tests.put w.copy.home w.after ∧
        w.copy.version? = w.before.version? ∧
        (∀ w' ∈ s.writes, w'.copy.version? ≠ w.copy.version?) ∧
        w.before.phase.leadsTo w.after.phase = true ∧
        w.before.phase ≠ .updating ∧ w.before.phase ≠ .deleting ∧
        ∃ n, w.after = ({ w.before with status := w.after.status } : Test).numbered n := by
  have h' : Reaches Reconciling (s.step (.answer i f)) := h.step trivial
  rw [System.step] at h' ⊢
  rcases s.answer_eq i f with ha | ⟨t, q, next, hq, ht, ha⟩
  · rw [ha]
    exact Or.inl ⟨rfl, rfl⟩
  · rw [ha] at h' ⊢
    rcases s.hear_cases (i := i) hq f with ⟨-, hts, -, hw⟩ | ⟨copy, old, -, ho, hv, hst, hw⟩
    · exact Or.inl ⟨hts, hw⟩
    · have hm : _ ∈ (s.hear i t hq f).writes := hw ▸ List.mem_cons_self
      have hn := h'.nodup_versions
      rw [hw, List.map_cons, List.nodup_cons] at hn
      obtain ⟨hl, n, hu⟩ := h'.leadsTo hm
      have hput : (s.hear i t hq f).store.tests =
          s.store.tests.put copy.home (s.store.overwritten old copy) := by
        rw [hst]
        rfl
      refine Or.inr ⟨_, hw, ho, hput, hv.symm, fun w' hw' he => ?_, hl, fun hp => ?_,
        fun hp => ?_, n, hu⟩
      · exact hn.1 (he ▸ List.mem_map_of_mem hw')
      · rw [hp] at hl
        cases hl
      · rw [hp] at hl
        cases hl

/-- A Test whose Pod is gone. -/
def orphan : Test :=
  { metadata := { name := some "hello", namespaceName := some "default" }
    spec := { source := { name := "hello.feature" } }
    status := some { phase := .running, testId := some "1" } }

/-- An answer that nothing keeps from the store. -/
def plainFate : Fate := ⟨"2", default, none⟩

/-- Two controllers set out with the same copy and come to the point where both are about to
write. -/
def race : List Move :=
  [.edit (.putTest (some orphan)), .launch (.reconcile {} (orphan.numbered 1)),
    .launch (.reconcile {} (orphan.numbered 1)), .answer 0 plainFate, .answer 1 plainFate,
    .answer 0 plainFate, .answer 1 plainFate]

theorem reaches_race : Reaches Reconciling (run {} race) :=
  .run .empty ⟨trivial, ⟨.head _, _, _, rfl⟩, ⟨.head _, _, _, rfl⟩, trivial, trivial, trivial,
    trivial, trivial⟩

theorem race_won : Reaches Reconciling (run {} race) ∧
    ∃ w, ((run {} race).step (.answer 1 plainFate)).writes = [w] ∧
      w.before.phase.leadsTo w.after.phase = true := by
  refine ⟨reaches_race, ?_⟩
  rcases reconciling_answer reaches_race 1 plainFate with
    ⟨-, h⟩ | ⟨w, hw, -, -, -, -, hl, -, -, -⟩
  · exact absurd (congrArg List.length h) (by decide)
  · exact ⟨w, hw, hl⟩

/-- The other one is refused then. -/
example : (run {} (race ++ [.answer 1 plainFate, .answer 0 plainFate])).writes.length = 1 := by
  decide

end Proctor.System
