import Proctor.Proofs.Concurrency.Statuses

/-!
# The controllers come to rest

A status that is written makes controllers look at the Test again, so they have to come to rest by
themselves. Once Tests are left alone, the statuses that can still be written over one are numbered
by its phase and its fingerprint (`Test.left`): what is left of its generation, and another
generation if the fingerprint is not that of its source. A generation that is begun takes the
fingerprint of the source, so there is none after it. Every write lowers the number, whatever
becomes of Pods, whatever faults the store tells, and however old the copies are that controllers
set out with.

## What is left out

That a Test comes to its end is not claimed. Its Pod may run for ever, a store may tell faults for
ever, and a move may never be made; a Test that is `Running` then stays so. What is shown is that
controllers do not keep each other busy.
-/

namespace Proctor

namespace Test

variable {version : String} {t u : Test}

/-- The statuses that are written for another generation, if the fingerprint calls for one. -/
def debt (version : String) (t : Test) : Nat :=
  if t.status.bind Status.digest = some (t.spec.source.digest version) then 0 else 4

/-- How many statuses can still be written over a Test that is left alone. -/
def left (version : String) (t : Test) : Nat :=
  match t.phase with
  | .unset | .new => 3
  | .pending => 2 + t.debt version
  | .running => 1 + t.debt version
  | .passed | .failed | .error => t.debt version
  | .updating | .deleting => 0

theorem debt_eq_zero_iff :
    t.debt version = 0 ↔ t.status.bind Status.digest = some (t.spec.source.digest version) := by
  simp [debt]

theorem debt_cases (version : String) (t : Test) : t.debt version = 0 ∨ t.debt version = 4 := by
  rw [debt]
  split
  · exact Or.inl rfl
  · exact Or.inr rfl

/-- A change of the status that keeps the fingerprint. -/
theorem debt_withStatus {f : Status → Status} (hf : ∀ st, (f st).digest = st.digest) :
    (t.withStatus f).debt version = t.debt version := by
  have hd : (t.withStatus f).status.bind Status.digest = t.status.bind Status.digest := by
    rw [withStatus, Option.bind_some, hf]
    cases t.status <;> rfl
  rw [debt, debt, hd]
  rfl

theorem left_congr (hs : u.status = t.status) (hp : u.spec = t.spec) :
    u.left version = t.left version := by
  rw [left, left, debt, debt, phase_congr hs, hs, hp]

theorem left_eq_three (h : t.phase.isInitial = true) : t.left version = 3 := by
  rw [left]
  cases hp : t.phase <;> rw [hp] at h <;> first | rfl | cases h

theorem left_of_pending (h : t.phase = .pending) : t.left version = 2 + t.debt version := by
  rw [left, h]

theorem left_of_running (h : t.phase = .running) : t.left version = 1 + t.debt version := by
  rw [left, h]

theorem left_eq_debt (h : t.phase.isTerminal = true) : t.left version = t.debt version := by
  rw [left]
  cases hp : t.phase <;> rw [hp] at h <;> first | rfl | cases h

theorem left_le (version : String) (t : Test) : t.left version ≤ 6 := by
  have hd := t.debt_cases version
  rw [left]
  split <;> omega

end Test

theorem Phase.ne_of_leadsTo {p q : Phase} (h : p.leadsTo q = true) : p ≠ q := by
  rintro rfl
  cases p <;> cases h

/-- An action that is run on a phase of its own leaves less to be written. -/
theorem Computes.left_lt {config : Config} {t u : Test} {a : Action} {es : List Exchange}
    (h : Computes config t a es u) (ha : Action.ofPhase t.phase = a) :
    u.left config.version < t.left config.version := by
  have hh := Action.handles_iff.2 ha
  cases h with
  | begun id hc =>
    rw [Test.left_eq_three hh, Test.left_of_pending rfl, Test.debt_eq_zero_iff.2 rfl]
    decide
  | refused id now hc =>
    rw [Test.left_eq_three hh, Test.left_eq_debt rfl, Test.debt_eq_zero_iff.2 rfl]
    decide
  | started now hn hw =>
    have hp : t.phase = .pending := by simpa [Action.handles] using hh
    rw [Test.left_of_pending hp, Test.left_of_running rfl, Test.debt_withStatus]
    · omega
    · exact fun _ => rfl
  | @judged namespaceName es phase kept now hn hv =>
    have hp : t.phase = .running := by simpa [Action.handles] using hh
    have ht : (t.withStatus fun s => s.finished phase kept now).phase.isTerminal = true := by
      cases hv <;> rfl
    rw [Test.left_of_running hp, Test.left_eq_debt ht, Test.debt_withStatus]
    · omega
    · exact fun _ => rfl
  | restarted hd =>
    rw [Test.left_eq_debt hh, Test.left_eq_three rfl, Test.debt, if_neg hd]
    decide

namespace System

variable {version : String} {p : Place} {s s' : System} {m : Move} {new : List Write}

/-! ### Tests that are left alone -/

/-- Controllers of one version reconcile, each from a Test that was stored at some time, and nobody
else touches Tests. Pods may do anything, and the store may tell any faults. -/
def Calm (version : String) (s : System) : Move → Prop
  | .edit e => e.aboutPods = true
  | .launch j => s.Reconciling (.launch j) ∧ j.config.version = version
  | .answer _ _ => True

/-- Controllers of other versions have nothing left to do. -/
def Uniform (version : String) (s : System) : Prop :=
  ∀ t ∈ s.tasks, t.Finished ∨ t.job.config.version = version

theorem Calm.reconciling (h : s.Calm version m) : s.Reconciling m := by
  cases m with
  | launch j => exact h.1
  | edit _ | answer _ _ => trivial

theorem Uniform.step (hu : s.Uniform version) (hm : s.Calm version m) :
    (s.step m).Uniform version := by
  cases m with
  | edit e => exact hu
  | launch j =>
    intro t ht
    rcases List.mem_append.1 ht with ht | ht
    · exact hu t ht
    · obtain rfl := List.mem_singleton.1 ht
      exact Or.inr hm.2
  | answer i f =>
    rw [System.step]
    rcases s.answer_eq i f with ha | ⟨t, q, next, hq, ht, ha⟩
    · rwa [ha]
    · rw [ha]
      intro t' ht'
      rcases mem_tasks_hear hq f ht' with ht' | rfl
      · exact hu t' ht'
      · exact Or.inr ((hu t (List.mem_of_getElem? ht)).resolve_left
          (Task.not_finished_of_ask hq))

/-- A move changes no Test, or it is a write that moves one along an edge and leaves less to be
written over it. -/
theorem Reaches.calm_step (h : Reaches Reconciling s) (hu : s.Uniform version)
    (hm : s.Calm version m) :
    (s.step m).store.tests = s.store.tests ∧ (s.step m).writes = s.writes ∨
      ∃ w, (s.step m).writes = w :: s.writes ∧
        s.store.tests.get? w.copy.home = some w.before ∧
        (s.step m).store.tests = s.store.tests.put w.copy.home w.after ∧
        w.before.phase.leadsTo w.after.phase = true ∧
        w.after.left version < w.before.left version := by
  cases m with
  | launch j => exact Or.inl ⟨rfl, rfl⟩
  | edit e =>
    obtain ⟨pods, hp⟩ := e.after_of_aboutPods hm s.store
    exact Or.inl ⟨by rw [System.step, keep, hp], rfl⟩
  | answer i f =>
    have h' : Reaches Reconciling (s.step (.answer i f)) := h.step trivial
    rw [System.step] at h' ⊢
    rcases s.answer_cases i f with hquiet | ⟨t, w, ht, ⟨_, _, hq⟩, hw, hj, -, ho, ha, hst⟩
    · exact Or.inl hquiet
    · have hmem : w ∈ (s.answer i f).writes := hw ▸ List.mem_cons_self
      obtain ⟨-, round, -, -, hc, -⟩ := h'.computed hmem
      have hver : w.job.config.version = version := by
        rw [hj]
        exact (hu t (List.mem_of_getElem? ht)).resolve_left (Task.not_finished_of_ask hq)
      have hafter : w.after.left version = w.copy.left version := by
        rw [ha]
        exact Test.left_congr rfl hc.spec_eq.symm
      refine Or.inr ⟨w, hw, ho, ?_, (h'.leadsTo hmem).1, ?_⟩
      · rw [hst, ha]
        rfl
      · rw [hafter, ← hver]
        exact hc.left_lt rfl

/-! ### The count of writes -/

/-- How many statuses can still be written over the Test at a place. -/
def left (version : String) (s : System) (p : Place) : Nat :=
  match s.store.tests.get? p with
  | none => 0
  | some t => t.left version

theorem left_le (version : String) (s : System) (p : Place) : s.left version p ≤ 6 := by
  rw [left]
  split
  · exact Nat.zero_le 6
  · exact Test.left_le _ _

theorem left_eq {t : Test} (h : s.store.tests.get? p = some t) :
    s.left version p = t.left version := by
  rw [left, h]

theorem left_congr (h : s'.store.tests.get? p = s.store.tests.get? p) :
    s'.left version p = s.left version p := by
  rw [left, left, h]

/-- What the writes since some time have come to at a place. -/
structure Descent (version : String) (p : Place) (s : System) (new : List Write) (s' : System) :
    Prop where
  /-- The writes are all that there were since then. -/
  writes : s'.writes = new ++ s.writes
  /-- They changed the phase. -/
  moved : ∀ w ∈ new, w.before.phase ≠ w.after.phase
  /-- As many as there were at the place are gone from those that could be. -/
  count : new.countP (·.copy.home = p) + s'.left version p ≤ s.left version p
  /-- The Test was put back to `New` once at most. -/
  restarts : new.countP (fun w => w.copy.home = p ∧ w.after.phase = .new) ≤ 1
  /-- It was not put back as long as it is in debt. -/
  debt : 3 < s'.left version p → ∀ w ∈ new, w.copy.home = p → w.after.phase ≠ .new
  /-- After a generation was begun it is not in debt. -/
  begun : (∃ w ∈ new, w.copy.home = p ∧ w.before.phase.isInitial = true) → s'.left version p ≤ 2
  /-- Without a write at the place the Test is the same. -/
  kept : (∀ w ∈ new, w.copy.home ≠ p) → s'.store.tests.get? p = s.store.tests.get? p

theorem Descent.refl (version : String) (p : Place) (s : System) : Descent version p s [] s where
  writes := rfl
  moved := by simp
  count := by simp
  restarts := by simp
  debt := by simp
  begun := by simp
  kept _ := rfl

/-- Nothing was written. -/
theorem Descent.quiet {s'' : System} (h : Descent version p s new s')
    (ht : s''.store.tests = s'.store.tests) (hw : s''.writes = s'.writes) :
    Descent version p s new s'' := by
  have hl : s''.left version p = s'.left version p := left_congr (by rw [ht])
  exact {
    writes := hw.trans h.writes
    moved := h.moved
    count := hl ▸ h.count
    restarts := h.restarts
    debt := hl ▸ h.debt
    begun := hl ▸ h.begun
    kept := by
      rw [ht]
      exact h.kept }

/-- A status was written over the Test at the place. -/
theorem Descent.write {s'' : System} (h : Descent version p s new s') {w : Write}
    (hw : s''.writes = w :: s'.writes) (hp : w.copy.home = p)
    (hb : s'.store.tests.get? p = some w.before) (ha : s''.store.tests.get? p = some w.after)
    (hm : w.before.phase ≠ w.after.phase)
    (hl : w.after.left version < w.before.left version) :
    Descent version p s (w :: new) s'' := by
  have hb' : s'.left version p = w.before.left version := left_eq hb
  have ha' : s''.left version p = w.after.left version := left_eq ha
  have hcount := h.count
  exact {
    writes := by rw [hw, h.writes, List.cons_append]
    moved := by
      rintro v (_ | ⟨_, hv⟩)
      · exact hm
      · exact h.moved v hv
    count := by
      rw [List.countP_cons_of_pos (by simpa using hp)]
      omega
    restarts := by
      by_cases hn : w.after.phase = .new
      · -- what is put back was in debt, so this is the first time
        have hthree : w.after.left version = 3 := Test.left_eq_three (by rw [hn]; rfl)
        have hnone := h.debt (by omega)
        have hzero : new.countP (fun w => w.copy.home = p ∧ w.after.phase = .new) = 0 :=
          List.countP_eq_zero.2 fun v hv => by simpa using hnone v hv
        rw [List.countP_cons_of_pos (by simp [hp, hn])]
        exact Nat.le_of_eq (congrArg (· + 1) hzero)
      · rw [List.countP_cons_of_neg (by simp [hn])]
        exact h.restarts
    debt := by
      intro hd
      rintro v (_ | ⟨_, hv⟩)
      · intro _ hn
        have hthree : w.after.left version = 3 := Test.left_eq_three (by rw [hn]; rfl)
        omega
      · exact h.debt (by omega) v hv
    begun := by
      rintro ⟨v, hv, hvp, hi⟩
      rcases List.mem_cons.1 hv with rfl | hv
      · rw [Test.left_eq_three hi] at hl
        omega
      · have := h.begun ⟨v, hv, hvp, hi⟩
        omega
    kept := fun hk => absurd hp (hk w List.mem_cons_self) }

/-- A status was written over the Test at another place. -/
theorem Descent.elsewhere {s'' : System} (h : Descent version p s new s') {w : Write}
    (hw : s''.writes = w :: s'.writes) (hp : w.copy.home ≠ p)
    (ht : s''.store.tests.get? p = s'.store.tests.get? p)
    (hm : w.before.phase ≠ w.after.phase) : Descent version p s (w :: new) s'' := by
  have hl : s''.left version p = s'.left version p := left_congr ht
  exact {
    writes := by rw [hw, h.writes, List.cons_append]
    moved := by
      rintro v (_ | ⟨_, hv⟩)
      · exact hm
      · exact h.moved v hv
    count := by
      rw [List.countP_cons_of_neg (by simpa using hp), hl]
      exact h.count
    restarts := by
      rw [List.countP_cons_of_neg (by simp [hp])]
      exact h.restarts
    debt := by
      intro hd
      rintro v (_ | ⟨_, hv⟩)
      · exact fun hvp => absurd hvp hp
      · exact h.debt (hl ▸ hd) v hv
    begun := by
      rintro ⟨v, hv, hvp, hi⟩
      rcases List.mem_cons.1 hv with rfl | hv
      · exact absurd hvp hp
      · exact hl ▸ h.begun ⟨v, hv, hvp, hi⟩
    kept := fun hk => ht.trans (h.kept fun v hv => hk v (List.mem_cons_of_mem _ hv)) }

/-- What holds since some time holds after one more move. -/
theorem Reaches.descent_step (h : Reaches Reconciling s') (hu : s'.Uniform version)
    (hm : s'.Calm version m) (hd : ∀ p, Descent version p s new s') :
    ∃ new', ∀ p, Descent version p s new' (s'.step m) := by
  rcases h.calm_step hu hm with ⟨ht, hw⟩ | ⟨w, hw, hg, ht, he, hl⟩
  · exact ⟨new, fun p => (hd p).quiet ht hw⟩
  · refine ⟨w :: new, fun p => ?_⟩
    by_cases hp : w.copy.home = p
    · exact (hd p).write hw hp (hp ▸ hg) (by rw [ht, Table.get?_put, if_pos hp.symm])
        (Phase.ne_of_leadsTo he) hl
    · exact (hd p).elsewhere hw hp (by rw [ht, Table.get?_put, if_neg (Ne.symm hp)])
        (Phase.ne_of_leadsTo he)

theorem Reaches.descent_from (h : Reaches Reconciling s') (hu : s'.Uniform version)
    (hd : ∀ p, Descent version p s new s') {ms : List Move}
    (hm : AllAllowed (Calm version) s' ms) :
    Reaches Reconciling (s'.run ms) ∧ (s'.run ms).Uniform version ∧
      ∃ new', ∀ p, Descent version p s new' (s'.run ms) := by
  induction ms generalizing s' new with
  | nil => exact ⟨h, hu, new, hd⟩
  | cons m ms ih =>
    obtain ⟨new', hd'⟩ := h.descent_step hu hm.1 hd
    exact ih (h.step hm.1.reconciling) (hu.step hm.1) hd' hm.2

theorem Reaches.descent (h : Reaches Reconciling s) (hu : s.Uniform version) {ms : List Move}
    (hm : AllAllowed (Calm version) s ms) :
    Reaches Reconciling (s.run ms) ∧ (s.run ms).Uniform version ∧
      ∃ new, ∀ p, Descent version p s new (s.run ms) :=
  h.descent_from hu (fun p => .refl version p s) hm

/-- Once nobody touches Tests any more, at most six statuses are written over one, at most one of
them to put it back to `New`, and each changes its phase. And once a generation was begun and the
Test is finished, however it ended, it stays as it is: no status is written over it, whatever copies
controllers set out with, and a reconciliation of the Test asks nothing at all. -/
theorem settles (h : Reaches Reconciling s) (hu : s.Uniform version) {ms : List Move}
    (hm : AllAllowed (Calm version) s ms) :
    ∃ new, (s.run ms).writes = new ++ s.writes ∧
      (∀ w ∈ new, w.before.phase ≠ w.after.phase) ∧
      ∀ p, new.countP (·.copy.home = p) ≤ 6 ∧
        new.countP (fun w => w.copy.home = p ∧ w.after.phase = .new) ≤ 1 ∧
        ∀ t, (s.run ms).store.tests.get? p = some t → t.phase.isTerminal = true →
          (∃ w ∈ new, w.copy.home = p ∧ w.before.phase.isInitial = true) →
          (∀ config : Config, config.version = version → ∃ r, t.reconcile config = .done r) ∧
          ∀ ms', AllAllowed (Calm version) (s.run ms) ms' →
            ((s.run ms).run ms').store.tests.get? p = some t ∧
            ((s.run ms).run ms').writes.filter (·.copy.home = p) =
              (s.run ms).writes.filter (·.copy.home = p) := by
  obtain ⟨h₁, hu₁, new, hd⟩ := h.descent hu hm
  refine ⟨new, (hd default).writes, (hd default).moved, fun p => ⟨?_, (hd p).restarts, ?_⟩⟩
  · have hcount := (hd p).count
    have hle := s.left_le version p
    omega
  · intro t ht hterm hb
    have hleft : (s.run ms).left version p = t.debt version :=
      (left_eq ht).trans (t.left_eq_debt hterm)
    have hzero : t.debt version = 0 := by
      have hle := (hd p).begun hb
      rcases t.debt_cases version with hz | hf <;> omega
    refine ⟨fun config hc => ?_, fun ms' hm' => ?_⟩
    · exact t.reconcile_of_restart?_eq_none hterm
        (Test.restart?_eq_none_iff.2 (hc ▸ Test.debt_eq_zero_iff.1 hzero))
    · obtain ⟨-, -, new', hd'⟩ := h₁.descent hu₁ hm'
      have hnone : ∀ w ∈ new', w.copy.home ≠ p := by
        have hcount := (hd' p).count
        have hz : new'.countP (·.copy.home = p) = 0 := by omega
        simpa using List.countP_eq_zero.1 hz
      refine ⟨((hd' p).kept hnone).trans ht, ?_⟩
      rw [(hd' p).writes, List.filter_append, List.filter_eq_nil_iff.2 (by simpa using hnone),
        List.nil_append]

/-! ### A run with six writes -/

/-- A system becomes another one while Tests are left alone. -/
def Becomes (version : String) (s s' : System) : Prop :=
  ∃ ms, AllAllowed (Calm version) s ms ∧ s.run ms = s'

namespace Becomes

theorem refl (version : String) (s : System) : s.Becomes version s := ⟨[], trivial, rfl⟩

theorem run {ms : List Move} (h : s.Becomes version s') (hm : AllAllowed (Calm version) s' ms) :
    s.Becomes version (s'.run ms) := by
  obtain ⟨ms', ha, rfl⟩ := h
  exact ⟨ms' ++ ms, ha.append hm, s.run_append ms' ms⟩

theorem step (h : s.Becomes version s') (hm : s'.Calm version m) :
    s.Becomes version (s'.step m) :=
  have hone : AllAllowed (Calm version) s' [m] := ⟨hm, trivial⟩
  h.run hone

theorem reaches (h : s.Becomes version s') (hs : Reaches Reconciling s) :
    Reaches Reconciling s' := by
  obtain ⟨ms, ha, rfl⟩ := h
  exact hs.run (ha.mono fun _ _ => Calm.reconciling)

theorem round {config : Config} (h : s.Becomes version s') (hs : Reaches Reconciling s)
    (hc : config.version = version) (f : Fate) (n : Nat) :
    s.Becomes version (s'.round p config f n) := by
  rw [System.round]
  split
  · exact h
  · next t ht =>
    have hm := ((h.reaches hs).sound fun _ _ => Reconciling.known).history.mem_of_get? ht
    have hl : s'.Calm version (.launch (.reconcile config t)) := ⟨⟨hm, config, t, rfl⟩, hc⟩
    exact (h.step hl).run (.replicate (fun _ => trivial) n _)

theorem finish (h : s.Becomes controllerVersion s') (hs : Reaches Reconciling s) :
    s.Becomes controllerVersion s'.finish :=
  ((h.round hs rfl plainFate 7).step (m := .edit success) rfl).round hs rfl plainFate 3

end Becomes

/-- The source of a Test is edited while its generation waits for the workload. -/
def outdated : System := begun.setSource greeted parting

theorem reaches_outdated : Reaches Reconciling outdated :=
  Reaches.reconciling <| tended_begun.step (m := .edit (.setSpec greeted _)) trivial

/-- Its generation is finished, and then another one. -/
def rerun : System :=
  ((outdated.finish.round greeted {} plainFate 1).round greeted {} plainFate 2).finish

theorem outdated_settles : Reaches Reconciling outdated ∧
    outdated.Becomes controllerVersion rerun ∧
    rerun.writes.length = outdated.writes.length + 6 ∧
    ∃ t, rerun.store.tests.get? greeted = some t ∧ ∃ r, t.reconcile {} = .done r := by
  have h : Reaches Reconciling outdated := reaches_outdated
  have hb : outdated.Becomes controllerVersion rerun :=
    ((((Becomes.refl _ _).finish h).round h rfl _ _).round h rfl _ _).finish h
  have hdone : ∀ t ∈ outdated.tasks, t.Finished := by decide
  have hlength : rerun.writes.length = outdated.writes.length + 6 := by decide +kernel
  refine ⟨h, hb, hlength, ?_⟩
  obtain ⟨ms, ha, hr⟩ := hb
  obtain ⟨new, hw, -, hp⟩ := settles h (fun t ht => Or.inl (hdone t ht)) ha
  rw [hr] at hw hp
  have hnew : new = rerun.writes.take 6 := by
    rw [hw, List.length_append] at hlength
    rw [hw, List.take_left' (by omega)]
  have hinit : ∃ w ∈ rerun.writes.take 6,
      w.copy.home = greeted ∧ w.before.phase.isInitial = true := by decide +kernel
  have hpassed : (rerun.store.tests.get? greeted).map Test.phase = some .passed := by
    decide +kernel
  obtain ⟨t, ht, hphase⟩ := Option.map_eq_some_iff.1 hpassed
  exact ⟨t, ht, ((hp greeted).2.2 t ht (by rw [hphase]; rfl) (hnew ▸ hinit)).1 {} rfl⟩

end System

end Proctor
