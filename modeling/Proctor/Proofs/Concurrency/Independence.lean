import Proctor.Proofs.Concurrency.Accounting
import Proctor.Proofs.Concurrency.Settling
import Proctor.Proofs.Lifecycle.Locality

/-!
# Controllers of different Tests

Two controllers work on one store, each on a Test of its own. Each of them is told what it would be
told if the other one did nothing at all: it reads only what belongs to its Test, and what the other
one writes does not, but for the viewer identity of a common namespace, which nobody reads. So
beside the two of them together we let each of them run alone, and keep that the store of both is
the merge of the stores of each (`System.Joined`). A merge does not depend on the order in which it
came about, so all interleavings end alike, and those in which one controller is done before the
other one begins are among them (`System.interleavings_agree`).

## What is left out

There are two controllers and nobody else: no edits and no third one come in between, and no call
fails (`Move.Serves`). The ids and the times that each of them is told come with the moves, so they
are the same in whatever order these are made.
-/

namespace Proctor

/-! ### Interleavings -/

/-- A list consists of two others, each in its order. -/
inductive Interleaves {α : Type} : List α → List α → List α → Prop where
  /-- Nothing consists of nothing. -/
  | nil : Interleaves [] [] []
  /-- The next one is from the first list. -/
  | left (a : α) {as bs cs : List α} : Interleaves as bs cs → Interleaves (a :: as) bs (a :: cs)
  /-- The next one is from the second list. -/
  | right (b : α) {as bs cs : List α} : Interleaves as bs cs → Interleaves as (b :: bs) (b :: cs)

namespace Interleaves

variable {α : Type} {as bs cs : List α}

theorem symm (h : Interleaves as bs cs) : Interleaves bs as cs := by
  induction h with
  | nil => exact .nil
  | left a _ ih => exact .right a ih
  | right b _ ih => exact .left b ih

/-- One list after the other. -/
theorem append (as bs : List α) : Interleaves as bs (as ++ bs) := by
  induction as with
  | nil =>
    induction bs with
    | nil => exact .nil
    | cons b bs ih => exact .right b ih
  | cons a as ih => exact .left a ih

/-- Turn and turn about. -/
theorem alternate (a b : α) (n : Nat) :
    Interleaves (.replicate n a) (.replicate n b) (List.replicate n [a, b]).flatten := by
  induction n with
  | zero => exact .nil
  | succ n ih => exact .left a (.right b ih)

end Interleaves

/-! ### What comes of a job -/

namespace Job

/-- What comes of a job, but for the version of the Test that was stored. -/
def unversioned : (j : Job) → j.Result → j.Result
  | .reconcile _ _, r => r
  | .act _ _ _, r => r.map (Option.map Test.unversioned)

theorem unversioned_congr (j : Job) {t u : Test} (h : t.unversioned = u.unversioned) :
    j.unversioned (j.result (.ok (some t))) = j.unversioned (j.result (.ok (some u))) := by
  have hu : ∀ v : Test, j.unversioned (j.result (.ok (some v))) =
      j.unversioned (j.result (.ok (some v.unversioned))) := by
    intro v
    cases j <;> rfl
  rw [hu t, hu u, h]

variable {j : Job} {es : List Exchange}

/-- A job asks only about its Test, if the Tests that it reads are this one. -/
theorem walk_within {p : Place} {q : Query} {next : q.Answer → Program j.Result}
    (hj : j.observed.Resides p)
    (hr : ∀ m k u, ⟨.getTest m k, .ok (some u)⟩ ∈ es → u.Resides p)
    (h : j.program.Walk es (.ask q next)) : q.Within p := by
  obtain ⟨next', h', -⟩ := walk_ask h
  exact Action.runOn_within hj hr h'

theorem program_atMost (j : Job) : j.program.AtMost (8 * j.config.attempts) := by
  rw [program_eq]
  exact (j.action.runOn_atMost j.config j.observed).bind (n := 0) fun _ => trivial

end Job

/-- What came of a job that is done, but for the version of the Test that was stored. -/
def Task.outcome? (t : Task) : Option ((j : Job) × j.Result) :=
  match t.rest with
  | .done r => some ⟨t.job, t.job.unversioned r⟩
  | .ask _ _ => none

/-! ### Answers about one Test -/

namespace Store

theorem settled_mayFill {p : Place} {m : Manifest} (h : p.MayFill m.slot (.manifest m))
    (s : Store) : p.MayFill m.slot (.manifest (s.settled m)) := by
  cases m with
  | pod pod =>
    rcases h with h | ⟨m', hm, -⟩
    · exact Or.inl h
    · cases hm
  | configMap _ | serviceAccount _ | role _ | roleBinding _ => exact h

/-- The answer to a question about one Test is the same from two stores that have the same of it,
and they are changed alike; but a Test is stored under the version that comes next in each. -/
theorem answer_within {p : Place} {q : Query} (hq : q.Within p) {f : Fate} (hf : f.fault = none)
    {s s' : Store} (ht : s.tests.get? p = s'.tests.get? p)
    (hp : ∀ o, p.Generates o → s.pods.get? o = s'.pods.get? o) :
    ((s.answer f q).1 = (s'.answer f q).1 ∧ (s.answer f q).2.tests = s.tests ∧
        (s'.answer f q).2.tests = s'.tests ∧
        ((s.answer f q).2 = s ∧ (s'.answer f q).2 = s' ∨
          ∃ k item, p.MayFill k item ∧ s.Fills (s.answer f q).2 k item ∧
            s'.Fills (s'.answer f q).2 k item)) ∨
      ∃ copy old,
        (⟨q, (s.answer f q).1⟩ : Exchange) = ⟨.writeStatus copy, .ok (s.overwritten old copy)⟩ ∧
        (⟨q, (s'.answer f q).1⟩ : Exchange) = ⟨.writeStatus copy, .ok (s'.overwritten old copy)⟩ ∧
        (s.answer f q).2 = (s.putTest p { old with status := copy.status }).1 ∧
        (s'.answer f q).2 = (s'.putTest p { old with status := copy.status }).1 := by
  have hcall : ∀ {α : Type} (s : Store) (r : Except Fault α × Store), f.call s r = r :=
    Fate.call_of_fault_eq_none hf
  cases q with
  | freshId | clock => exact Or.inl ⟨rfl, rfl, rfl, Or.inl ⟨rfl, rfl⟩⟩
  | getTest n k =>
    obtain rfl : p = ⟨n, k⟩ := hq
    rw [answer, answer, hcall, hcall, ht]
    exact Or.inl ⟨rfl, rfl, rfl, Or.inl ⟨rfl, rfl⟩⟩
  | getPod n k =>
    rw [answer, answer, hcall, hcall, hp _ hq]
    exact Or.inl ⟨rfl, rfl, rfl, Or.inl ⟨rfl, rfl⟩⟩
  | apply m =>
    have he : s.settled m = s'.settled m := by
      cases m with
      | pod pod =>
        rcases hq with ho | ⟨m', hm, -⟩
        · rw [settled, settled, hp _ ho]
        · cases hm
      | configMap _ | serviceAccount _ | role _ | roleBinding _ => rfl
    rw [answer, answer, hcall, hcall]
    exact Or.inl ⟨rfl, s.tests_apply m, s'.tests_apply m, Or.inr ⟨m.slot,
      .manifest (s.settled m), settled_mayFill hq s, s.fills_apply m, he ▸ s'.fills_apply m⟩⟩
  | writeStatus u =>
    obtain rfl : u.home = p := hq
    rw [answer, answer, hcall, hcall]
    rcases s.writeStatus_cases u with ⟨old, hg, hv, hw⟩ | ⟨old, hg, hv, hw⟩ | ⟨hg, hw⟩ <;>
      rcases s'.writeStatus_cases u with
        ⟨old', hg', hv', hw'⟩ | ⟨old', hg', hv', hw'⟩ | ⟨hg', hw'⟩ <;>
      rw [← ht, hg] at hg' <;> cases hg' <;> rw [hw, hw']
    · exact Or.inr ⟨u, old, rfl, rfl, rfl, rfl⟩
    · exact absurd hv hv'
    · exact absurd hv' hv
    · exact Or.inl ⟨rfl, rfl, rfl, Or.inl ⟨rfl, rfl⟩⟩
    · exact Or.inl ⟨rfl, rfl, rfl, Or.inl ⟨rfl, rfl⟩⟩

end Store

/-! ### A controller and its Test -/

/-- The Test at a place, and what a controller is set to do with it. -/
structure Store.Hosts (s : Store) (p : Place) (j : Job) : Prop where
  /-- The copy that the controller sets out with. -/
  observed : j.observed.Resides p
  /-- The Test that is stored. -/
  stored : ∀ t, s.tests.get? p = some t → t.Resides p

/-- An answer for the controller of that number, which no fault keeps from the store. -/
def Move.Serves (i : Nat) (m : Move) : Prop := ∃ f : Fate, m = .answer i f ∧ f.fault = none

namespace Task

/-- A controller is set to work on the Test at a place, and has read no other. -/
structure Attends (t : Task) (p : Place) : Prop where
  /-- It has set out with a copy of it. -/
  observed : t.job.observed.Resides p
  /-- So are the copies that it has read. -/
  read : ∀ n k u, ⟨.getTest n k, .ok (some u)⟩ ∈ t.heard → u.Resides p

variable {t : Task} {p : Place} {q : Query} {next : q.Answer → Program t.job.Result}

theorem Attends.within (h : t.Attends p) (hq : t.rest = .ask q next) : q.Within p :=
  Job.walk_within h.observed h.read (hq ▸ t.walk)

theorem Attends.hear (h : t.Attends p) (hq : t.rest = .ask q next) {s : Store}
    (hs : ∀ u, s.tests.get? p = some u → u.Resides p) (f : Fate) :
    (t.hear hq (s.answer f q).1).Attends p where
  observed := h.observed
  read n k u hu := by
    rcases List.mem_append.1 hu with hu | hu
    · exact h.read n k u hu
    · have he := (List.mem_singleton.1 hu).symm
      obtain rfl : q = .getTest n k := congrArg Exchange.query he
      obtain rfl : p = ⟨n, k⟩ := h.within hq
      exact hs u (Store.get?_of_answer_getTest he)

end Task

namespace System

/-- What came of the job of the controller of that number, if it is done. -/
def outcome? (s : System) (i : Nat) : Option ((j : Job) × j.Result) :=
  s.tasks[i]?.bind Task.outcome?

variable {s : System} {i : Nat} {t : Task}

theorem outcome?_of_done {r : t.job.Result} (ht : s.tasks[i]? = some t) (hr : t.rest = .done r) :
    s.outcome? i = some ⟨t.job, t.job.unversioned r⟩ := by
  rw [outcome?, ht, Option.bind_some, Task.outcome?, hr]

theorem answer_of_outcome? {o : (j : Job) × j.Result} (h : s.outcome? i = some o) (f : Fate) :
    s.answer i f = s := by
  obtain ⟨t, ht, ho⟩ := Option.bind_eq_some_iff.1 h
  cases hr : t.rest with
  | done r => exact answer_of_done ht hr f
  | ask q next =>
    rw [Task.outcome?, hr] at ho
    cases ho

/-- A controller whose write was accepted is done. -/
theorem outcome?_hear_accepted {q : Query} {next : q.Answer → Program t.job.Result}
    (hq : t.rest = .ask q next) (f : Fate) (ht : s.tasks[i]? = some t) {copy stored : Test}
    (he : (⟨q, (s.store.answer f q).1⟩ : Exchange) = ⟨.writeStatus copy, .ok stored⟩) :
    (s.hear i t hq f).outcome? i =
      some ⟨t.job, t.job.unversioned (t.job.result (.ok (some stored)))⟩ :=
  outcome?_of_done (t := t.hear hq _) (task_hear hq f ht) (Task.rest_hear_accepted hq he)

/-! ### Two controllers -/

/-- The controller of that number stands there, and its Test is as it was. -/
structure Unwritten (base : Store) (p : Place) (i : Nat) (t : Task) (s : System) : Prop where
  /-- The controller. -/
  task : s.tasks[i]? = some t
  /-- The Test. -/
  test : s.store.tests.get? p = base.tests.get? p

/-- It makes no difference to a controller that works on the Test at a place which of two systems it
is in: it was told the same, and nobody has written the Test; or it is done, and the same came of
it. -/
inductive Akin (base : Store) (p : Place) (i : Nat) (s s' : System) : Prop where
  /-- It may have to ask more. -/
  | working (t : Task) (ha : t.Attends p) (h : s.Unwritten base p i t)
    (h' : s'.Unwritten base p i t)
  /-- It is done. -/
  | finished (o : (j : Job) × j.Result) (h : s.outcome? i = some o) (h' : s'.outcome? i = some o)

/-- Two controllers have done in one system what each of them does in one where the other one does
nothing. -/
structure Joined (base : Store) (p₁ p₂ : Place) (i₁ i₂ : Nat) (left right both : System) :
    Prop where
  /-- The first controller cannot tell the difference. -/
  first : Akin base p₁ i₁ left both
  /-- Nor can the second. -/
  second : Akin base p₂ i₂ right both
  /-- The stores of each are merged. -/
  merges : base.Merges left.store right.store both.store
  /-- The first has changed nothing but what belongs to its Test. -/
  left : base.ChangedFor p₁ left.store
  /-- Nor has the second. -/
  right : base.ChangedFor p₂ right.store

variable {base : Store} {p p₁ p₂ : Place} {i₁ i₂ : Nat} {s' left right both : System}

theorem Akin.outcome?_eq (h : Akin base p i s s') : s.outcome? i = s'.outcome? i := by
  cases h with
  | working t _ h h' => rw [outcome?, outcome?, h.task, h'.task]
  | finished o h h' => rw [h, h']

/-- What happens elsewhere makes no difference to a controller. -/
theorem Akin.elsewhere {s'' : System} (h : Akin base p i s s')
    (ht : s''.tasks[i]? = s'.tasks[i]?)
    (hs : s''.store.tests.get? p = s'.store.tests.get? p) : Akin base p i s s'' := by
  cases h with
  | working t ha h h' => exact .working t ha h ⟨ht.trans h'.task, hs.trans h'.test⟩
  | finished o h h' => exact .finished o h (by rw [outcome?, ht]; exact h')

namespace Joined

theorem symm (h : Joined base p₁ p₂ i₁ i₂ left right both) :
    Joined base p₂ p₁ i₂ i₁ right left both :=
  ⟨h.second, h.first, h.merges.symm, h.right, h.left⟩

/-- The Pods that belong to the Test of the first controller are as it has left them. -/
theorem pods_eq (h : Joined base p₁ p₂ i₁ i₂ left right both) (hp : p₁ ≠ p₂) {o : Place}
    (ho : p₁.Generates o) : left.store.pods.get? o = both.store.pods.get? o :=
  Store.eq_of_map_manifest Manifest.pod.inj
    (h.merges.item?_of_owns hp h.right (k := ⟨.pod, o⟩) ho).symm

/-- A question of the first controller is answered, in both systems alike. -/
theorem hear (h : Joined base p₁ p₂ i₁ i₂ left right both) (hp : p₁ ≠ p₂) (hi : i₁ ≠ i₂)
    (hb : ∀ u, base.tests.get? p₁ = some u → u.Resides p₁) (ha : t.Attends p₁)
    (hl : left.Unwritten base p₁ i₁ t) (hr : both.Unwritten base p₁ i₁ t) {q : Query}
    {next : q.Answer → Program t.job.Result} (hq : t.rest = .ask q next) {f : Fate}
    (hf : f.fault = none) :
    Joined base p₁ p₂ i₁ i₂ (left.hear i₁ t hq f) right (both.hear i₁ t hq f) := by
  have hother : (both.hear i₁ t hq f).tasks[i₂]? = both.tasks[i₂]? := task_hear_ne hq f hi
  have htest := hl.test.trans hr.test.symm
  rcases Store.answer_within (ha.within hq) hf htest fun o => h.pods_eq hp with
    ⟨hx, htl, htr, hstores⟩ | ⟨copy, old, hxl, hxr, hsl, hsr⟩
  · have hfirst : Akin base p₁ i₁ (left.hear i₁ t hq f) (both.hear i₁ t hq f) :=
      .working _ (ha.hear hq (fun u hu => hb u (hl.test ▸ hu)) f)
        ⟨task_hear hq f hl.task, (congrArg (Table.get? · p₁) htl).trans hl.test⟩
        ⟨hx ▸ task_hear hq f hr.task, (congrArg (Table.get? · p₁) htr).trans hr.test⟩
    have hsecond : Akin base p₂ i₂ right (both.hear i₁ t hq f) :=
      h.second.elsewhere hother (congrArg (Table.get? · p₂) htr)
    rcases hstores with ⟨hsl, hsr⟩ | ⟨k, item, hm, hsl, hsr⟩
    · refine ⟨hfirst, hsecond, ?_, ?_, h.right⟩
      · rw [store_hear, store_hear, hsl, hsr]
        exact h.merges
      · rw [store_hear, hsl]
        exact h.left
    · exact ⟨hfirst, hsecond, h.merges.fill hp h.right hsl hsr hm, h.left.fill hsl hm, h.right⟩
  · -- the write is accepted in both systems, so the controller is done
    have hsame := t.job.unversioned_congr (t := both.store.overwritten old copy)
      (u := left.store.overwritten old copy) rfl
    have hfirst : Akin base p₁ i₁ (left.hear i₁ t hq f) (both.hear i₁ t hq f) :=
      .finished _ (outcome?_hear_accepted hq f hl.task hxl)
        (hsame ▸ outcome?_hear_accepted hq f hr.task hxr)
    have hsecond : Akin base p₂ i₂ right (both.hear i₁ t hq f) := by
      refine h.second.elsewhere hother ?_
      rw [store_hear, hsr]
      exact (Table.get?_put ..).trans (if_neg hp.symm)
    have hm : ∀ u, p₁.MayFill ⟨.test, p₁⟩ (.test u) := fun _ => Or.inl rfl
    refine ⟨hfirst, hsecond, ?_, ?_, h.right⟩
    · rw [store_hear, store_hear, hsl, hsr]
      exact h.merges.fill hp h.right (Store.fills_putTest _ _ _) (Store.fills_putTest _ _ _) (hm _)
    · rw [store_hear, hsl]
      exact h.left.fill (Store.fills_putTest _ _ _) (hm _)

theorem answer (h : Joined base p₁ p₂ i₁ i₂ left right both) (hp : p₁ ≠ p₂) (hi : i₁ ≠ i₂)
    (hb : ∀ u, base.tests.get? p₁ = some u → u.Resides p₁) {f : Fate} (hf : f.fault = none) :
    Joined base p₁ p₂ i₁ i₂ (left.answer i₁ f) right (both.answer i₁ f) := by
  cases h.first with
  | finished o hl hr => rwa [answer_of_outcome? hl, answer_of_outcome? hr]
  | working t ha hl hr =>
    cases hq : t.rest with
    | done r => rwa [answer_of_done hl.task hq, answer_of_done hr.task hq]
    | ask q next =>
      rw [answer_of_ask hl.task hq, answer_of_ask hr.task hq]
      exact h.hear hp hi hb ha hl hr hq hf

end Joined

/-- Each of two controllers is told its answers alone, and both of them are told theirs in some
order. -/
theorem Joined.run (h : Joined base p₁ p₂ i₁ i₂ left right both) (hp : p₁ ≠ p₂) (hi : i₁ ≠ i₂)
    (hb₁ : ∀ u, base.tests.get? p₁ = some u → u.Resides p₁)
    (hb₂ : ∀ u, base.tests.get? p₂ = some u → u.Resides p₂) {ms₁ ms₂ ms : List Move}
    (hms : Interleaves ms₁ ms₂ ms) (h₁ : ∀ m ∈ ms₁, m.Serves i₁) (h₂ : ∀ m ∈ ms₂, m.Serves i₂) :
    Joined base p₁ p₂ i₁ i₂ (left.run ms₁) (right.run ms₂) (both.run ms) := by
  induction hms generalizing left right both with
  | nil => exact h
  | left m _ ih =>
    obtain ⟨f, rfl, hf⟩ := h₁ m List.mem_cons_self
    exact ih (h.answer hp hi hb₁ hf) (fun m hm => h₁ m (List.mem_cons_of_mem _ hm)) h₂
  | right m _ ih =>
    obtain ⟨f, rfl, hf⟩ := h₂ m List.mem_cons_self
    exact ih (h.symm.answer hp.symm hi.symm hb₂ hf).symm h₁
      fun m hm => h₂ m (List.mem_cons_of_mem _ hm)

/-- Two controllers that set out have done nothing yet. -/
theorem joined_begin {j₁ j₂ : Job} (hs₁ : s.tasks[i₁]? = some (.begin j₁))
    (hs₂ : s.tasks[i₂]? = some (.begin j₂)) (h₁ : s.store.Hosts p₁ j₁)
    (h₂ : s.store.Hosts p₂ j₂) : Joined s.store p₁ p₂ i₁ i₂ s s s where
  first := .working _ ⟨h₁.observed, by simp [Task.begin]⟩ ⟨hs₁, rfl⟩ ⟨hs₁, rfl⟩
  second := .working _ ⟨h₂.observed, by simp [Task.begin]⟩ ⟨hs₂, rfl⟩ ⟨hs₂, rfl⟩
  merges := .refl _
  left := .refl _ _
  right := .refl _ _

/-- A controller is done after as many answers as it has questions. -/
theorem exists_outcome?_run {n : Nat} (ht : s.tasks[i]? = some t) (hn : t.rest.AtMost n)
    {ms : List Move} (hms : ∀ m ∈ ms, m.Serves i) (hl : n ≤ ms.length) :
    ∃ r, (s.run ms).outcome? i = some ⟨t.job, r⟩ := by
  induction ms generalizing s t n with
  | nil =>
    obtain rfl := Nat.le_zero.1 hl
    cases hq : t.rest with
    | done r => exact ⟨_, outcome?_of_done ht hq⟩
    | ask q next =>
      rw [hq] at hn
      exact hn.elim
  | cons m ms ih =>
    have hrest : ∀ m' ∈ ms, m'.Serves i := fun m' hm => hms m' (List.mem_cons_of_mem m hm)
    obtain ⟨f, rfl, -⟩ := hms m List.mem_cons_self
    show ∃ r, ((s.answer i f).run ms).outcome? i = some ⟨t.job, r⟩
    cases hq : t.rest with
    | done r =>
      rw [answer_of_done ht hq]
      exact ih ht (n := 0) (by rw [hq]; trivial) hrest (Nat.zero_le _)
    | ask q next =>
      rw [hq] at hn
      rw [answer_of_ask ht hq]
      cases n with
      | zero => exact hn.elim
      | succ n =>
        exact ih (t := t.hear hq _) (task_hear hq f ht) (hn _) hrest (Nat.le_of_succ_le_succ hl)

/-- Two controllers set out, on Tests that are kept at different places, maybe of one namespace. The
ids, times and answers of each of them come in an order of their own, and nothing fails. Then
however these are interleaved, the store ends with the same Tests up to their versions, and with the
same ConfigMaps, Pods, identities, Roles and RoleBindings, and the same comes of both jobs, as if
one of them had been done before the other one began; and each of them is done, if it is answered
often enough. -/
theorem interleavings_agree (hp : p₁ ≠ p₂) {j₁ j₂ : Job} (hs₁ : s.tasks[i₁]? = some (.begin j₁))
    (hs₂ : s.tasks[i₂]? = some (.begin j₂)) (h₁ : s.store.Hosts p₁ j₁)
    (h₂ : s.store.Hosts p₂ j₂) {ms₁ ms₂ ms : List Move} (hms : Interleaves ms₁ ms₂ ms)
    (hm₁ : ∀ m ∈ ms₁, m.Serves i₁) (hm₂ : ∀ m ∈ ms₂, m.Serves i₂) :
    (∀ order ∈ [ms₁ ++ ms₂, ms₂ ++ ms₁],
      (s.run ms).store.Alike (s.run order).store ∧
        (s.run ms).outcome? i₁ = (s.run order).outcome? i₁ ∧
        (s.run ms).outcome? i₂ = (s.run order).outcome? i₂) ∧
    (8 * j₁.config.attempts ≤ ms₁.length → ∃ r, (s.run ms).outcome? i₁ = some ⟨j₁, r⟩) ∧
    (8 * j₂.config.attempts ≤ ms₂.length → ∃ r, (s.run ms).outcome? i₂ = some ⟨j₂, r⟩) := by
  have hi : i₁ ≠ i₂ := by
    rintro rfl
    obtain rfl : j₁ = j₂ := congrArg Task.job (Option.some.inj (hs₁.symm.trans hs₂))
    exact hp (h₁.observed.home.symm.trans h₂.observed.home)
  have hjoined : ∀ {order}, Interleaves ms₁ ms₂ order →
      Joined s.store p₁ p₂ i₁ i₂ (s.run ms₁) (s.run ms₂) (s.run order) := fun h =>
    (joined_begin hs₁ hs₂ h₁ h₂).run hp hi h₁.stored h₂.stored h hm₁ hm₂
  have h := hjoined hms
  refine ⟨fun order ho => ?_, fun hl => ?_, fun hl => ?_⟩
  · have horder : Interleaves ms₁ ms₂ order := by
      simp only [List.mem_cons, List.not_mem_nil, or_false] at ho
      rcases ho with rfl | rfl
      · exact .append ms₁ ms₂
      · exact (Interleaves.append ms₂ ms₁).symm
    have h' := hjoined horder
    exact ⟨h.merges.alike h'.merges, h.first.outcome?_eq.symm.trans h'.first.outcome?_eq,
      h.second.outcome?_eq.symm.trans h'.second.outcome?_eq⟩
  · rw [← h.first.outcome?_eq]
    exact exists_outcome?_run hs₁ j₁.program_atMost hm₁ hl
  · rw [← h.second.outcome?_eq]
    exact exists_outcome?_run hs₂ j₂.program_atMost hm₂ hl

/-- A Test of that name that waits for the workload of its first generation. -/
def neighbour (name id : String) : Test :=
  { metadata := { greeter.metadata with name := some name, resourceVersion := some "1" }
    spec := greeter.spec
    status := some (.begun id (greeting.digest controllerVersion) controllerVersion) }

/-- A controller that writes once. -/
def once : Config := { statusRetries := 1 }

/-- Two controllers are about to start two Tests of one namespace. -/
def neighbours : System :=
  let first := neighbour "hello" "5f0c6a1e-8d43-4d0b-9d52-0c3c1f6b7a01"
  let second := neighbour "goodbye" "5f0c6a1e-8d43-4d0b-9d52-0c3c1f6b7a02"
  { store := { tests := ⟨[(first.home, first), (second.home, second)]⟩, versions := 1 }
    tasks := [.begin (.act .start once first), .begin (.act .start once second)] }

/-- The questions of both are answered by turns, until both have asked all that they can ask. -/
theorem neighbours_agree :
    let turns := (List.replicate 8 [Move.answer 0 plainFate, .answer 1 plainFate]).flatten
    let first := List.replicate 8 (Move.answer 0 plainFate)
    let second := List.replicate 8 (Move.answer 1 plainFate)
    (∀ order ∈ [first ++ second, second ++ first],
      (neighbours.run turns).store.Alike (neighbours.run order).store) ∧
    (∃ o o', (neighbours.run turns).outcome? 0 = some o ∧
      (neighbours.run turns).outcome? 1 = some o') ∧
    (neighbours.run turns).store.roles.get? ⟨"default", Viewer.name⟩ =
      some (Viewer.role "default") := by
  have hosts : ∀ {name id : String} (p : Place), (neighbour name id).home = p → id.length = 36 →
      neighbours.store.tests.get? p = some (neighbour name id) →
      neighbours.store.Hosts p (.act .start once (neighbour name id)) := by
    intro name id p hp hid hs
    have hr : (neighbour name id).Resides p := ⟨hp, fun id' h => by cases h; exact hid⟩
    exact ⟨hr, fun t ht => by rw [hs] at ht; cases ht; exact hr⟩
  have serves : ∀ {i : Nat}, ∀ m ∈ List.replicate 8 (Move.answer i plainFate), m.Serves i := by
    intro i m hm
    exact ⟨plainFate, List.eq_of_mem_replicate hm, rfl⟩
  obtain ⟨hagree, h₁, h₂⟩ := interleavings_agree (s := neighbours)
    (show (⟨"default", "hello"⟩ : Place) ≠ ⟨"default", "goodbye"⟩ by decide)
    (show neighbours.tasks[0]? = _ from rfl) (show neighbours.tasks[1]? = _ from rfl)
    (hosts _ rfl rfl rfl) (hosts _ rfl rfl rfl)
    (.alternate (.answer 0 plainFate) (.answer 1 plainFate) 8) serves serves
  obtain ⟨r, hr⟩ := h₁ (by decide)
  obtain ⟨r', hr'⟩ := h₂ (by decide)
  exact ⟨fun order ho => (hagree order ho).1, ⟨_, _, hr, hr'⟩, rfl⟩

end System

end Proctor
