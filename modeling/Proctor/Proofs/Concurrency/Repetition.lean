import Proctor.Proofs.Concurrency.Workloads

/-!
# A start that is repeated

A start applies five objects one after the other and stops at the first that fails. It then leaves
some of them behind, and nobody knows which: the store may have acted on a question although a fault
was told. Repeating it is safe because what is applied depends on the Test alone. An object that was
applied before is brought to what it already is, so no repetition undoes anything; the Pod comes
last, so wherever it is there is all that it needs (`Store.Ready`); and the repetition that gets to
the end has applied every object, whatever was there before.

## What is left out

What is applied takes the place of what was there. A cluster merges the two, and would keep fields
that someone else has set and the controller does not name; here nobody else applies anything, and
of what others do there is only the news of Pods.
-/

namespace Proctor

/-! ### A store that cannot be relied upon -/

/-- What befalls a question. -/
structure Visit where
  /-- What the cluster tells of Pods before it comes. -/
  news : List (Place × Option PodStatus) := []
  /-- What is told, be it a fault. -/
  fate : Fate
  /-- The store acts on the question even if a fault is told. -/
  acted : Bool := false

namespace Visit

/-- The store when the question comes. -/
def store (v : Visit) (s : Store) : Store :=
  v.news.foldl (fun s n => (Rehearsal.Edit.podStatus n.1 (some n.2)).after s) s

/-- The answer to a question, and the store after it. -/
def answer (v : Visit) (s : Store) (q : Query) : q.Answer × Store :=
  (((v.store s).answer v.fate q).1,
    if v.acted then ((v.store s).answer { v.fate with fault := none } q).2
    else ((v.store s).answer v.fate q).2)

end Visit

/-- What befalls the questions of an attempt, one after the other. -/
abbrev Course := Nat → Visit

/-- An attempt on a store. -/
structure Trial where
  /-- The store. -/
  store : Store
  /-- What was asked, last first. -/
  asked : List Query := []
  /-- The stores since, last first. -/
  seen : List Store := []

namespace Course

/-- The answer to a question in the course of an attempt. -/
def answer (c : Course) (q : Query) (tr : Trial) : q.Answer × Trial :=
  let v := c tr.asked.length
  let r := v.answer tr.store q
  (r.1, ⟨r.2, q :: tr.asked, r.2 :: v.store tr.store :: tr.seen⟩)

/-- One of the first five questions fails, whether the store acts on it or not. -/
def Fails (c : Course) : Prop := ∃ k < 5, (c k).fate.fault ≠ none

/-- No question fails. -/
def Succeeds (c : Course) : Prop := ∀ k, (c k).fate.fault = none

end Course

namespace Test

/-- A Test is reconciled on a store. -/
def attempt (t : Test) (config : Config) (s : Store) (c : Course) : Reconciliation × Trial :=
  (t.reconcile config).run c.answer { store := s }

/-- A Test is reconciled again and again, on what was left of the store. -/
def attempts (t : Test) (config : Config) : Store → List Course → List (Reconciliation × Trial)
  | _, [] => []
  | s, c :: cs => t.attempt config s c :: t.attempts config (t.attempt config s c).2.store cs

/-- What is left of the store then. -/
def remains (t : Test) (config : Config) (s : Store) (cs : List Course) : Store :=
  cs.foldl (fun s c => (t.attempt config s c).2.store) s

end Test

/-! ### What a start asks -/

/-- The reconciliation of a `Pending` Test: all objects are applied, and then the Test is written as
`Running`. -/
theorem Test.reconcile_pending {t : Test} {config : Config} {namespaceName : String} {w : Workload}
    (hp : t.phase = .pending) (hn : t.metadata.namespaceName = some namespaceName)
    (hw : t.workload config = .ok w) :
    ∃ left, t.reconcile config = (Step.applyAll (w.manifests namespaceName)).run.bind fun
      | .error f => .done (.ofOutcome .pending .start (.error f))
      | .ok _ => .ask .clock fun now => .ask (.writeStatus (t.started now)) fun x =>
        (Action.start.afterWrite config namespaceName t.nameAny .pending left x).bind
          fun r => .done (.ofOutcome .pending .start r) := by
  obtain ⟨left, hleft⟩ := Nat.exists_eq_succ_of_ne_zero (Nat.ne_of_gt config.attempts_pos)
  refine ⟨left, ?_⟩
  have hrun : (Action.start.runOn config t).run =
      (Action.start.rounds config namespaceName t.nameAny .pending (left + 1) t).run := by
    rw [Action.run_runOn, hn, hp, hleft]
  rw [reconcile_eq, hp]
  show ((Action.start.runOn config t).run).bind _ = _
  rw [hrun, Action.run_rounds_succ, Action.handle, Step.run_map, run_start hn hw,
    Program.bind_assoc, Program.bind_assoc, Program.bind_assoc]
  congr 1
  funext r
  cases r <;> rfl

/-! ### What the objects need -/

theorem Workload.eq_of_kind_eq {w : Workload} {namespaceName : String} {m m' : Manifest}
    (hm : m ∈ w.manifests namespaceName) (hm' : m' ∈ w.manifests namespaceName)
    (hk : m.kind = m'.kind) : m = m' := by
  simp only [manifests, List.mem_cons, List.not_mem_nil, or_false] at hm hm'
  rcases hm with rfl | rfl | rfl | rfl | rfl <;> rcases hm' with rfl | rfl | rfl | rfl | rfl <;>
    first | rfl | simp [Manifest.kind] at hk

/-- The Pod is applied last. -/
theorem Workload.pod_last {w : Workload} {namespaceName : String} {done rest : List Manifest}
    (h : w.manifests namespaceName = done ++ .pod w.pod :: rest) : rest = [] := by
  simp only [manifests, List.cons_eq_append_iff, List.cons.injEq, List.nil_eq_append_iff] at h
  simp only [reduceCtorEq, false_and, and_false, true_and, exists_const, or_false, false_or] at h
  obtain ⟨_, _, _, _, _, _, _, _, _, hrest⟩ := h
  exact hrest

namespace Store

variable {s : Store} {w : Workload} {namespaceName : String} {m m' : Manifest}

/-- To apply an object of a workload undoes none of them: it takes no other one's place, and it is
brought to what it already is. -/
theorem Holds.apply_manifest (h : s.Holds m) (hm : m ∈ w.manifests namespaceName)
    (hm' : m' ∈ w.manifests namespaceName) : (s.apply m').Holds m := by
  by_cases hk : m'.kind = m.kind
  · obtain rfl := Workload.eq_of_kind_eq hm' hm hk
    exact s.holds_apply m'
  · exact h.apply fun hr => hk hr.1

/-- If the Pod of a workload is there, so is all that it needs. -/
def Ready (s : Store) (w : Workload) (namespaceName : String) : Prop :=
  ∀ pod, s.pods.get? w.pod.metadata.place = some pod →
    ∀ m ∈ w.manifests namespaceName, m ≠ .pod w.pod → s.Holds m

theorem Ready.apply (h : s.Ready w namespaceName) (hm : m ∈ w.manifests namespaceName)
    (hlast : m = .pod w.pod → ∀ m' ∈ w.manifests namespaceName, m' ≠ m → s.Holds m') :
    (s.apply m).Ready w namespaceName := by
  intro pod hp m' hm' hne
  by_cases hpod : m = .pod w.pod
  · exact (hlast hpod m' hm' (hpod ▸ hne)).apply_manifest hm' hm
  · have hsame : (s.apply m).pods = s.pods := by
      cases m with
      | pod p =>
        have hw : .pod w.pod ∈ w.manifests namespaceName := by simp [Workload.manifests]
        exact absurd (Workload.eq_of_kind_eq hm hw rfl) hpod
      | configMap _ | serviceAccount _ | role _ | roleBinding _ => rfl
    rw [hsame] at hp
    exact (h pod hp m' hm' hne).apply_manifest hm' hm

theorem Ready.putTest (h : s.Ready w namespaceName) (p : Place) (t : Test) :
    (s.putTest p t).1.Ready w namespaceName :=
  fun pod hp m hm hne => (h pod hp m hm hne).putTest p t

end Store

/-! ### What befalls a question -/

namespace Visit

variable {v : Visit} {s : Store}

/-- What the cluster tells of Pods neither makes nor deletes any, and it is no part of what was
applied. -/
theorem after_podStatus (s : Store) (p : Place) (st : Option PodStatus) :
    ((Rehearsal.Edit.podStatus p (some st)).after s).tests = s.tests ∧
      ∀ q pod, ((Rehearsal.Edit.podStatus p (some st)).after s).pods.get? q = some pod →
        ∃ old, s.pods.get? q = some old := by
  rcases Rehearsal.Edit.after_eq_or (.podStatus p (some st)) s with h | ⟨r, h⟩
  · rw [h]
    exact ⟨rfl, fun q pod hp => ⟨pod, hp⟩⟩
  · obtain ⟨old, st', hold, hs⟩ := Rehearsal.changePod_eq_ok h
    rw [hs]
    refine ⟨rfl, fun q pod hp => ?_⟩
    rw [Table.get?_put] at hp
    by_cases hq : q = p
    · exact ⟨old, hq ▸ hold⟩
    · rw [if_neg hq] at hp
      exact ⟨pod, hp⟩

theorem tests_store (v : Visit) (s : Store) : (v.store s).tests = s.tests := by
  rw [store]
  induction v.news generalizing s with
  | nil => rfl
  | cons n news ih => exact (ih _).trans (after_podStatus s n.1 n.2).1

theorem holds_store {m : Manifest} (h : s.Holds m) : (v.store s).Holds m := by
  rw [store]
  induction v.news generalizing s with
  | nil => exact h
  | cons n news ih => exact ih (Rehearsal.Edit.holds_after rfl h)

theorem exists_pod_of_store {p : Place} {pod : Pod} (h : (v.store s).pods.get? p = some pod) :
    ∃ old, s.pods.get? p = some old := by
  rw [store] at h
  generalize v.news = news at h
  induction news generalizing s pod with
  | nil => exact ⟨pod, h⟩
  | cons n news ih =>
    obtain ⟨old, ho⟩ := ih h
    exact (after_podStatus s n.1 n.2).2 p old ho

theorem ready_store {w : Workload} {namespaceName : String} (h : s.Ready w namespaceName) :
    (v.store s).Ready w namespaceName := by
  intro pod hp m hm hne
  obtain ⟨old, ho⟩ := exists_pod_of_store hp
  exact holds_store (h old ho m hm hne)

/-- If no fault is told, the store has acted on the question. -/
theorem answer_of_fault_eq_none (h : v.fate.fault = none) (s : Store) (q : Query) :
    v.answer s q = (v.store s).answer v.fate q := by
  obtain ⟨news, ⟨id, now, fault⟩, acted⟩ := v
  cases h
  cases acted <;> rfl

/-- An application goes well, or a fault is told and the store has acted or has not. -/
theorem answer_apply (v : Visit) (s : Store) (m : Manifest) :
    v.fate.fault = none ∧ v.answer s (.apply m) = (.ok (), (v.store s).apply m) ∨
      ∃ e, v.fate.fault = some e ∧ (v.answer s (.apply m)).1 = .error e ∧
        ((v.answer s (.apply m)).2 = v.store s ∨
          (v.answer s (.apply m)).2 = (v.store s).apply m) := by
  obtain ⟨news, ⟨id, now, fault⟩, acted⟩ := v
  cases fault with
  | none => cases acted <;> exact Or.inl ⟨rfl, rfl⟩
  | some e =>
    cases acted
    · exact Or.inr ⟨e, rfl, rfl, Or.inl rfl⟩
    · exact Or.inr ⟨e, rfl, rfl, Or.inr rfl⟩

end Visit

/-! ### One attempt -/

/-- At no moment of an attempt was the Pod there without what it needs. -/
structure Trial.Ready (tr : Trial) (w : Workload) (namespaceName : String) : Prop where
  /-- Nor is it now. -/
  store : tr.store.Ready w namespaceName
  /-- Nor was it before. -/
  seen : ∀ s ∈ tr.seen, s.Ready w namespaceName

namespace Course

variable {c : Course} {tr : Trial} {w : Workload} {namespaceName : String}

theorem ready_answer (h : tr.Ready w namespaceName) {q : Query}
    (hr : (c.answer q tr).2.store.Ready w namespaceName) :
    (c.answer q tr).2.Ready w namespaceName where
  store := hr
  seen s hs := by
    rcases List.mem_cons.1 hs with rfl | hs
    · exact hr
    · rcases List.mem_cons.1 hs with rfl | hs
      · exact Visit.ready_store h.store
      · exact h.seen s hs

theorem run_applyAll_cons (m : Manifest) (rest : List Manifest) :
    (Step.applyAll (m :: rest)).run.run c.answer tr =
      match (c.answer (.apply m) tr).1 with
      | .ok _ => (Step.applyAll rest).run.run c.answer (c.answer (.apply m) tr).2
      | .error f => (.error f, (c.answer (.apply m) tr).2) := by
  rw [Step.applyAll, Step.run_bind, Step.run_apply, Program.bind_ask, Program.run]
  cases (c.answer (.apply m) tr).1 <;> rfl

/-- The objects that are left are applied: either all go well, and then the whole workload is there;
or one of them fails, and nothing more is asked. -/
theorem run_applyAll {done rest : List Manifest} (hms : w.manifests namespaceName = done ++ rest)
    (hr : tr.Ready w namespaceName) (hd : ∀ m ∈ done, tr.store.Holds m) :
    let r := (Step.applyAll rest).run.run c.answer tr
    r.2.Ready w namespaceName ∧ r.2.store.tests = tr.store.tests ∧
      (∀ q ∈ r.2.asked, q ∈ tr.asked ∨ ∃ m, q = .apply m) ∧
      ((r.1 = .ok () ∧ (∀ m ∈ w.manifests namespaceName, r.2.store.Holds m) ∧
          ∀ j < rest.length, (c (tr.asked.length + j)).fate.fault = none) ∨
        ∃ f, r.1 = .error f ∧ ∃ j < rest.length,
          (c (tr.asked.length + j)).fate.fault = some f) := by
  induction rest generalizing done tr with
  | nil =>
    refine ⟨hr, rfl, fun q hq => Or.inl hq, Or.inl ⟨rfl, ?_, by simp⟩⟩
    rw [hms, List.append_nil]
    exact hd
  | cons m rest ih =>
    have hm : m ∈ w.manifests namespaceName := by simp [hms]
    have hdone : ∀ m' ∈ done, m' ∈ w.manifests namespaceName := fun m' h => by simp [hms, h]
    have hlast : m = .pod w.pod → ∀ m' ∈ w.manifests namespaceName, m' ≠ m →
        tr.store.Holds m' := by
      rintro rfl m' hm' hne
      obtain rfl := Workload.pod_last hms
      rw [hms] at hm'
      rcases List.mem_append.1 hm' with hm' | hm'
      · exact hd m' hm'
      · exact absurd (List.mem_singleton.1 hm') hne
    have hv : ((c tr.asked.length).store tr.store).Ready w namespaceName :=
      Visit.ready_store hr.store
    have happly : (((c tr.asked.length).store tr.store).apply m).Ready w namespaceName :=
      hv.apply hm fun hpod m' hm' hne => Visit.holds_store (hlast hpod m' hm' hne)
    have htests : (((c tr.asked.length).store tr.store).apply m).tests = tr.store.tests := by
      rw [Store.tests_apply, Visit.tests_store]
    rw [run_applyAll_cons]
    rcases (c tr.asked.length).answer_apply tr.store m with ⟨hf, ha⟩ | ⟨e, hf, ha, hs⟩
    · have hfst : (c.answer (.apply m) tr).1 = .ok () := congrArg Prod.fst ha
      have hstore : (c.answer (.apply m) tr).2.store =
          ((c tr.asked.length).store tr.store).apply m := congrArg Prod.snd ha
      have hholds : ∀ m' ∈ done ++ [m], (c.answer (.apply m) tr).2.store.Holds m' := by
        intro m' hm'
        rw [hstore]
        rcases List.mem_append.1 hm' with hm' | hm'
        · exact (Visit.holds_store (hd m' hm')).apply_manifest (hdone m' hm') hm
        · rw [List.mem_singleton.1 hm']
          exact Store.holds_apply _ m
      obtain ⟨hready, htests', hasked, hend⟩ :=
        ih (by simpa using hms) (ready_answer hr (hstore ▸ happly)) hholds
      have hnext : ∀ j, (c.answer (.apply m) tr).2.asked.length + j =
          tr.asked.length + (j + 1) := fun j => by
        rw [show (c.answer (.apply m) tr).2.asked.length = tr.asked.length + 1 from rfl]
        omega
      rw [hfst]
      refine ⟨hready, htests'.trans (hstore ▸ htests), fun q hq => ?_, hend.imp ?_ ?_⟩
      · rcases hasked q hq with hq | hq
        · rcases List.mem_cons.1 hq with rfl | hq
          · exact Or.inr ⟨m, rfl⟩
          · exact Or.inl hq
        · exact Or.inr hq
      · rintro ⟨hok, hall, hno⟩
        refine ⟨hok, hall, fun j hj => ?_⟩
        cases j with
        | zero => exact hf
        | succ j => exact hnext j ▸ hno j (Nat.lt_of_succ_lt_succ hj)
      · rintro ⟨f, he, j, hj, hfault⟩
        exact ⟨f, he, j + 1, Nat.succ_lt_succ hj, hnext j ▸ hfault⟩
    · have hfst : (c.answer (.apply m) tr).1 = .error e := ha
      have hready : (c.answer (.apply m) tr).2.store.Ready w namespaceName ∧
          (c.answer (.apply m) tr).2.store.tests = tr.store.tests := by
        have hstore : (c.answer (.apply m) tr).2.store =
            ((c tr.asked.length).answer tr.store (.apply m)).2 := rfl
        rw [hstore]
        rcases hs with hs | hs
        · exact ⟨by rw [hs]; exact hv, by rw [hs, Visit.tests_store]⟩
        · exact ⟨by rw [hs]; exact happly, by rw [hs, htests]⟩
      rw [hfst]
      refine ⟨ready_answer hr hready.1, hready.2, fun q hq => ?_, Or.inr ⟨e, rfl, 0, by simp, hf⟩⟩
      rcases List.mem_cons.1 hq with rfl | hq
      · exact Or.inr ⟨m, rfl⟩
      · exact Or.inl hq

/-- After all objects were applied the time is asked, and the Test is written as `Running`. -/
theorem run_finish {t : Test} {a : Action} {config : Config} {name : String} {left : Nat}
    (hr : tr.Ready w namespaceName) (hholds : ∀ m ∈ w.manifests namespaceName, tr.store.Holds m)
    (hst : tr.store.tests.get? t.home = some t) (hc : c.Succeeds) :
    let r := (Program.ask .clock fun now => .ask (.writeStatus (t.started now)) fun x =>
      (a.afterWrite config namespaceName name .pending left x).bind
        fun r => .done (Reconciliation.ofOutcome .pending a r)).run c.answer tr
    r.1.result = .ok (.ofPhase .running) ∧ r.1.entered = some .running ∧
      r.2.Ready w namespaceName ∧ ∀ m ∈ w.manifests namespaceName, r.2.store.Holds m := by
  simp only [Program.run]
  -- the time is told, and of the store only Pods may have been told of
  have hclock : (c.answer .clock tr).2.store = (c tr.asked.length).store tr.store :=
    congrArg Prod.snd (Visit.answer_of_fault_eq_none (hc _) tr.store .clock)
  have hready₁ : (c.answer .clock tr).2.Ready w namespaceName :=
    ready_answer hr (hclock ▸ Visit.ready_store hr.store)
  generalize (c.answer .clock tr).2 = tr₁ at *
  generalize (c.answer .clock tr).1 = now at *
  -- the Test is still the one that is stored, so it is written
  have hstored : ((c tr₁.asked.length).store tr₁.store).tests.get? (t.started now).home =
      some t := by
    rw [Visit.tests_store, hclock, Visit.tests_store]
    exact hst
  have hwrite : (c tr₁.asked.length).answer tr₁.store (.writeStatus (t.started now)) =
      (.ok (((c tr₁.asked.length).store tr₁.store).overwritten t (t.started now)),
        (((c tr₁.asked.length).store tr₁.store).putTest (t.started now).home
          { t with status := (t.started now).status }).1) := by
    rw [Visit.answer_of_fault_eq_none (hc _), Store.answer, Fate.call, hc]
    rcases Store.writeStatus_cases ((c tr₁.asked.length).store tr₁.store) (t.started now) with
      ⟨old, ho, -, hw⟩ | ⟨old, ho, hv, -⟩ | ⟨ho, -⟩
    · obtain rfl : old = t := Option.some.inj (ho.symm.trans hstored)
      exact hw
    · obtain rfl : old = t := Option.some.inj (ho.symm.trans hstored)
      exact absurd rfl hv
    · rw [hstored] at ho
      cases ho
  have hfst : (c.answer (.writeStatus (t.started now)) tr₁).1 = .ok _ := congrArg Prod.fst hwrite
  have hstore : (c.answer (.writeStatus (t.started now)) tr₁).2.store = _ :=
    congrArg Prod.snd hwrite
  have hready₂ : (c.answer (.writeStatus (t.started now)) tr₁).2.Ready w namespaceName := by
    refine ready_answer hready₁ ?_
    rw [hstore]
    exact (Visit.ready_store hready₁.store).putTest _ _
  have hphase : (((c tr₁.asked.length).store tr₁.store).overwritten t (t.started now)).phase =
      .running := rfl
  rw [hfst, Action.afterWrite, Program.bind_done, Program.run, Reconciliation.ofOutcome, hphase,
    if_neg (by decide)]
  refine ⟨rfl, rfl, hready₂, fun m hm => ?_⟩
  rw [hstore]
  refine (Visit.holds_store ?_).putTest _ _
  rw [hclock]
  exact Visit.holds_store (hholds m hm)

end Course

/-- With nothing asked yet. -/
theorem Store.Ready.trial {s : Store} {w : Workload} {namespaceName : String}
    (h : s.Ready w namespaceName) : ({ store := s } : Trial).Ready w namespaceName :=
  ⟨h, by simp⟩

namespace Test

variable {t : Test} {config : Config} {namespaceName : String} {w : Workload} {s : Store}
  {c : Course}

/-- An attempt in which an object could not be applied ends with that fault, and asks nothing but
for objects to be applied. -/
theorem attempt_fails (hp : t.phase = .pending) (hn : t.metadata.namespaceName = some namespaceName)
    (hw : t.workload config = .ok w) (hr : s.Ready w namespaceName) (hc : c.Fails) :
    (∃ f, (t.attempt config s c).1.result = .error f) ∧
      (∀ q ∈ (t.attempt config s c).2.asked, ∃ m, q = .apply m) ∧
      (t.attempt config s c).2.store.tests = s.tests ∧
      (t.attempt config s c).2.Ready w namespaceName := by
  obtain ⟨left, hrec⟩ := reconcile_pending hp hn hw
  obtain ⟨k, hk, hfault⟩ := hc
  obtain ⟨hready, htests, hasked, ⟨-, -, hno⟩ | ⟨f, he, -⟩⟩ :=
    Course.run_applyAll (c := c) (List.nil_append _).symm hr.trial (by simp)
  · have hnone := hno k hk
    rw [show ({ store := s } : Trial).asked.length + k = k from Nat.zero_add k] at hnone
    exact absurd hnone hfault
  · rw [attempt, hrec, Program.run_bind, he]
    exact ⟨⟨f, rfl⟩, fun q hq => (hasked q hq).resolve_left (by simp), htests, hready⟩

/-- An attempt in which nothing fails leaves the whole workload, and a Test that is `Running`. -/
theorem attempt_succeeds (hp : t.phase = .pending)
    (hn : t.metadata.namespaceName = some namespaceName) (hw : t.workload config = .ok w)
    (hr : s.Ready w namespaceName) (hst : s.tests.get? t.home = some t) (hc : c.Succeeds) :
    (t.attempt config s c).1.result = .ok (.ofPhase .running) ∧
      (t.attempt config s c).1.entered = some .running ∧
      (t.attempt config s c).2.Ready w namespaceName ∧
      ∀ m ∈ w.manifests namespaceName, (t.attempt config s c).2.store.Holds m := by
  obtain ⟨left, hrec⟩ := reconcile_pending hp hn hw
  obtain ⟨hready, htests, -, ⟨hok, hholds, -⟩ | ⟨f, -, j, -, hfault⟩⟩ :=
    Course.run_applyAll (c := c) (List.nil_append _).symm hr.trial (by simp)
  · rw [attempt, hrec, Program.run_bind, hok]
    exact Course.run_finish hready hholds (by rw [htests, hst]) hc
  · rw [hc] at hfault
    cases hfault

/-! ### All attempts -/

theorem attempts_concat (t : Test) (config : Config) (s : Store) (cs : List Course) (c : Course) :
    t.attempts config s (cs ++ [c]) =
      t.attempts config s cs ++ [t.attempt config (t.remains config s cs) c] := by
  induction cs generalizing s with
  | nil => rfl
  | cons c' cs ih => exact congrArg (List.cons _) (ih _)

/-- Attempts that fail write no status, and leave the Tests as they are. -/
theorem attempts_fail (hp : t.phase = .pending)
    (hn : t.metadata.namespaceName = some namespaceName) (hw : t.workload config = .ok w)
    {cs : List Course} (hcs : ∀ c ∈ cs, c.Fails) (hr : s.Ready w namespaceName) :
    (∀ r ∈ t.attempts config s cs, (∃ f, r.1.result = .error f) ∧
      (∀ q ∈ r.2.asked, ∃ m, q = .apply m) ∧ r.2.store.tests = s.tests ∧
      r.2.Ready w namespaceName) ∧
    (t.remains config s cs).Ready w namespaceName ∧
      (t.remains config s cs).tests = s.tests := by
  induction cs generalizing s with
  | nil => exact ⟨by simp [attempts], hr, rfl⟩
  | cons c cs ih =>
    obtain ⟨herror, hasked, htests, hready⟩ :=
      attempt_fails hp hn hw hr (hcs c List.mem_cons_self)
    obtain ⟨hall, hrest, htests'⟩ :=
      ih (fun c' h => hcs c' (List.mem_cons_of_mem _ h)) hready.store
    refine ⟨fun r hmem => ?_, hrest, htests'.trans htests⟩
    rcases List.mem_cons.1 hmem with rfl | hmem
    · exact ⟨herror, hasked, htests, hready⟩
    · obtain ⟨herror, hasked, htests', hready⟩ := hall r hmem
      exact ⟨herror, hasked, htests'.trans htests, hready⟩

end Test

/-- The Pod but for what the cluster says about it. -/
def Pod.applied (p : Pod) : Pod := { p with status := none }

/-- Stores that hold a workload have the same objects of it. -/
theorem Store.eq_of_holds {s s' : Store} {w : Workload} {namespaceName : String} {p : Place}
    (hc : w.configMap.metadata.place = p) (hp : w.pod.metadata.place = p)
    (h : ∀ m ∈ w.manifests namespaceName, s.Holds m)
    (h' : ∀ m ∈ w.manifests namespaceName, s'.Holds m) :
    s.serviceAccounts.get? ⟨namespaceName, Viewer.name⟩ =
        s'.serviceAccounts.get? ⟨namespaceName, Viewer.name⟩ ∧
      s.roles.get? ⟨namespaceName, Viewer.name⟩ = s'.roles.get? ⟨namespaceName, Viewer.name⟩ ∧
      s.roleBindings.get? ⟨namespaceName, Viewer.name⟩ =
        s'.roleBindings.get? ⟨namespaceName, Viewer.name⟩ ∧
      s.configMaps.get? p = s'.configMaps.get? p ∧
      (s.pods.get? p).map Pod.applied = (s'.pods.get? p).map Pod.applied := by
  simp only [Workload.manifests, List.mem_cons, List.not_mem_nil, or_false, forall_eq_or_imp,
    forall_eq] at h h'
  obtain ⟨hsa, hrole, hbinding, hmap, pod, hpod, hmeta, hspec⟩ := h
  obtain ⟨hsa', hrole', hbinding', hmap', pod', hpod', hmeta', hspec'⟩ := h'
  rw [Store.Holds, hc] at hmap hmap'
  rw [hp] at hpod hpod'
  refine ⟨hsa.trans hsa'.symm, hrole.trans hrole'.symm, hbinding.trans hbinding'.symm,
    hmap.trans hmap'.symm, ?_⟩
  rw [hpod, hpod', Option.map_some, Option.map_some, Pod.applied, Pod.applied, hmeta, hmeta',
    hspec, hspec']

/-- A start that failed is repaired by repeating it. Whatever attempts failed at one of the five
applications, with or without an effect: none of them wrote a status; at no moment the Pod of the
generation was there without its ConfigMap and the viewer identity; and an attempt in which nothing
fails ends with the Test `Running` and leaves the same objects as one on the store that the attempts
began with. -/
theorem Test.start_repaired {t : Test} {config : Config} {s : Store}
    {namespaceName name uid id : String} (hp : t.phase = .pending) (hv : t.check = .ok ())
    (hn : t.metadata.namespaceName = some namespaceName) (hname : t.metadata.name = some name)
    (hu : t.metadata.uid = some uid) (hi : t.testId? = some id)
    (hst : s.tests.get? t.home = some t)
    (hnew : s.pods.get? ⟨namespaceName, generationName name id⟩ = none)
    {cs : List Course} (hcs : ∀ c ∈ cs, c.Fails) {c c' : Course} (hc : c.Succeeds)
    (hc' : c'.Succeeds) :
    let place : Place := ⟨namespaceName, generationName name id⟩
    let viewer : Place := ⟨namespaceName, Viewer.name⟩
    let last := t.attempt config (t.remains config s cs) c
    let single := t.attempt config s c'
    (∀ r ∈ t.attempts config s cs, (∃ f, r.1.result = .error f) ∧
      (∀ u, .writeStatus u ∉ r.2.asked) ∧ r.2.store.tests = s.tests) ∧
    (∀ r ∈ t.attempts config s (cs ++ [c]), ∀ s' ∈ r.2.seen, ∀ pod,
      s'.pods.get? place = some pod →
        (∃ m, s'.configMaps.get? place = some m) ∧
        s'.serviceAccounts.get? viewer = some (Viewer.serviceAccount namespaceName) ∧
        s'.roles.get? viewer = some (Viewer.role namespaceName) ∧
        s'.roleBindings.get? viewer = some (Viewer.roleBinding namespaceName)) ∧
    last.1.result = .ok (.ofPhase .running) ∧ last.1.entered = some .running ∧
    (∃ pod, last.2.store.pods.get? place = some pod) ∧
    last.2.store.serviceAccounts.get? viewer = single.2.store.serviceAccounts.get? viewer ∧
    last.2.store.roles.get? viewer = single.2.store.roles.get? viewer ∧
    last.2.store.roleBindings.get? viewer = single.2.store.roleBindings.get? viewer ∧
    last.2.store.configMaps.get? place = single.2.store.configMaps.get? place ∧
    (last.2.store.pods.get? place).map Pod.applied =
      (single.2.store.pods.get? place).map Pod.applied := by
  intro place viewer last single
  have howner : ∃ owner, t.ownerReference? = some owner := by
    rw [ownerReference?, hname, hu]
    exact ⟨_, rfl⟩
  obtain ⟨owner, ho⟩ := howner
  obtain ⟨w, hw⟩ : ∃ w, t.workload config = .ok w :=
    ⟨_, workload_eq_ok_iff.2 ⟨hv, namespaceName, id, owner, hn, hi, ho, rfl⟩⟩
  have hany : t.nameAny = name := by rw [nameAny, ObjectMeta.nameAny, hname]
  have hplace : w.configMap.metadata.place = place ∧ w.pod.metadata.place = place := by
    obtain ⟨-, n, id', _, hn', hi', -, rfl⟩ := workload_eq_ok_iff.1 hw
    obtain rfl : namespaceName = n := Option.some.inj (hn.symm.trans hn')
    obtain rfl : id = id' := Option.some.inj (hi.symm.trans hi')
    exact ⟨by rw [Workload.place_metadata, hany]; rfl, by rw [Workload.place_metadata, hany]; rfl⟩
  have hready : s.Ready w namespaceName := by
    intro pod hpod
    rw [hplace.2, hnew] at hpod
    cases hpod
  obtain ⟨hfail, hready', htests⟩ := attempts_fail hp hn hw hcs hready
  obtain ⟨hres, hent, hlast, hholds⟩ :=
    attempt_succeeds hp hn hw hready' (by rw [htests]; exact hst) hc
  obtain ⟨-, -, -, hholds'⟩ := attempt_succeeds hp hn hw hready hst hc'
  refine ⟨fun r hr => ?_, fun r hr s' hs' pod hpod => ?_, hres, hent, ?_,
    Store.eq_of_holds hplace.1 hplace.2 hholds hholds'⟩
  · obtain ⟨herror, hasked, hsame, -⟩ := hfail r hr
    refine ⟨herror, fun u hmem => ?_, hsame⟩
    obtain ⟨m, hm⟩ := hasked _ hmem
    cases hm
  · have hrr : r.2.Ready w namespaceName := by
      rw [attempts_concat] at hr
      rcases List.mem_append.1 hr with hr | hr
      · exact (hfail r hr).2.2.2
      · rw [List.mem_singleton.1 hr]
        exact hlast
    have hall := hrr.seen s' hs' pod (by rw [hplace.2]; exact hpod)
    have hmap := hall (.configMap w.configMap) (by simp [Workload.manifests]) (by simp)
    rw [Store.Holds, hplace.1] at hmap
    have hsa := hall (.serviceAccount (Viewer.serviceAccount namespaceName))
      (by simp [Workload.manifests]) (by simp)
    have hrole := hall (.role (Viewer.role namespaceName))
      (by simp [Workload.manifests]) (by simp)
    have hbinding := hall (.roleBinding (Viewer.roleBinding namespaceName))
      (by simp [Workload.manifests]) (by simp)
    exact ⟨⟨_, hmap⟩, hsa, hrole, hbinding⟩
  · obtain ⟨pod, hpod, -⟩ := hholds (.pod w.pod) (by simp [Workload.manifests])
    rw [hplace.2] at hpod
    exact ⟨pod, hpod⟩

namespace System

/-- Nothing fails. -/
def calm : Course := fun _ => { fate := plainFate }

/-- The question of that number fails, whether the store acts on it or not. -/
def broken (k : Nat) (acted : Bool) : Course := fun n =>
  if n = k then { fate := { plainFate with fault := some Store.modified }, acted } else calm n

theorem fails_broken {k : Nat} (hk : k < 5) (acted : Bool) : (broken k acted).Fails :=
  ⟨k, hk, by simp [broken]⟩

/-- The store with the Test that waits for its workload. -/
def waitingStore : Store := { tests := ⟨[(greeted, waiting)]⟩, versions := 2 }

/-- The ConfigMap is applied and its answer is lost, then the Pod cannot be applied; the third
attempt starts the Test. -/
theorem waiting_repaired :
    let last := waiting.attempt {} (waiting.remains {} waitingStore [broken 3 true, broken 4 false])
      calm
    last.1.entered = some .running ∧
      ∃ pod, last.2.store.pods.get? ⟨"default", generationName "hello" "2"⟩ = some pod := by
  intro last
  have hfail : ∀ c ∈ [broken 3 true, broken 4 false], c.Fails := by
    intro c hc
    simp only [List.mem_cons, List.not_mem_nil, or_false] at hc
    rcases hc with rfl | rfl
    · exact fails_broken (by decide) true
    · exact fails_broken (by decide) false
  have hcalm : calm.Succeeds := fun _ => rfl
  have hstored : waitingStore.tests.get? waiting.home = some waiting := rfl
  have hnew : waitingStore.pods.get? ⟨"default", generationName "hello" "2"⟩ = none := rfl
  obtain ⟨-, -, -, hentered, hpod, -⟩ :=
    Test.start_repaired rfl rfl rfl rfl rfl rfl hstored hnew hfail hcalm hcalm
  exact ⟨hentered, hpod⟩

end System

end Proctor
