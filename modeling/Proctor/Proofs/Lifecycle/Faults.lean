import Proctor.Proofs.Lifecycle.Rounds

/-!
# Where faults come from

A run of an action that ends with a fault was told of it by the store, or has used up its attempts,
or one of its rounds found the fault by itself (`Action.runOn_ends_error`). What a round can find is
a Test without a namespace, and for the start a Test that no workload can be computed from
(`Action.handle_faults`).
-/

namespace Proctor

/-- The fault that something ended with. -/
def Fault.of? {α : Type} : Except Fault α → Option Fault
  | .ok _ => none
  | .error f => some f

theorem Fault.of?_eq_some_iff {α : Type} {r : Except Fault α} {f : Fault} :
    Fault.of? r = some f ↔ r = .error f := by
  cases r <;> simp [of?]

/-- The fault that an answer tells. -/
def Exchange.fault? : Exchange → Option Fault
  | ⟨.freshId, _⟩ | ⟨.clock, _⟩ => none
  | ⟨.getTest _ _, x⟩ => Fault.of? x
  | ⟨.writeStatus _, x⟩ => Fault.of? x
  | ⟨.getPod _ _, x⟩ => Fault.of? x
  | ⟨.apply _, x⟩ => Fault.of? x

variable {α β : Type}

namespace Step

/-- A fault that the step ends with is one of its own, or an answer has told of it. -/
def FaultsAre (own : Fault → Prop) (x : Step α) : Prop :=
  ∀ es f, x.run.Ends es (.error f) → own f ∨ ∃ e ∈ es, e.fault? = some f

theorem FaultsAre.bind {own : Fault → Prop} {x : Step α} {f : α → Step β} (hx : x.FaultsAre own)
    (hf : ∀ a, (f a).FaultsAre own) : (x >>= f).FaultsAre own := by
  intro es g h
  rw [run_bind, Program.ends_bind_iff] at h
  obtain ⟨es₁, es₂, r, rfl, hr, hg⟩ := h
  cases r with
  | error e =>
    simp only [andThen, Program.walk_done_iff] at hg
    obtain ⟨rfl, hg⟩ := hg
    cases hg
    rw [List.append_nil]
    exact hx es₁ g hr
  | ok a =>
    rcases hf a es₂ g hg with h | ⟨e, he, h⟩
    · exact Or.inl h
    · exact Or.inr ⟨e, List.mem_append_right _ he, h⟩

theorem FaultsAre.map {own : Fault → Prop} {x : Step α} {g : α → β} (hx : x.FaultsAre own) :
    (g <$> x).FaultsAre own := by
  intro es f h
  rw [run_map, Program.ends_bind_iff] at h
  obtain ⟨es₁, es₂, r, rfl, hr, hg⟩ := h
  cases r with
  | ok a => simp [Except.map] at hg
  | error e =>
    obtain ⟨rfl, hg⟩ := Program.walk_done_iff.1 hg
    cases hg
    rw [List.append_nil]
    exact hx es₁ f hr

theorem faultsAre_pure (own : Fault → Prop) (a : α) : (pure a : Step α).FaultsAre own := by
  intro es f h
  simp at h

theorem faultsAre_lift {own : Fault → Prop} {r : Except Fault α} (h : ∀ f, r = .error f → own f) :
    (lift r).FaultsAre own := by
  intro es f hf
  obtain ⟨-, hf⟩ := Program.walk_done_iff.1 hf
  cases hf
  exact Or.inl (h f rfl)

theorem faultsAre_freshId (own : Fault → Prop) : freshId.FaultsAre own := by
  intro es f h
  rw [run_freshId, Program.ends_ask_done_iff] at h
  obtain ⟨x, -, hx⟩ := h
  cases hx

theorem faultsAre_clock (own : Fault → Prop) : clock.FaultsAre own := by
  intro es f h
  rw [run_clock, Program.ends_ask_done_iff] at h
  obtain ⟨x, -, hx⟩ := h
  cases hx

theorem faultsAre_getPod (own : Fault → Prop) (namespaceName name : String) :
    (getPod namespaceName name).FaultsAre own := by
  intro es f h
  rw [run_getPod, Program.ends_ask_done_iff] at h
  obtain ⟨x, rfl, rfl⟩ := h
  exact Or.inr ⟨_, List.mem_singleton_self _, rfl⟩

theorem faultsAre_applyAll (own : Fault → Prop) (ms : List Manifest) :
    (applyAll ms).FaultsAre own := by
  intro es f h
  obtain ⟨before, m, after, -, rfl⟩ := ends_applyAll_error_iff.1 h
  exact Or.inr ⟨⟨.apply m, .error f⟩, by simp, rfl⟩

end Step

open Step

/-! ### One round -/

theorem orFault_eq_error_iff {f g : Fault} {o : Option α} :
    orFault f o = .error g ↔ o = none ∧ g = f := by
  cases o <;> simp [orFault, eq_comm]

theorem Test.faultsAre_finish {own : Fault → Prop} {t : Test} {phase : Phase} {kept : Collected} :
    (some <$> t.finish phase kept : Step (Option Test)).FaultsAre own :=
  ((faultsAre_clock own).bind fun _ => faultsAre_pure own _).map

/-- What an action finds by itself: a Test without a namespace, and the start also one that no
workload can be computed from. -/
theorem Action.handle_faults (a : Action) (config : Config) (t : Test) :
    (a.handle config t).FaultsAre fun f =>
      t.metadata.namespaceName = none ∧ f = .missingNamespace ∨
        a = .start ∧ t.workload config = .error f := by
  cases a with
  | initiate =>
    refine ((faultsAre_freshId _).bind fun id => ?_).map
    cases h : t.check with
    | ok _ => exact faultsAre_pure _ _
    | error f => exact (faultsAre_clock _).bind fun _ => faultsAre_pure _ _
  | start =>
    refine FaultsAre.map ((faultsAre_lift fun f h => Or.inl (orFault_eq_error_iff.1 h)).bind
      fun namespaceName => (faultsAre_lift fun f h => Or.inr ⟨rfl, h⟩).bind fun w => ?_)
    exact (faultsAre_applyAll _ _).bind fun _ => (faultsAre_clock _).bind fun _ =>
      faultsAre_pure _ _
  | evaluate =>
    refine (faultsAre_lift fun f h => Or.inl (orFault_eq_error_iff.1 h)).bind
      fun namespaceName => ?_
    cases h : t.testId? with
    | none => exact Test.faultsAre_finish
    | some id =>
      refine (faultsAre_getPod _ _ _).bind fun pod? => ?_
      cases pod? with
      | none => exact Test.faultsAre_finish
      | some pod =>
        cases ho : pod.outcome with
        | inProgress => simpa [ho] using faultsAre_pure _ _
        | succeeded => simpa [ho] using Test.faultsAre_finish
        | failed => simpa [ho] using Test.faultsAre_finish
  | monitor => exact faultsAre_pure _ _
  | noop => exact faultsAre_pure _ _

/-! ### All rounds -/

namespace Action

variable {a : Action} {config : Config} {namespaceName name : String} {phase : Phase}

/-- After the Test was read again, the fault is that of the reading, or one of the next rounds. -/
theorem afterRead_ends_error {left : Nat} {y : Except Fault (Option Test)} {es : List Exchange}
    {f : Fault}
    (h : (a.afterRead config namespaceName name phase left y).Ends es (.error f)) :
    y = .error f ∨ ∃ latest, y = .ok (some latest) ∧ latest.phase = phase ∧
      (a.rounds config namespaceName name phase left latest).run.Ends es (.error f) := by
  rcases y with g | _ | latest
  · cases (Program.walk_done_iff.1 h).2
    exact Or.inl rfl
  · cases (Program.walk_done_iff.1 h).2
  · rw [afterRead] at h
    split at h
    · next hp => exact Or.inr ⟨latest, rfl, hp, h⟩
    · cases (Program.walk_done_iff.1 h).2

/-- After a write, the fault is that of the write, or the write met a conflict and the Test was read
again. -/
theorem afterWrite_ends_error {left : Nat} {x : Except Fault Test} {es : List Exchange} {f : Fault}
    (h : (a.afterWrite config namespaceName name phase left x).Ends es (.error f)) :
    x = .error f ∨ ∃ g y es', x = .error g ∧ g.isConflict = true ∧
      es = ⟨.getTest namespaceName name, y⟩ :: es' ∧
      (a.afterRead config namespaceName name phase left y).Ends es' (.error f) := by
  rcases x with g | stored
  · rw [afterWrite] at h
    split at h
    · next hg =>
      obtain ⟨y, es', rfl, hy⟩ := Program.ends_ask_iff.1 h
      exact Or.inr ⟨g, y, es', rfl, hg, rfl, hy⟩
    · cases (Program.walk_done_iff.1 h).2
      exact Or.inl rfl
  · cases (Program.walk_done_iff.1 h).2

/-- Rounds that end with a fault used up the attempts, or were told of the fault, or the last of
them found it on its copy. -/
theorem rounds_ends_error {n : Nat} {t : Test} {es : List Exchange} {f : Fault}
    (h : (a.rounds config namespaceName name phase n t).run.Ends es (.error f)) :
    f = .conflict name config.attempts ∨ (∃ e ∈ es, e.fault? = some f) ∨
      ∃ k earlier round t', es = earlier ++ round ∧
        a.Retries config namespaceName name phase k t earlier t' ∧
        (a.handle config t').run.Ends round (.error f) := by
  induction n generalizing t es with
  | zero =>
    rw [run_rounds_zero] at h
    cases (Program.walk_done_iff.1 h).2
    exact Or.inl rfl
  | succ left ih =>
    rw [run_rounds_succ, Program.ends_bind_iff] at h
    obtain ⟨round, es', r, rfl, hp, hr⟩ := h
    rcases r with g | _ | u
    · obtain ⟨rfl, hd⟩ := Program.walk_done_iff.1 hr
      cases hd
      exact Or.inr (Or.inr ⟨0, [], round, t, by simp, .zero t, hp⟩)
    · cases (Program.walk_done_iff.1 hr).2
    · obtain ⟨x, es', rfl, hx⟩ := Program.ends_ask_iff.1 hr
      rcases afterWrite_ends_error hx with rfl | ⟨g, y, es', rfl, hg, rfl, hy⟩
      · exact Or.inr (Or.inl ⟨⟨.writeStatus u, .error f⟩, by simp, rfl⟩)
      · rcases afterRead_ends_error hy with rfl | ⟨latest, rfl, hph, hn⟩
        · exact Or.inr (Or.inl ⟨⟨.getTest namespaceName name, .error f⟩, by simp, rfl⟩)
        · rcases ih hn with hc | ⟨e, he, hf⟩ | ⟨k, earlier, round', t', rfl, hr', ht'⟩
          · exact Or.inl hc
          · exact Or.inr (Or.inl ⟨e, by simp [he], hf⟩)
          · exact Or.inr (Or.inr ⟨k + 1, _, round', t', by simp,
              .succ (handle_ends_iff.1 hp) hg hph hr', ht'⟩)

/-- A run that ends with a fault has no namespace to work in, or its rounds end with it. -/
theorem runOn_ends_error {t : Test} {es : List Exchange} {f : Fault}
    (h : (a.runOn config t).run.Ends es (.error f)) :
    f = .missingNamespace ∨ f = .conflict t.nameAny config.attempts ∨
      (∃ e ∈ es, e.fault? = some f) ∨
      ∃ namespaceName k earlier round t', es = earlier ++ round ∧
        a.Retries config namespaceName t.nameAny t.phase k t earlier t' ∧
        (a.handle config t').run.Ends round (.error f) := by
  rw [run_runOn] at h
  cases hn : t.metadata.namespaceName with
  | none =>
    rw [hn] at h
    obtain ⟨-, hd⟩ := Program.walk_done_iff.1 h
    cases hd
    exact Or.inl rfl
  | some namespaceName =>
    rw [hn] at h
    rcases rounds_ends_error h with hc | ht | ⟨k, earlier, round, t', hk⟩
    · exact Or.inr (Or.inl hc)
    · exact Or.inr (Or.inr (Or.inl ht))
    · exact Or.inr (Or.inr (Or.inr ⟨namespaceName, k, earlier, round, t', hk⟩))

end Action

/-- A reconciliation ends with the fault that its run of an action ends with. -/
theorem Test.reconcile_ends_error {config : Config} {t : Test} {es : List Exchange}
    {r : Reconciliation} {f : Fault} (h : (t.reconcile config).Ends es r)
    (hr : r.result = .error f) :
    ((Action.ofPhase t.phase).runOn config t).run.Ends es (.error f) := by
  rw [reconcile_eq, Program.ends_bind_iff] at h
  obtain ⟨es₁, es₂, o, rfl, ho, hd⟩ := h
  obtain ⟨rfl, hd⟩ := Program.walk_done_iff.1 hd
  cases hd
  rw [List.append_nil]
  rcases o with g | _ | stored
  · cases hr
    exact ho
  · cases hr
  · rw [Reconciliation.ofOutcome] at hr
    split at hr <;> cases hr

end Proctor
