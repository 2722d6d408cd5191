import Proctor.Proofs.Concurrency.Edges
import Proctor.Proofs.Lifecycle.Faults

/-!
# Clients that leave statuses to the controllers

Clients make Tests without a status, edit their specs, and may ask by the phase that a Test is left
alone or run again; all else that a status says comes from controllers. Then a Test that is stored
was made, or it comes from one that was stored before: an edit kept its status, a client set its
phase (`Test.Stems`), or a controller wrote its status (`System.Reaches.mem_past_step`). What holds
of all Tests that are ever stored is proved along these ways.
-/

namespace Proctor

/-- A fault that the controller finds by itself; the store tells of others. -/
def Fault.isOwn : Fault → Bool
  | .missingNamespace | .missingTestId _ => true
  | _ => false

/-- A phase that clients may ask for: the Test is left alone, or it is run again. -/
def Phase.isWish : Phase → Bool
  | .new | .updating | .deleting => true
  | _ => false

/-- How a Test stems from those that were ever stored, if no controller wrote its status. -/
inductive Test.Stems (past : List Test) (u : Test) : Prop where
  /-- It was stored before. -/
  | kept (h : u ∈ past)
  /-- It was made. -/
  | made (h : u.status = none)
  /-- One was edited, and kept its status. -/
  | edited {t : Test} (ht : t ∈ past) (hh : u.home = t.home) (hs : u.status = t.status)
  /-- A client set the phase of one. -/
  | wished {t : Test} {phase : Phase} (ht : t ∈ past) (hh : u.home = t.home)
    (hp : phase.isWish = true) (hs : u.status = (t.withStatus fun st => { st with phase }).status)

namespace Rehearsal

/-- An edit leaves to the controllers what a status says. A Test is made without one, and of a
status only the phase is set, to one that clients may ask for. -/
def Edit.LeavesStatus : Edit → Prop
  | .putTest t => ∀ u ∈ t, u.status = none
  | .setStatus _ _ => False
  | .setPhase _ phase => ∀ q ∈ phase, q.isWish = true
  | .setSpec _ _ | .setUid _ _ | .deleteTest _ | .putPod _ | .podStatus _ _
  | .generationStatus _ _ | .deletePod _ => True

theorem Edit.Stores.stems {e : Edit} {s : Store} {past : List Test} {u : Test}
    (h : e.Stores s u) (he : e.LeavesStatus) (hs : s.History past) : u.Stems past := by
  cases h with
  | made t => exact .made (he t rfl)
  | respecified spec ht => exact .edited (hs.mem_of_get? ht) rfl rfl
  | restated status ht => exact he.elim
  | moved phase ht => exact .wished (hs.mem_of_get? ht) rfl (he phase rfl) rfl
  | renamed uid ht => exact .edited (hs.mem_of_get? ht) rfl rfl

end Rehearsal

namespace System

variable {s : System} {m : Move}

/-- Controllers reconcile, each from a Test that was stored at some time; clients leave statuses to
them, and the store tells of none of the faults that controllers find by themselves. -/
def Tended (s : System) : Move → Prop
  | .edit e => e.LeavesStatus
  | .launch j => s.Reconciling (.launch j)
  | .answer _ f => ∀ e ∈ f.fault, e.isOwn = false

theorem Tended.reconciling (h : s.Tended m) : s.Reconciling m := by
  cases m with
  | launch j => exact h
  | edit _ | answer _ _ => trivial

theorem Reaches.mono {allowed allowed' : System → Move → Prop}
    (ha : ∀ s m, allowed s m → allowed' s m) (h : Reaches allowed s) : Reaches allowed' s := by
  induction h with
  | empty => exact .empty
  | step _ hm ih => exact ih.step (ha _ _ hm)

theorem Reaches.reconciling (h : Reaches Tended s) : Reaches Reconciling s :=
  h.mono fun _ _ => Tended.reconciling

theorem Reaches.tended_sound (h : Reaches Tended s) : s.Sound :=
  h.sound fun _ _ hm => hm.reconciling.known

theorem mem_writes_step {w : Write} (hw : w ∈ s.writes) : w ∈ (s.step m).writes := by
  cases m with
  | edit _ | launch _ => exact hw
  | answer i f =>
    rw [System.step]
    rcases s.answer_eq i f with ha | ⟨t, q, next, hq, ht, ha⟩
    · rwa [ha]
    · rw [ha]
      exact List.mem_append_right _ hw

/-- A Test that is stored after a move stems from those before, or a controller has written its
status. -/
theorem Reaches.mem_past_step (h : Reaches Tended s) (hm : s.Tended m) {u : Test}
    (hu : u ∈ (s.step m).past) :
    u.Stems s.past ∨ ∃ w ∈ (s.step m).writes, w.before ∈ s.past ∧ u = w.after := by
  rcases h.tended_sound.mem_past_step hu with hu | ⟨e, rfl, hst⟩ | hw
  · exact Or.inl (.kept hu)
  · exact Or.inl (hst.stems hm h.tended_sound.history)
  · exact Or.inr hw

/-- What the answers of the store have in common is true of all that controllers have heard. -/
theorem Reaches.heard {allowed : System → Move → Prop} {P : Exchange → Prop}
    (hP : ∀ s i f q, allowed s (.answer i f) → P ⟨q, (s.store.answer f q).1⟩)
    (h : Reaches allowed s) : ∀ t ∈ s.tasks, ∀ e ∈ t.heard, P e := by
  induction h with
  | empty => simp
  | @step s m _ hm ih =>
    cases m with
    | edit e => exact ih
    | launch j =>
      intro t ht e he
      rcases List.mem_append.1 ht with ht | ht
      · exact ih t ht e he
      · obtain rfl := List.mem_singleton.1 ht
        cases he
    | answer i f =>
      rw [System.step]
      rcases s.answer_eq i f with ha | ⟨t, q, next, hq, ht, ha⟩
      · rwa [ha]
      · rw [ha]
        intro t' ht' e he
        rcases mem_tasks_hear hq f ht' with ht' | rfl
        · exact ih t' ht' e he
        · rcases List.mem_append.1 he with he | he
          · exact ih t (List.mem_of_getElem? ht) e he
          · obtain rfl := List.mem_singleton.1 he
            exact hP s i f q hm

theorem eq_error_of_call {α : Type} {f : Fate} {store : Store} {r : Except Fault α × Store}
    {e : Fault} (h : (f.call store r).1 = .error e) : f.fault = some e ∨ r.1 = .error e := by
  rw [Fate.call] at h
  cases hf : f.fault with
  | none =>
    rw [hf] at h
    exact Or.inr h
  | some e' =>
    rw [hf] at h
    cases h
    exact Or.inl rfl

/-- The store tells of faults that keep a question from it, and of refused writes. -/
theorem fault?_answer {store : Store} {f : Fate} {q : Query} {g : Fault}
    (h : (⟨q, (store.answer f q).1⟩ : Exchange).fault? = some g) :
    f.fault = some g ∨ g = Store.notFound ∨ g = Store.modified := by
  have he : ∀ {α : Type} {r : Except Fault α × Store}, (f.call store r).1 = .error g →
      (∀ e, r.1 = .error e → e = Store.notFound ∨ e = Store.modified) →
      f.fault = some g ∨ g = Store.notFound ∨ g = Store.modified := fun he hr =>
    (eq_error_of_call he).imp id (hr g)
  cases q with
  | freshId | clock => cases h
  | getTest namespaceName name =>
    exact he (Fault.of?_eq_some_iff.1 h) (by simp)
  | getPod namespaceName name =>
    exact he (Fault.of?_eq_some_iff.1 h) (by simp)
  | apply m => exact he (Fault.of?_eq_some_iff.1 h) (by simp)
  | writeStatus t =>
    refine he (Fault.of?_eq_some_iff.1 h) fun e hw => ?_
    rcases store.writeStatus_cases t with ⟨old, -, -, hs⟩ | ⟨old, -, -, hs⟩ | ⟨-, hs⟩
    · rw [hs] at hw
      cases hw
    · rw [hs] at hw
      cases hw
      exact Or.inr rfl
    · rw [hs] at hw
      cases hw
      exact Or.inl rfl

/-- Controllers hear of none of the faults that they find by themselves. -/
theorem Reaches.heard_foreign (h : Reaches Tended s) {t : Task} (ht : t ∈ s.tasks) {e : Exchange}
    (he : e ∈ t.heard) {f : Fault} (hf : e.fault? = some f) : f.isOwn = false := by
  refine h.heard (P := fun e => ∀ f, e.fault? = some f → f.isOwn = false) ?_ t ht e he f hf
  intro s i fate q hm g hg
  rcases fault?_answer hg with hg | rfl | rfl
  · exact hm g hg
  · rfl
  · rfl

end System

end Proctor
