import Mathlib.Data.List.Basic
import Mathlib.Data.List.Forall2

/-!
# Facts on lists

What the theory needs of lists and of nothing else. A list of trials succeeds just if each of them
does (`mapM_eq_ok_iff`, `exists_mapM_eq_some`); what stands somewhere in a list with one more item
stands in the list or is that item (`append_singleton_eq_append_cons_iff`).
-/

namespace Proctor

variable {α β : Type}

/-! ### Trials -/

/-- Trials succeed with these values just if each of them succeeds with its own. -/
theorem mapM_eq_ok_iff {ε : Type} {f : α → Except ε β} {xs : List α} {ys : List β} :
    xs.mapM f = .ok ys ↔ xs.map f = ys.map .ok := by
  induction xs generalizing ys with
  | nil =>
    cases ys with
    | nil => exact iff_of_true rfl rfl
    | cons y ys => exact iff_of_false nofun nofun
  | cons x xs ih =>
    rw [List.mapM_cons, List.map_cons]
    cases hx : f x with
    | error e => cases ys <;> exact iff_of_false nofun nofun
    | ok y =>
      cases ys with
      | nil => cases hxs : xs.mapM f <;> exact iff_of_false nofun nofun
      | cons z zs =>
        rw [List.map_cons, List.cons.injEq, Except.ok.injEq, ← ih]
        cases hxs : xs.mapM f with
        | error e => exact iff_of_false nofun (fun h => nomatch h.2)
        | ok rest =>
          show Except.ok (y :: rest) = .ok (z :: zs) ↔ _
          rw [Except.ok.injEq, Except.ok.injEq, List.cons.injEq]

theorem exists_mapM_eq_some {f : α → Option β} {xs : List α} (h : ∀ x ∈ xs, ∃ y, f x = some y) :
    ∃ ys, xs.mapM f = some ys := by
  induction xs with
  | nil => exact ⟨[], rfl⟩
  | cons x xs ih =>
    obtain ⟨y, hy⟩ := h x List.mem_cons_self
    obtain ⟨ys, hys⟩ := ih fun z hz => h z (List.mem_cons_of_mem x hz)
    exact ⟨y :: ys, by simp [List.mapM_cons, hy, hys]⟩

/-- What was written item by item is read item by item. -/
theorem mapM_map_eq {write : α → β} {read : β → Option α} (h : ∀ a, read (write a) = some a)
    (items : List α) : (items.map write).mapM read = some items := by
  induction items with
  | nil => rfl
  | cons a rest ih => simp [List.mapM_cons, h, ih]

/-! ### Items -/

theorem exists_rel_of_mem {R : α → β → Prop} {as : List α} {bs : List β}
    (h : List.Forall₂ R as bs) {a : α} (ha : a ∈ as) : ∃ b ∈ bs, R a b := by
  induction h with
  | nil => cases ha
  | cons hr _ ih =>
    rcases List.mem_cons.1 ha with rfl | ha
    · exact ⟨_, List.mem_cons_self, hr⟩
    · obtain ⟨b, hb, hr⟩ := ih ha
      exact ⟨b, List.mem_cons_of_mem _ hb, hr⟩

theorem append_singleton_eq_append_cons_iff {xs es fs : List α} {x y : α} :
    xs ++ [x] = es ++ y :: fs ↔
      fs = [] ∧ es = xs ∧ y = x ∨ ∃ fs', fs = fs' ++ [x] ∧ xs = es ++ y :: fs' := by
  constructor
  · intro h
    rcases List.eq_nil_or_concat fs with rfl | ⟨fs', z, rfl⟩
    · obtain ⟨h₁, h₂⟩ := List.append_inj' h rfl
      cases h₂
      exact Or.inl ⟨rfl, h₁.symm, rfl⟩
    · have h' : xs ++ [x] = (es ++ y :: fs') ++ [z] := by simpa using h
      obtain ⟨h₁, h₂⟩ := List.append_inj' h' rfl
      cases h₂
      exact Or.inr ⟨fs', by simp, h₁⟩
  · rintro (⟨rfl, rfl, rfl⟩ | ⟨fs', rfl, rfl⟩) <;> simp

theorem countP_flatMap_of_countP {f : α → List β} {p : β → Bool} {q : α → Bool} {xs : List α}
    (h : ∀ x ∈ xs, (f x).countP p = if q x then 1 else 0) :
    (xs.flatMap f).countP p = xs.countP q := by
  induction xs with
  | nil => rfl
  | cons x xs ih =>
    rw [List.flatMap_cons, List.countP_append, List.countP_cons, h x List.mem_cons_self,
      ih fun y hy => h y (List.mem_cons_of_mem _ hy), Nat.add_comm]

end Proctor
