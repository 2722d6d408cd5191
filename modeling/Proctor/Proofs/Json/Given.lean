import Mathlib.Data.List.Forall2
import Mathlib.Data.List.Nodup
import Proctor.Proofs.Json.Merge
import Proctor.Proofs.Lists

/-!
# Objects of the fields that have a value

An object is written out of fields of which some have no value and are left out (`Json.given`). What
a record holds under a name is the value of the field of that name, if it has one
(`Json.record?_ofFields`).
-/

namespace Proctor.Json

theorem record?_of_nodup {names : List String} {fields : List (String × Json)}
    (h : (fields.map Prod.fst).Nodup) :
    record? names (.obj fields) = some fun n => fields.lookup n :=
  record?_obj_eq_some_iff.2 ⟨fun n _ => length_named_le h n, rfl⟩

/-- The fields that have a value. -/
def given (fields : List (String × Option Json)) : List (String × Json) :=
  fields.filterMap fun f => f.2.map (f.1, ·)

theorem ofFields_eq (fields : List (String × Option Json)) :
    ofFields fields = .obj (given fields) := rfl

theorem mem_given_iff {fields : List (String × Option Json)} {n : String} {v : Json} :
    (n, v) ∈ given fields ↔ (n, some v) ∈ fields := by
  rw [given, List.mem_filterMap]
  constructor
  · rintro ⟨⟨m, w⟩, hm, he⟩
    obtain ⟨v', rfl, he⟩ := Option.map_eq_some_iff.1 he
    cases he
    exact hm
  · exact fun hm => ⟨_, hm, rfl⟩

theorem given_sublist (fields : List (String × Option Json)) :
    ((given fields).map Prod.fst).Sublist (fields.map Prod.fst) := by
  induction fields with
  | nil => exact .slnil
  | cons f rest ih =>
    obtain ⟨n, v⟩ := f
    cases v with
    | none => exact ih.cons n
    | some v => exact ih.cons_cons n

theorem nodup_given {fields : List (String × Option Json)} (h : (fields.map Prod.fst).Nodup) :
    ((given fields).map Prod.fst).Nodup := (given_sublist fields).nodup h

theorem lookup_given {fields : List (String × Option Json)} (h : (fields.map Prod.fst).Nodup)
    (n : String) : (given fields).lookup n = (fields.lookup n).join := by
  induction fields with
  | nil => rfl
  | cons f rest ih =>
    obtain ⟨m, v⟩ := f
    rw [List.map_cons, List.nodup_cons] at h
    by_cases hn : n = m
    · subst hn
      cases v with
      | some v => simp [given]
      | none =>
        have hnone : n ∉ (given rest).map Prod.fst := fun hm => h.1 ((given_sublist rest).mem hm)
        rw [List.lookup_cons, beq_self_eq_true]
        exact lookup_eq_none_iff.2 hnone
    · have hne : (n == m) = false := by simp [hn]
      rw [List.lookup_cons, hne, ← ih h.2]
      cases v with
      | none => rfl
      | some v => simp [given, List.lookup_cons, hne]

theorem record?_ofFields {names : List String} {fields : List (String × Option Json)}
    (h : (fields.map Prod.fst).Nodup) :
    record? names (ofFields fields) = some fun n => (fields.lookup n).join := by
  rw [ofFields_eq, record?_of_nodup (nodup_given h)]
  exact congrArg some (funext (lookup_given h))

/-! ### Fields that are described one by one -/

/-- The value that is given under the name of a description is the one that it describes. -/
theorem rel_of_mem_given {α : Type} {R : α → String × Option Json → Prop} {name : α → String}
    {fields : List (String × Option Json)} {as : List α} (hn : (fields.map Prod.fst).Nodup)
    (hname : ∀ a f, R a f → name a = f.1) (h : List.Forall₂ R as fields) {a : α} (ha : a ∈ as)
    {v : Json} (hv : (name a, v) ∈ given fields) : R a (name a, some v) := by
  obtain ⟨f, hf, hr⟩ := exists_rel_of_mem h ha
  have heq : (name a, some v) = f :=
    List.inj_on_of_nodup_map hn (mem_given_iff.1 hv) hf (hname a f hr)
  exact heq ▸ hr

end Proctor.Json
