import Mathlib.Data.List.Nodup
import Proctor.Proofs.Json.Merge
import Proctor.Test.Codec

/-!
# Reports that say nothing

Every part of a report may be left out, and what has another name is passed over. So not only an
empty object is read as a report without counts and without scenarios: any object is that has none
of the names of a report. This module tells which values are read so (`Report.Silent`): what they
have of the names of a report is no count but zero and no scenario (`Report.read?_eq_default_iff`).
-/

namespace Proctor

namespace Json

/-! ### Records of which something holds by each name -/

variable {names : List String} {P : String → Option Json → Prop}

/-- What holds of the fields of an object: each name stands once, or not at all. -/
theorem exists_record?_obj_iff {fields : List (String × Json)} :
    (∃ f, record? names (.obj fields) = some f ∧ ∀ n ∈ names, P n (f n)) ↔
      ∀ n ∈ names, (named n fields = [] ∧ P n none) ∨
        ∃ v, named n fields = [(n, v)] ∧ P n (some v) := by
  constructor
  · rintro ⟨f, hf, hP⟩ n hn
    obtain ⟨honce, rfl⟩ := record?_obj_eq_some_iff.1 hf
    have hPn : P n (fields.lookup n) := hP n hn
    cases hl : fields.lookup n with
    | none =>
      rw [hl] at hPn
      exact Or.inl ⟨named_eq_nil (lookup_eq_none_iff.1 hl), hPn⟩
    | some v =>
      rw [hl] at hPn
      exact Or.inr ⟨v, named_of_lookup (honce n hn) hl, hPn⟩
  · intro h
    refine ⟨_, record?_obj_eq_some_iff.2 ⟨fun n hn => ?_, rfl⟩, fun n hn => ?_⟩
    · rcases h n hn with ⟨hnil, -⟩ | ⟨v, hone, -⟩
      · simp [hnil]
      · simp [hone]
    · rcases h n hn with ⟨hnil, hP⟩ | ⟨v, hone, hP⟩
      · rwa [lookup_eq_named, hnil]
      · rwa [lookup_of_named hone]

/-- What holds of the items of an array, each of which stands for a name. -/
theorem exists_record?_arr_iff {items : List Json} :
    (∃ f, record? names (.arr items) = some f ∧ ∀ n ∈ names, P n (f n)) ↔
      items.length ≤ names.length ∧ ∀ n ∈ names, P n ((names.zip items).lookup n) := by
  by_cases hl : items.length ≤ names.length
  · simp [record?, hl]
  · simp [record?, hl]

/-- The names of a record stand for all items of an array. -/
theorem forall_lookup_zip_iff {items : List Json} (hn : names.Nodup)
    (hl : items.length ≤ names.length) {Q : Json → Prop} :
    (∀ n ∈ names, ∀ v, (names.zip items).lookup n = some v → Q v) ↔ ∀ v ∈ items, Q v := by
  induction names generalizing items with
  | nil =>
    obtain rfl := List.length_eq_zero_iff.1 (Nat.le_zero.1 hl)
    simp
  | cons m rest ih =>
    cases items with
    | nil => simp
    | cons v items =>
      obtain ⟨hm, hrest⟩ := List.nodup_cons.1 hn
      have hskip : ∀ n ∈ rest,
          ((m :: rest).zip (v :: items)).lookup n = (rest.zip items).lookup n := by
        intro n hmem
        have hne : (n == m) = false := beq_eq_false_iff_ne.2 fun h => hm (h ▸ hmem)
        rw [List.zip_cons_cons, List.lookup_cons, hne]
      rw [List.forall_mem_cons, List.forall_mem_cons,
        ← ih hrest (Nat.le_of_succ_le_succ hl)]
      refine and_congr ?_ (forall₂_congr fun n hmem => by rw [hskip n hmem])
      simp

/-! ### Parts that are read as what they are when left out -/

theorem orDefault_eq_default_iff {α : Type} {d : α} {read : Json → Option α} {o : Option Json} :
    orDefault d read o = some d ↔ ∀ v, o = some v → read v = some d := by
  cases o with
  | none => simp
  | some v => simp

theorem word32?_eq_zero_iff {v : Json} : v.word32? = some 0 ↔ v = .int 0 := by
  constructor
  · intro h
    cases v with
    | int n =>
      rw [word32?, Option.ite_none_right_eq_some, Option.some.injEq] at h
      obtain ⟨⟨hlo, hhi⟩, hn⟩ := h
      have hnat : n.toNat % 4294967296 = 0 := congrArg UInt32.toNat hn
      rw [Nat.mod_eq_of_lt (by omega)] at hnat
      exact congrArg Json.int (by omega)
    | null | bool _ | real _ | str _ | torn | arr _ | obj _ => cases h
  · rintro rfl
    rfl

theorem list?_eq_nil_iff {α : Type} {read : Json → Option α} {v : Json} :
    v.list? read = some [] ↔ v = .arr [] := by
  constructor
  · intro h
    cases v with
    | arr items =>
      cases items with
      | nil => rfl
      | cons item rest =>
        rw [list?_arr, List.mapM_cons] at h
        obtain ⟨a, -, h⟩ := Option.bind_eq_some_iff.1 h
        obtain ⟨as, -, h⟩ := Option.bind_eq_some_iff.1 h
        cases h
    | null | bool _ | int _ | real _ | str _ | torn | obj _ => cases h
  · rintro rfl
    rfl

end Json

open Json

/-! ### Counts -/

namespace Summary

/-- The names of the counts. -/
def names : List String :=
  ["total", "passed", "failed", "skipped", "pending", "undefined", "errors"]

/-- A value in which no count is given but zero. -/
inductive Silent : Json → Prop where
  /-- An object, with anything under other names. -/
  | object {fields : List (String × Json)}
      (h : ∀ n ∈ names, named n fields = [] ∨ named n fields = [(n, .int 0)]) :
    Silent (.obj fields)
  /-- An array of as many items as there are counts, or fewer. -/
  | array {items : List Json} (hl : items.length ≤ 7) (h : ∀ v ∈ items, v = .int 0) :
    Silent (.arr items)

/-- A count is zero if it is given. -/
def ZeroCount (_ : String) (o : Option Json) : Prop := ∀ v, o = some v → v = .int 0

theorem read?_eq_default_iff_exists {j : Json} :
    Summary.read? j = some {} ↔
      ∃ f, record? names j = some f ∧ ∀ n ∈ names, ZeroCount n (f n) := by
  simp [Summary.read?, names, Option.bind_eq_some_iff, orDefault_eq_default_iff, ZeroCount,
    word32?_eq_zero_iff]

theorem read?_eq_default_iff {j : Json} : Summary.read? j = some {} ↔ Silent j := by
  rw [read?_eq_default_iff_exists]
  constructor
  · intro h
    cases j with
    | obj fields =>
      refine .object fun n hn => ?_
      rcases (exists_record?_obj_iff (P := ZeroCount)).1 h n hn with ⟨hnil, -⟩ | ⟨v, hone, hv⟩
      · exact Or.inl hnil
      · exact Or.inr (hone.trans (by rw [hv v rfl]))
    | arr items =>
      obtain ⟨hl, h⟩ := (exists_record?_arr_iff (P := ZeroCount)).1 h
      exact .array hl ((forall_lookup_zip_iff (by decide : names.Nodup) hl).1 h)
    | null | bool _ | int _ | real _ | str _ | torn =>
      obtain ⟨f, hf, -⟩ := h
      cases hf
  · intro h
    cases h with
    | object h =>
      refine (exists_record?_obj_iff (P := ZeroCount)).2 fun n hn => ?_
      rcases h n hn with hnil | hone
      · exact Or.inl ⟨hnil, nofun⟩
      · exact Or.inr ⟨_, hone, fun v hv => (Option.some.inj hv).symm⟩
    | array hl h =>
      exact (exists_record?_arr_iff (P := ZeroCount)).2
        ⟨hl, (forall_lookup_zip_iff (by decide : names.Nodup) hl).2 h⟩

end Summary

/-! ### Reports -/

namespace Report

/-- A value in which no count is given but zero, and no scenario. -/
inductive Silent : Json → Prop where
  /-- An object, with anything under other names. -/
  | object {fields : List (String × Json)}
      (hs : named "summary" fields = [] ∨
        ∃ v, named "summary" fields = [("summary", v)] ∧ Summary.Silent v)
      (ht : named "tests" fields = [] ∨ named "tests" fields = [("tests", .arr [])]) :
    Silent (.obj fields)
  /-- An array without items. -/
  | empty : Silent (.arr [])
  /-- An array of the counts. -/
  | counts {v : Json} (hs : Summary.Silent v) : Silent (.arr [v])
  /-- An array of the counts and the scenarios. -/
  | both {v : Json} (hs : Summary.Silent v) : Silent (.arr [v, .arr []])

/-- What is read of a part of a report that says nothing. -/
def SilentPart (n : String) (o : Option Json) : Prop :=
  (n = "summary" → ∀ v, o = some v → Summary.Silent v) ∧
    (n = "tests" → ∀ v, o = some v → v = .arr [])

theorem read?_eq_default_iff_exists {j : Json} :
    Report.read? j = some {} ↔
      ∃ f, record? ["summary", "tests"] j = some f ∧
        ∀ n ∈ ["summary", "tests"], SilentPart n (f n) := by
  simp [Report.read?, Option.bind_eq_some_iff, orDefault_eq_default_iff, SilentPart,
    Summary.read?_eq_default_iff, list?_eq_nil_iff]

/-- The values that are read as a report without counts and scenarios. -/
theorem read?_eq_default_iff {j : Json} : Report.read? j = some {} ↔ Silent j := by
  rw [read?_eq_default_iff_exists]
  constructor
  · intro h
    cases j with
    | obj fields =>
      have hparts := (exists_record?_obj_iff (P := SilentPart)).1 h
      refine .object ?_ ?_
      · rcases hparts "summary" (by simp) with ⟨hnil, -⟩ | ⟨v, hone, hv⟩
        · exact Or.inl hnil
        · exact Or.inr ⟨v, hone, hv.1 rfl v rfl⟩
      · rcases hparts "tests" (by simp) with ⟨hnil, -⟩ | ⟨v, hone, hv⟩
        · exact Or.inl hnil
        · exact Or.inr (hone.trans (by rw [hv.2 rfl v rfl]))
    | arr items =>
      obtain ⟨hl, hparts⟩ := (exists_record?_arr_iff (P := SilentPart)).1 h
      have hs := (hparts "summary" (by simp)).1 rfl
      have ht := (hparts "tests" (by simp)).2 rfl
      match items, hl, hs, ht with
      | [], _, _, _ => exact .empty
      | [v], _, hs, _ => exact .counts (hs v rfl)
      | [v, u], _, hs, ht =>
        obtain rfl := ht u rfl
        exact .both (hs v rfl)
    | null | bool _ | int _ | real _ | str _ | torn =>
      obtain ⟨f, hf, -⟩ := h
      cases hf
  · intro h
    cases h with
    | object hs ht =>
      refine (exists_record?_obj_iff (P := SilentPart)).2 fun n hn => ?_
      rcases List.mem_pair.1 hn with rfl | rfl
      · rcases hs with hnil | ⟨v, hone, hv⟩
        · exact Or.inl ⟨hnil, by simp [SilentPart]⟩
        · exact Or.inr ⟨v, hone, by simpa [SilentPart] using hv⟩
      · rcases ht with hnil | hone
        · exact Or.inl ⟨hnil, by simp [SilentPart]⟩
        · exact Or.inr ⟨_, hone, by simp [SilentPart]⟩
    | empty =>
      exact (exists_record?_arr_iff (P := SilentPart)).2 ⟨by simp, by simp [SilentPart]⟩
    | counts hs =>
      exact (exists_record?_arr_iff (P := SilentPart)).2
        ⟨by simp, by simpa [SilentPart, List.lookup_cons] using hs⟩
    | both hs =>
      exact (exists_record?_arr_iff (P := SilentPart)).2
        ⟨by simp, by simpa [SilentPart, List.lookup_cons] using hs⟩

/-- The texts that are read as a report without counts and scenarios. -/
theorem ofText?_eq_default_iff {text : String} :
    Report.ofText? text = some {} ↔ ∃ j, Json.read? text = some j ∧ Silent j := by
  rw [ofText?, Option.bind_eq_some_iff]
  simp only [read?_eq_default_iff]

end Report

end Proctor
