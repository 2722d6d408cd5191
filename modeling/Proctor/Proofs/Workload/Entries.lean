import Proctor.Proofs.Text.Parts
import Proctor.Proofs.Text.Trimming
import Proctor.Workload.EnvEntry

/-!
# What an entry of the environment asks for

An entry asks for a variable just if it has one equals sign and something beside blanks on both
sides of it, and then the name and the value are what the blanks around them enclose. As an equals
sign is no blank, blanks can be put around a name and a value without changing what is asked for.
-/

namespace Proctor

variable {entry key value : String}

theorem envVariable?_eq_some_iff :
    envVariable? entry = some (key, value) ↔
      ∃ left right, Text.split '=' entry = [left, right] ∧ Text.trim left = key ∧
        Text.trim right = value ∧ key ≠ "" ∧ value ≠ "" := by
  rw [envVariable?]
  constructor
  · intro h
    split at h
    · next k v hparts =>
      obtain ⟨left, rest, hsplit, rfl, hrest⟩ := List.map_eq_cons_iff.1 hparts
      obtain ⟨right, others, rfl, rfl, hothers⟩ := List.map_eq_cons_iff.1 hrest
      obtain rfl := List.map_eq_nil_iff.1 hothers
      split at h
      · next hne =>
        cases h
        exact ⟨left, right, hsplit, rfl, rfl, hne⟩
      · cases h
    · cases h
  · rintro ⟨left, right, hsplit, rfl, rfl, hne⟩
    rw [hsplit]
    exact if_pos hne

/-- An entry that does not have just one equals sign asks for nothing. -/
theorem envVariable?_eq_none_of_count (h : entry.toList.count '=' ≠ 1) :
    envVariable? entry = none := by
  cases hentry : envVariable? entry with
  | none => rfl
  | some e =>
    obtain ⟨left, right, hsplit, -⟩ := envVariable?_eq_some_iff.1 hentry
    have hlength := Text.length_split '=' entry
    rw [hsplit] at hlength
    exact absurd (Nat.succ.inj hlength).symm h

/-- Blanks hold no equals sign. -/
theorem not_mem_of_isBlankText {s : String} (h : Text.isBlankText s = true) : '=' ∉ s.toList :=
  fun hmem => absurd (Text.isBlankText_iff.1 h '=' hmem) (by decide)

/-- A text with blanks around it has an equals sign only if the text itself has one. -/
theorem not_mem_of_trims {s t : String} (h : Text.Trims s t) (ht : '=' ∉ t.toList) :
    '=' ∉ s.toList := by
  obtain ⟨front, back, rfl, hf, hb, -⟩ := h
  simp only [String.toList_append, List.mem_append, not_or]
  exact ⟨⟨not_mem_of_isBlankText hf, ht⟩, not_mem_of_isBlankText hb⟩

/-- An entry asks for a variable just if it is made of two sides without an equals sign, with one
between them, and both the name and the value are left when the blanks around the sides are cut. So
a name and a value that are neither empty nor begin or end with a blank, and have no equals sign,
are what an entry with them asks for, whatever blanks are put around them; and an entry that has no
equals sign, or several, asks for nothing. -/
theorem entry_asks_iff (entry key value : String) :
    (envVariable? entry = some (key, value) ↔
      ∃ left right, entry = left ++ "=" ++ right ∧ '=' ∉ left.toList ∧ '=' ∉ right.toList ∧
        Text.Trims left key ∧ Text.Trims right value ∧ key ≠ "" ∧ value ≠ "") ∧
    (∀ front back front' back' : String,
      (∀ blanks ∈ [front, back, front', back'], Text.isBlankText blanks = true) →
      (∀ side ∈ [key, value], side ≠ "" ∧ '=' ∉ side.toList ∧ Text.Solid side.toList) →
      envVariable? (front ++ key ++ back ++ "=" ++ (front' ++ value ++ back')) =
        some (key, value)) ∧
    (entry.toList.count '=' ≠ 1 → envVariable? entry = none) := by
  refine ⟨?_, fun front back front' back' hblanks hsides => ?_, envVariable?_eq_none_of_count⟩
  · rw [envVariable?_eq_some_iff]
    simp only [Text.split_eq_pair_iff, Text.trim_eq_iff, and_assoc]
    rfl
  · simp only [List.forall_mem_cons, List.not_mem_nil, false_imp_iff, implies_true, and_true]
      at hblanks hsides
    obtain ⟨hf, hb, hf', hb'⟩ := hblanks
    obtain ⟨⟨hkey, hk, hksolid⟩, hvalue, hv, hvsolid⟩ := hsides
    have hleft : Text.Trims (front ++ key ++ back) key := ⟨front, back, rfl, hf, hb, hksolid⟩
    have hright : Text.Trims (front' ++ value ++ back') value :=
      ⟨front', back', rfl, hf', hb', hvsolid⟩
    have hsplit : Text.split '=' (front ++ key ++ back ++ "=" ++ (front' ++ value ++ back')) =
        [front ++ key ++ back, front' ++ value ++ back'] :=
      Text.split_eq_pair_iff.2 ⟨rfl, not_mem_of_trims hleft hk, not_mem_of_trims hright hv⟩
    exact envVariable?_eq_some_iff.2 ⟨_, _, hsplit, Text.trim_eq_iff.2 hleft,
      Text.trim_eq_iff.2 hright, hkey, hvalue⟩

/-- The blanks around a name and a value may be any that there are; the blank inside the value
stays. -/
theorem padded_entry_asks :
    (∀ blanks ∈ ["\u3000\n", "", "\t", "\u00a0 "], Text.isBlankText blanks = true) ∧
    (∀ side ∈ ["GREETING", "hello \u2003 you"],
      side ≠ "" ∧ '=' ∉ side.toList ∧ Text.Solid side.toList) ∧
    envVariable? "\u3000\nGREETING=\thello \u2003 you\u00a0 " =
      some ("GREETING", "hello \u2003 you") ∧
    "A=b=c".toList.count '=' ≠ 1 ∧ envVariable? "A=b=c" = none := by
  obtain ⟨-, hpadded, -⟩ :=
    entry_asks_iff "\u3000\nGREETING=\thello \u2003 you\u00a0 " "GREETING" "hello \u2003 you"
  have hblanks : ∀ blanks ∈ ["\u3000\n", "", "\t", "\u00a0 "], Text.isBlankText blanks = true := by
    decide
  have hsides : ∀ side ∈ ["GREETING", "hello \u2003 you"],
      side ≠ "" ∧ '=' ∉ side.toList ∧ Text.Solid side.toList := by
    simp [Text.Solid, Text.isBlank]
  have hcount : "A=b=c".toList.count '=' ≠ 1 := by decide
  exact ⟨hblanks, hsides, hpadded _ _ _ _ hblanks hsides, hcount,
    (entry_asks_iff "A=b=c" "A" "b=c").2.2 hcount⟩

end Proctor
