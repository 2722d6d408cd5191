import Proctor.Text.Split

/-!
# The parts of a text

A text is cut at every occurrence of a separator, and at nothing else. So its parts are told by two
things: none of them holds the separator, and with the separator between them they are the text
(`Text.split_eq_iff`). There is one part more than there are separators (`Text.length_split`); the
empty text has one part, too.
-/

namespace Proctor.Text

variable {sep : Char}

/-! ### Characters -/

/-- A character that is no separator goes to the first part. -/
theorem splitChars_cons_of_ne {c : Char} (h : c ≠ sep) (cs : List Char) :
    ∃ part parts, splitChars sep cs = part :: parts ∧
      splitChars sep (c :: cs) = (c :: part) :: parts := by
  rw [splitChars, if_neg h]
  cases hparts : splitChars sep cs with
  | nil => exact absurd hparts (splitChars_ne_nil sep cs)
  | cons part parts => exact ⟨part, parts, rfl, rfl⟩

/-- The characters are cut as the library cuts lists. -/
theorem splitChars_eq_splitOn (sep : Char) (cs : List Char) :
    splitChars sep cs = cs.splitOn sep := by
  induction cs with
  | nil => rfl
  | cons c cs ih =>
    rw [List.splitOn_cons_eq_if_modifyHead, ← ih]
    by_cases h : c = sep
    · rw [splitChars, if_pos h, if_pos (by simpa using h)]
    · obtain ⟨part, parts, hcs, hcons⟩ := splitChars_cons_of_ne h cs
      rw [hcs, hcons, if_neg (by simpa using h)]
      rfl

theorem not_mem_of_mem_splitChars {cs part : List Char} (h : part ∈ splitChars sep cs) :
    sep ∉ part := by
  induction cs generalizing part with
  | nil =>
    obtain rfl := List.mem_singleton.1 h
    exact List.not_mem_nil
  | cons c cs ih =>
    by_cases hc : c = sep
    · rw [splitChars, if_pos hc] at h
      rcases List.mem_cons.1 h with rfl | h
      · exact List.not_mem_nil
      · exact ih h
    · obtain ⟨first, parts, hcs, hcons⟩ := splitChars_cons_of_ne hc cs
      rw [hcons] at h
      rw [hcs] at ih
      rcases List.mem_cons.1 h with rfl | h
      · rw [List.mem_cons, not_or]
        exact ⟨Ne.symm hc, ih List.mem_cons_self⟩
      · exact ih (List.mem_cons_of_mem _ h)

theorem splitChars_intercalate {parts : List (List Char)} (hne : parts ≠ [])
    (h : ∀ part ∈ parts, sep ∉ part) : splitChars sep ([sep].intercalate parts) = parts := by
  rw [splitChars_eq_splitOn]
  exact List.splitOn_intercalate sep h hne

/-- Between two parts there is one separator. -/
theorem length_splitChars (sep : Char) (cs : List Char) :
    (splitChars sep cs).length = cs.count sep + 1 := by
  induction cs with
  | nil => rfl
  | cons c cs ih =>
    by_cases h : c = sep
    · rw [splitChars, if_pos h, List.length_cons, ih, h, List.count_cons_self]
    · obtain ⟨part, parts, hcs, hcons⟩ := splitChars_cons_of_ne h cs
      rw [List.count_cons_of_ne h, ← ih, hcs, hcons, List.length_cons, List.length_cons]

/-! ### Texts -/

/-- Texts are the parts of a text just if there are some, none of them holds the separator, and with
the separator between them they are the text. -/
theorem split_eq_iff {s : String} {parts : List String} :
    split sep s = parts ↔
      parts ≠ [] ∧ (∀ part ∈ parts, sep ∉ part.toList) ∧
        (String.singleton sep).intercalate parts = s := by
  constructor
  · rintro rfl
    refine ⟨by simpa [split] using splitChars_ne_nil sep s.toList, fun part hpart => ?_, ?_⟩
    · obtain ⟨cs, hcs, rfl⟩ := List.mem_map.1 hpart
      rw [String.toList_ofList]
      exact not_mem_of_mem_splitChars hcs
    · rw [← String.toList_inj, String.toList_intercalate, split, List.map_map]
      simpa [Function.comp_def] using intercalate_splitChars sep s.toList
  · rintro ⟨hne, hparts, rfl⟩
    have hchars : ∀ cs ∈ parts.map String.toList, sep ∉ cs := by
      intro cs hcs
      obtain ⟨part, hpart, rfl⟩ := List.mem_map.1 hcs
      exact hparts part hpart
    rw [split, String.toList_intercalate, String.toList_singleton,
      splitChars_intercalate (by simpa using hne) hchars, List.map_map]
    simp [Function.comp_def]

/-- The parts of texts without the separator that were joined by it are these texts. -/
theorem split_intercalate {parts : List String} (hne : parts ≠ [])
    (h : ∀ part ∈ parts, sep ∉ part.toList) :
    split sep ((String.singleton sep).intercalate parts) = parts :=
  split_eq_iff.2 ⟨hne, h, rfl⟩

/-- A text of two parts. -/
theorem split_eq_pair_iff {s a b : String} :
    split sep s = [a, b] ↔
      s = a ++ String.singleton sep ++ b ∧ sep ∉ a.toList ∧ sep ∉ b.toList := by
  rw [split_eq_iff, String.intercalate_cons_cons, String.intercalate_singleton]
  constructor
  · rintro ⟨-, hparts, rfl⟩
    exact ⟨rfl, hparts a List.mem_cons_self, hparts b (List.mem_cons_of_mem _ List.mem_cons_self)⟩
  · rintro ⟨rfl, ha, hb⟩
    refine ⟨List.cons_ne_nil _ _, fun part hpart => ?_, rfl⟩
    rcases List.mem_cons.1 hpart with rfl | hpart
    · exact ha
    · rwa [List.mem_singleton.1 hpart]

theorem length_split (sep : Char) (s : String) :
    (split sep s).length = s.toList.count sep + 1 := by
  rw [split, List.length_map, length_splitChars]

end Proctor.Text
