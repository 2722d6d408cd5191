/-!
# Cutting text at a separator

`split sep` cuts at every occurrence of `sep`; putting the separator back between the parts gives
the text again, and no part holds the separator.
-/

namespace Proctor.Text

/-- The parts between the occurrences of a separator, always at least one. -/
def splitChars (sep : Char) : List Char → List (List Char)
  | [] => [[]]
  | c :: rest =>
    if c = sep then [] :: splitChars sep rest
    else match splitChars sep rest with
      | [] => [[c]]
      | part :: parts => (c :: part) :: parts

/-- The parts of a text between the occurrences of a separator. -/
def split (sep : Char) (s : String) : List String :=
  (splitChars sep s.toList).map String.ofList

/-- The text before the first occurrence of a separator and the text after it. -/
def cut? (sep : Char) (s : String) : Option (String × String) :=
  if sep ∈ s.toList then
    some (String.ofList (s.toList.takeWhile (· ≠ sep)),
      String.ofList ((s.toList.dropWhile (· ≠ sep)).drop 1))
  else none

theorem splitChars_ne_nil (sep : Char) (cs : List Char) : splitChars sep cs ≠ [] := by
  cases cs with
  | nil => simp [splitChars]
  | cons c rest => unfold splitChars; split <;> (try split) <;> simp

/-- Putting the separator back between the parts gives the text again. -/
theorem intercalate_splitChars (sep : Char) (cs : List Char) :
    [sep].intercalate (splitChars sep cs) = cs := by
  induction cs with
  | nil => rfl
  | cons c rest ih =>
    unfold splitChars
    split
    · next h =>
      subst h
      cases hs : splitChars c rest with
      | nil => exact absurd hs (splitChars_ne_nil c rest)
      | cons part parts =>
        rw [hs] at ih
        rw [← ih]
        simp [List.intercalate]
    · cases hs : splitChars sep rest with
      | nil => exact absurd hs (splitChars_ne_nil sep rest)
      | cons part parts =>
        cases parts <;> simp_all [List.intercalate]

end Proctor.Text
