import Proctor.Yaml.Cell

/-!
# Gaps inside a text

A text may go on over several lines. What stands between two of its parts is folded: spaces inside a
line stay, a single break becomes a space, and of several breaks the first one is dropped.
-/

namespace Proctor.Yaml

/-- What stands between two parts of a text. -/
structure Gap where
  /-- The spaces in front of the first break. -/
  spaces : List Char := []
  /-- A break was seen. -/
  broken : Bool := false
  /-- The first break, unless it was escaped. -/
  first : Option Char := none
  /-- The further breaks. -/
  further : List Char := []
  deriving DecidableEq, Repr

namespace Gap

/-- A space, a tab or a break is added. Spaces behind a break do not count. -/
def push (g : Gap) (c : Char) : Gap :=
  if isSpace c then
    if g.broken then g else { g with spaces := g.spaces ++ [c] }
  else if g.broken then { g with further := g.further ++ [c] }
  else { spaces := [], broken := true, first := some c, further := [] }

/-- A gap that begins with an escaped break. -/
def escaped : Gap := { broken := true }

/-- What a gap stands for. -/
def chars (g : Gap) : List Char :=
  if g.broken then
    match g.first with
    | none => g.further
    | some '\n' => if g.further = [] then [' '] else g.further
    | some c => c :: g.further
  else g.spaces

@[simp] theorem chars_empty : chars {} = [] := rfl

@[simp] theorem chars_escaped : escaped.chars = [] := rfl

/-- A single break becomes a space, whatever spaces stand around it. -/
theorem chars_push_break (cs : List Char) :
    (push { spaces := cs } '\n').chars = [' '] := by
  simp [push, isSpace, chars]

end Gap

end Proctor.Yaml
