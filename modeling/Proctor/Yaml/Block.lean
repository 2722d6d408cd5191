import Proctor.Text.Decimal
import Proctor.Yaml.Cell

/-!
# Texts in blocks

A text in a block is set out on the lines below its mark, further to the right than what it belongs
to. Behind `|` its breaks stay; behind `>` they are folded, unless a line begins with a space. What
stands behind the last line is kept, dropped, or cut to one break.
-/

namespace Proctor.Yaml.Block

/-- What is done with the breaks at the end. -/
inductive Chomping where
  /-- One break stays. -/
  | clip
  /-- No break stays. -/
  | strip
  /-- All breaks stay. -/
  | keep
  deriving DecidableEq, Repr

/-- What is said behind the mark of a block. -/
structure Header where
  /-- What is done with the breaks at the end. -/
  chomping : Chomping := .clip
  /-- How far the lines stand to the right, if it is said. -/
  shift : Option Nat := none

/-- The sign that tells what is done with the breaks at the end. -/
def chomping? (c : Char) : Option Chomping :=
  if c = '+' then some .keep else if c = '-' then some .strip else none

/-- What is said behind the mark, in either order, and what follows it. A shift of 0 is none. -/
def header? (cells : List Cell) : Option (Header × List Cell) :=
  let sign := cells.head?.bind (chomping? ·.char)
  let afterSign := if sign.isSome then cells.drop 1 else cells
  match afterSign.head?.bind (Text.digit? ·.char) with
  | none => some ({ chomping := sign.getD .clip }, afterSign)
  | some 0 => none
  | some shift =>
    let rest := afterSign.drop 1
    match sign, rest.head?.bind (chomping? ·.char) with
    | none, some chomping => some ({ chomping, shift := some shift }, rest.drop 1)
    | _, _ => some ({ chomping := sign.getD .clip, shift := some shift }, rest)

/-! ### The lines -/

/-- The column in which the lines of a block begin, where none is said: the greatest column that the
spaces in front of them reach, on blank lines too. A tab may not stand there. -/
def reach? (reached : Nat) : List Cell → Option Nat
  | [] => some reached
  | c :: rest =>
    if c.char = ' ' then reach? (max reached (c.column + 1)) rest
    else if c.char = '\t' then none
    else if isBreak c.char then reach? reached rest
    else some reached

/-- The lines of a block as far as they are read. -/
structure Lines where
  /-- The text, last first. -/
  read : List Char := []
  /-- The break behind the last line. -/
  last : Option Char := none
  /-- The further breaks behind it, last first. -/
  blank : List Char := []
  /-- The last line began with a space. -/
  indented : Bool := false

namespace Lines

/-- A line begins with a character: the breaks in front of it are written, or folded. -/
def begin (folded : Bool) (l : Lines) (c : Char) : Lines :=
  let isFolded := folded && l.last == some '\n' && !l.indented && !isSpace c
  let before :=
    if isFolded then if l.blank = [] then [' '] else []
    else l.last.toList
  { read := c :: (l.blank ++ before ++ l.read), indented := isSpace c }

/-- The text of all lines. -/
def text (chomping : Chomping) (l : Lines) : String :=
  let ending := match chomping with
    | .strip => []
    | .clip => l.last.toList
    | .keep => l.blank ++ l.last.toList
  String.ofList (ending ++ l.read).reverse

end Lines

/-- The lines that follow, each beginning in the same column. -/
def lines? (folded : Bool) (column : Nat) (inLine : Bool) (l : Lines) :
    List Cell → Option (Lines × List Cell)
  | [] => some (l, [])
  | c :: rest =>
    if inLine then
      if isBreak c.char then lines? folded column false { l with last := some c.char } rest
      else lines? folded column true { l with read := c.char :: l.read } rest
    else if isBreak c.char then
      lines? folded column false { l with blank := c.char :: l.blank } rest
    else if c.column < column then
      if c.char = ' ' then lines? folded column false l rest
      else if c.char = '\t' then none
      else some (l, c :: rest)
    else lines? folded column true (l.begin folded c.char) rest

/-- The text of a block whose mark was read, and what follows it. `parent` is the column of what it
belongs to, if that has one. -/
def read? (folded : Bool) (parent : Option Nat) (cells : List Cell) :
    Option (String × List Cell) := do
  let (header, cells) ← header? cells
  let cells ← skipLine? cells
  let least := parent.elim 1 (· + 1)
  let column ← match header.shift with
    | some shift => some (parent.getD 0 + shift)
    | none => (reach? 0 cells).map (max least)
  let (lines, rest) ← lines? folded column false {} cells
  some (lines.text header.chomping, rest)

end Proctor.Yaml.Block
