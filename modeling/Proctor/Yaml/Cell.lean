/-!
# Characters with their places

The layout of a YAML text carries meaning, so the text is read as a list of characters each of which
knows its line and its column. The ways to break a line are made one: every break is a line feed,
but for the separators of lines and paragraphs, which stay what they are.
-/

namespace Proctor.Yaml

/-- A character with its place. -/
structure Cell where
  /-- The character. -/
  char : Char
  /-- Its line, from 0. -/
  line : Nat
  /-- Its column, from 0. -/
  column : Nat
  deriving DecidableEq, Repr

/-! ### Kinds of characters -/

/-- A character that a text may hold. -/
def isAllowed (c : Char) : Bool :=
  let n := c.toNat
  n == 0x09 || n == 0x0A || n == 0x0D || (0x20 ≤ n && n ≤ 0x7E) || n == 0x85 ||
    (0xA0 ≤ n && n ≤ 0xFFFD) || 0x10000 ≤ n

/-- A space or a tab. -/
def isSpace (c : Char) : Bool := c == ' ' || c == '\t'

/-- A separator of lines or paragraphs, which stays what it is. -/
def isSeparator (c : Char) : Bool := c == '\u2028' || c == '\u2029'

/-- A character that breaks a line. -/
def isBreak (c : Char) : Bool := c == '\n' || c == '\r' || c == '\x85' || isSeparator c

/-- A space, a tab, or a break. -/
def isGap (c : Char) : Bool := isSpace c || isBreak c

/-- A character of a name. -/
def isWord (c : Char) : Bool := c.isAlphanum || c == '_' || c == '-'

/-! ### Places -/

/-- The characters with their places, where the first one stands on this line in this column. -/
def cellsFrom (line column : Nat) : List Char → List Cell
  | [] => []
  | '\r' :: '\n' :: rest => ⟨'\n', line, column⟩ :: cellsFrom (line + 1) 0 rest
  | c :: rest =>
    if isBreak c then
      ⟨if isSeparator c then c else '\n', line, column⟩ :: cellsFrom (line + 1) 0 rest
    else ⟨c, line, column⟩ :: cellsFrom line (column + 1) rest

/-- The mark with which a text may begin. -/
def beginningMark : Char := '\uFEFF'

/-- The characters of a text with their places, if all are allowed. A mark at the beginning is no
part of the text. -/
def cells? (text : String) : Option (List Cell) :=
  let cs := match text.toList with
    | c :: rest => if c = beginningMark then rest else c :: rest
    | [] => []
  if cs.all isAllowed then some (cellsFrom 0 0 cs) else none

/-! ### Looking ahead -/

/-- The characters as long as they are of a kind, and what follows them. -/
def spanCells (kind : Char → Bool) (cells : List Cell) : List Char × List Cell :=
  ((cells.takeWhile (kind ·.char)).map Cell.char, cells.dropWhile (kind ·.char))

/-- The next character is of a kind. -/
def nextIs (kind : Char → Bool) (cells : List Cell) : Bool := cells.head?.any (kind ·.char)

/-- Nothing but a gap or the end follows. -/
def gapFollows (cells : List Cell) : Bool := cells.head?.all (isGap ·.char)

/-- A line ends here. -/
def lineEnds (cells : List Cell) : Bool := cells.head?.all (isBreak ·.char)

/-- A mark between documents stands here: three times the same character in front of a line. -/
def isMarker (mark : Char) : List Cell → Bool
  | a :: b :: c :: rest =>
    a.column == 0 && a.char == mark && b.char == mark && c.char == mark && gapFollows rest
  | _ => false

/-- A mark at which a document begins or ends stands here. -/
def isDocumentMark (cells : List Cell) : Bool := isMarker '-' cells || isMarker '.' cells

/-- What follows the spaces and a comment in the rest of a line. -/
def skipComment (cells : List Cell) : List Cell :=
  let cells := (spanCells isSpace cells).2
  if nextIs (· == '#') cells then (spanCells (!isBreak ·) cells).2 else cells

/-- What follows the rest of a line in which nothing but a comment may stand. -/
def skipLine? (cells : List Cell) : Option (List Cell) :=
  match skipComment cells with
  | [] => some []
  | c :: rest => if isBreak c.char then some rest else none

end Proctor.Yaml
