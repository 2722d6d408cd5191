import Proctor.Yaml.Block
import Proctor.Yaml.Plain
import Proctor.Yaml.Quoted
import Proctor.Yaml.Tag

/-!
# The tokens of a YAML text

Besides what is written, the tokens tell where blocks begin and end, which is read off the columns.
That a text is the name of a field is known only at the colon behind it; the places of texts that
could be names are kept, and the tokens for the name are put in front of them then. Such a name
stands on one line and is not longer than 1024 characters.
-/

namespace Proctor.Yaml

/-- A token of a YAML text. -/
inductive Token where
  /-- The end of the text. -/
  | streamEnd
  /-- What is said in front of a document. -/
  | directive (d : Directive)
  /-- The mark at which a document begins. -/
  | documentStart
  /-- The mark at which a document ends. -/
  | documentEnd
  /-- A list begins whose items stand in one column. -/
  | blockSequenceStart
  /-- An object begins whose fields stand in one column. -/
  | blockMappingStart
  /-- The list or object in one column ends. -/
  | blockEnd
  /-- The mark `[`. -/
  | flowSequenceStart
  /-- The mark `]`. -/
  | flowSequenceEnd
  /-- The mark `\x7b`. -/
  | flowMappingStart
  /-- The mark `\x7d`. -/
  | flowMappingEnd
  /-- The dash of an item. -/
  | blockEntry
  /-- The mark `,`. -/
  | flowEntry
  /-- The name of a field follows. -/
  | key
  /-- The value of a field follows. -/
  | value
  /-- The value of that name once more. -/
  | alias (name : String)
  /-- A name for the value that follows. -/
  | anchor (name : String)
  /-- The tag of the value that follows. -/
  | tag (handle : String) (suffix : Tag)
  /-- A text, with quotes or in a block or without either. -/
  | scalar (text : String) (isPlain : Bool)
  deriving DecidableEq, Repr

/-- The place of a text that could be the name of a field. -/
structure Candidate where
  /-- How many tokens stand in front of it. -/
  number : Nat
  /-- Its line. -/
  line : Nat
  /-- Its column. -/
  column : Nat
  /-- Nothing but the name of a field can stand there. -/
  required : Bool
  deriving DecidableEq, Repr

/-- How far a text has been read. -/
structure Lexing where
  /-- What is still to be read. -/
  cells : List Cell
  /-- The columns of the lists and objects that are open, the innermost first. -/
  columns : List Nat := []
  /-- What could be a name, outside of brackets and inside of each pair that is open, the innermost
  first. -/
  candidates : List (Option Candidate) := [none]
  /-- A name may begin here. -/
  mayBeName : Bool := true
  /-- The tokens, last first. -/
  tokens : List Token := []
  /-- How many tokens there are. -/
  count : Nat := 0
  /-- The end of the text was read. -/
  finished : Bool := false

namespace Lexing

/-- Brackets are open. -/
def inFlow (l : Lexing) : Bool := 1 < l.candidates.length

/-- A token is found. -/
def push (l : Lexing) (t : Token) : Lexing :=
  { l with tokens := t :: l.tokens, count := l.count + 1 }

/-- A token is put in front of those from a number on. -/
def insert (l : Lexing) (number : Nat) (t : Token) : Lexing :=
  let behind := l.count - number
  { l with tokens := l.tokens.take behind ++ t :: l.tokens.drop behind, count := l.count + 1 }

/-! ### Columns -/

/-- Lists and objects that stand further to the right than a column are ended; all of them if there
is none. Inside brackets, columns do not count. -/
def unroll (l : Lexing) (column : Option Nat) : Lexing :=
  if l.inFlow then l
  else
    let isLeft (c : Nat) : Bool := column.any (c ≤ ·)
    let ended := l.columns.takeWhile (!isLeft ·)
    ended.foldl (fun l _ => l.push .blockEnd) { l with columns := l.columns.dropWhile (!isLeft ·) }

/-- A list or object begins in a column, unless it is the one that stands there already. -/
def roll (l : Lexing) (column number : Nat) (t : Token) : Lexing :=
  if l.inFlow || l.columns.head?.any (column ≤ ·) then l
  else ({ l with columns := column :: l.columns } : Lexing).insert number t

/-! ### Names -/

/-- What could be a name is none. -/
def drop? (l : Lexing) : Option Lexing :=
  match l.candidates with
  | some k :: rest => if k.required then none else some { l with candidates := none :: rest }
  | _ => some l

/-- Here stands what could be a name. -/
def keep? (l : Lexing) (c : Cell) : Option Lexing :=
  if l.mayBeName then do
    let l ← l.drop?
    let required := !l.inFlow && l.columns.head? == some c.column
    some { l with
      candidates := some ⟨l.count, c.line, c.column, required⟩ :: l.candidates.drop 1 }
  else some l

/-- What could be a name is none if it is too far away, or on another line. -/
def expired (c : Cell) (k : Candidate) : Bool := k.line < c.line || k.column + 1024 < c.column

/-- Names that were not followed by a colon in time are none. -/
def expire? (l : Lexing) (c : Cell) : Option Lexing :=
  if l.candidates.any fun k => k.any fun k => expired c k && k.required then none
  else some { l with candidates := l.candidates.map fun k => k.filter (!expired c ·) }

/-! ### Between tokens -/

/-- Spaces, comments and breaks in front of the next token. A tab may not stand where a name may
begin, and a mark of the beginning may stand in front of any line. -/
def skip (inFlow mayBeName inComment : Bool) : List Cell → Bool × List Cell
  | [] => (mayBeName, [])
  | c :: rest =>
    if isBreak c.char then skip inFlow (mayBeName || !inFlow) false rest
    else if inComment then skip inFlow mayBeName true rest
    else if c.char = ' ' || (c.char = '\t' && (inFlow || !mayBeName)) ||
        (c.char = beginningMark && c.column == 0) then skip inFlow mayBeName false rest
    else if c.char = '#' then skip inFlow mayBeName true rest
    else (mayBeName, c :: rest)

/-! ### Tokens -/

/-- Brackets are opened, which could be a name as a whole. -/
def openFlow? (l : Lexing) (c : Cell) (t : Token) : Option Lexing := do
  let l ← l.keep? c
  some (({ l with candidates := none :: l.candidates, mayBeName := true } : Lexing).push t)

/-- Brackets are closed. -/
def closeFlow? (l : Lexing) (t : Token) : Option Lexing := do
  let l ← l.drop?
  let candidates := if l.inFlow then l.candidates.drop 1 else l.candidates
  some (({ l with candidates, mayBeName := false } : Lexing).push t)

/-- The mark of an item, of a name or of a value that belongs to no name on its line. -/
def entry? (l : Lexing) (c : Cell) (opening t : Token) : Option Lexing :=
  if !l.inFlow && !l.mayBeName then none
  else do
    let l ← (l.roll c.column l.count opening).drop?
    some (l.push t)

/-- The colon behind a name. -/
def value? (l : Lexing) (c : Cell) : Option Lexing :=
  match l.candidates with
  | some k :: rest =>
    let l := (l.insert k.number .key).roll k.column k.number .blockMappingStart
    some (({ l with candidates := none :: rest, mayBeName := false } : Lexing).push .value)
  | _ =>
    (l.entry? c .blockMappingStart .value).map ({ · with mayBeName := !l.inFlow })

/-- A mark between documents, which stands outside of all blocks. -/
def documentMark? (l : Lexing) (t : Token) : Option Lexing := do
  let l ← (l.unroll none).drop?
  some (({ l with mayBeName := false, cells := l.cells.drop 3 } : Lexing).push t)

/-- The name of a value, or one that was given before. -/
def anchor? (l : Lexing) (c : Cell) (t : String → Token) : Option Lexing := do
  let l ← l.keep? c
  let (name, rest) := spanCells isWord (l.cells.drop 1)
  let ends := gapFollows rest || nextIs (· ∈ ['?', ':', ',', ']', '\x7d', '%', '@', '\x60']) rest
  if name ≠ [] ∧ ends then
    some (({ l with mayBeName := false, cells := rest } : Lexing).push (t (String.ofList name)))
  else none

/-- A text in quotes. -/
def quoted? (l : Lexing) (c : Cell) (single : Bool) : Option Lexing := do
  let l ← l.keep? c
  let (text, rest) ← Quoted.read? single (l.cells.drop 1)
  some (({ l with mayBeName := false, cells := rest } : Lexing).push (.scalar text false))

/-- A text without quotes. -/
def plain? (l : Lexing) (c : Cell) : Option Lexing := do
  let l ← l.keep? c
  let r ← Plain.read? l.inFlow (l.columns.head?.elim 0 (· + 1)) l.cells
  some (({ l with mayBeName := r.broken, cells := r.rest } : Lexing).push (.scalar r.text true))

/-- A text in a block. -/
def block? (l : Lexing) (folded : Bool) : Option Lexing := do
  let l ← l.drop?
  let (text, rest) ← Block.read? folded l.columns.head? (l.cells.drop 1)
  some (({ l with mayBeName := true, cells := rest } : Lexing).push (.scalar text false))

/-- A directive, which stands outside of all blocks. -/
def directive? (l : Lexing) : Option Lexing := do
  let l ← (l.unroll none).drop?
  let (d, rest) ← Directive.read? (l.cells.drop 1)
  some (({ l with mayBeName := false, cells := rest } : Lexing).push (.directive d))

/-- A tag. -/
def tag? (l : Lexing) (c : Cell) : Option Lexing := do
  let l ← l.keep? c
  let ((handle, suffix), rest) ← Tag.read? l.inFlow l.cells
  some (({ l with mayBeName := false, cells := rest } : Lexing).push (.tag handle suffix))

/-- The end of the text, at which all blocks end. -/
def finish? (l : Lexing) : Option Lexing := do
  let l ← (l.unroll none).drop?
  some (({ l with mayBeName := false, finished := true } : Lexing).push .streamEnd)

/-- The token that begins with a character. -/
def token? (l : Lexing) (c : Cell) (rest : List Cell) : Option Lexing :=
  let behind := { l with cells := rest }
  if c.column = 0 ∧ c.char = '%' then l.directive?
  else if isMarker '-' l.cells then l.documentMark? .documentStart
  else if isMarker '.' l.cells then l.documentMark? .documentEnd
  else if c.char = '[' then behind.openFlow? c .flowSequenceStart
  else if c.char = '\x7b' then behind.openFlow? c .flowMappingStart
  else if c.char = ']' then behind.closeFlow? .flowSequenceEnd
  else if c.char = '\x7d' then behind.closeFlow? .flowMappingEnd
  else if c.char = ',' then
    behind.drop?.map fun l => ({ l with mayBeName := true } : Lexing).push .flowEntry
  else if c.char = '-' ∧ gapFollows rest then
    (behind.entry? c .blockSequenceStart .blockEntry).map ({ · with mayBeName := true })
  else if c.char = '?' ∧ (l.inFlow ∨ gapFollows rest) then
    (behind.entry? c .blockMappingStart .key).map ({ · with mayBeName := !l.inFlow })
  else if c.char = ':' ∧ (l.inFlow ∨ gapFollows rest) then behind.value? c
  else if c.char = '*' then l.anchor? c .alias
  else if c.char = '&' then l.anchor? c .anchor
  else if c.char = '!' then l.tag? c
  else if c.char = '|' ∧ !l.inFlow then l.block? false
  else if c.char = '>' ∧ !l.inFlow then l.block? true
  else if c.char = '\'' then l.quoted? c true
  else if c.char = '"' then l.quoted? c false
  else if Plain.begins l.inFlow l.cells then l.plain? c
  else none

/-- The next token is read. -/
def step? (l : Lexing) : Option Lexing :=
  let (mayBeName, cells) := skip l.inFlow l.mayBeName false l.cells
  let l := { l with mayBeName, cells }
  match cells with
  | [] => l.finish?
  | c :: rest => do
    let l ← l.expire? c
    (l.unroll (some c.column)).token? c rest

/-- All tokens are read, where at most so many are still to come. -/
def run? : Nat → Lexing → Option Lexing
  | 0, _ => none
  | fuel + 1, l =>
    if l.finished then some l
    else do
      let l ← l.step?
      run? fuel l

end Lexing

/-- The tokens of a text. -/
def tokens? (text : String) : Option (List Token) := do
  let cells ← cells? text
  let l ← Lexing.run? (cells.length + 2) { cells }
  some l.tokens.reverse

end Proctor.Yaml
