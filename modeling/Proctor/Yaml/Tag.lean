import Proctor.Text.Decimal
import Proctor.Yaml.Cell

/-!
# Tags and directives

A value may carry a tag that tells its type. A tag is written in full between `!<` and `>`, or as a
handle with a suffix, where a directive in front of the document tells what the handle stands for.
-/

namespace Proctor.Yaml

/-- A tag, character by character; nothing where the bytes given denote no character. -/
abbrev Tag := List (Option Char)

namespace Tag

/-- A tag all of whose characters are known. -/
def ofChars (cs : List Char) : Tag := cs.map some

/-- The text of a tag, if all its characters are known. -/
def text? (t : Tag) : Option String := (t.mapM id).map String.ofList

/-- A tag that belongs to the document itself. -/
def isLocal (t : Tag) : Bool := t.head? == some (some '!')

/-- What a tag of the document itself is called: a lone mark is its own name. -/
def localName? (t : Tag) : Option String :=
  match t with
  | some '!' :: rest => text? (if rest = [] then t else rest)
  | _ => none

/-! ### Bytes -/

/-- How many bytes a character has that begins with this byte. -/
def width? (b : Nat) : Option Nat :=
  if b < 0x80 then some 1
  else if 0xC0 ≤ b ∧ b < 0xE0 then some 2
  else if 0xE0 ≤ b ∧ b < 0xF0 then some 3
  else if 0xF0 ≤ b ∧ b < 0xF8 then some 4
  else none

/-- The byte that a percent sign and two digits denote, and what follows. -/
def byte? : List Cell → Option (Nat × List Cell)
  | p :: high :: low :: rest =>
    if p.char = '%' then do
      let h ← Text.hexDigit? high.char
      let l ← Text.hexDigit? low.char
      some (16 * h + l, rest)
    else none
  | _ => none

/-- The further bytes of a character. -/
def furtherBytes? : Nat → List Cell → Option (List Nat × List Cell)
  | 0, cells => some ([], cells)
  | n + 1, cells => do
    let (b, cells) ← byte? cells
    if 0x80 ≤ b ∧ b < 0xC0 then
      let (bs, cells) ← furtherBytes? n cells
      some (b :: bs, cells)
    else none

/-- The character that a first byte and further ones denote; each number has but one form. -/
def decode? (first : Nat) (further : List Nat) : Option Char :=
  let value (lead : Nat) := further.foldl (fun n b => n * 64 + (b - 0x80)) lead
  let (n, least) := match further.length with
    | 0 => (first, 0)
    | 1 => (value (first - 0xC0), 0x80)
    | 2 => (value (first - 0xE0), 0x800)
    | _ => (value (first - 0xF0), 0x10000)
  if least ≤ n ∧ n.isValidChar then some (Char.ofNat n) else none

/-- A character given by its bytes, and what follows. -/
def numbered? (cells : List Cell) : Option (Option Char × List Cell) := do
  let (first, cells) ← byte? cells
  let width ← width? first
  let (further, cells) ← furtherBytes? (width - 1) cells
  some (decode? first further, cells)

/-! ### Suffixes and handles -/

/-- A character that a suffix may have; in full tags and directives also a comma or bracket. -/
def inSuffix (full : Bool) (c : Char) : Bool :=
  isWord c ||
    c ∈ [';', '/', '?', ':', '@', '&', '=', '+', '$', '.', '%', '!', '~', '*', '\'', '(', ')'] ||
    (full && c ∈ [',', '[', ']'])

/-- The suffix that goes on here, and what follows it; at most `fuel` characters are read. -/
def suffixFrom? (full : Bool) : Nat → List Cell → Option (Tag × List Cell)
  | 0, cells => some ([], cells)
  | _ + 1, [] => some ([], [])
  | fuel + 1, c :: rest =>
    if !inSuffix full c.char then some ([], c :: rest)
    else do
      let (ch, rest) ← if c.char = '%' then numbered? (c :: rest) else some (some c.char, rest)
      let (t, rest) ← suffixFrom? full fuel rest
      some (ch :: t, rest)

/-- The suffix that begins here, and what follows it. It counts up to a character of number 0. -/
def suffix? (full : Bool) (cells : List Cell) : Option (Tag × List Cell) :=
  (suffixFrom? full cells.length cells).map fun s => (s.1.takeWhile (· != some '\x00'), s.2)

/-- A handle, and what follows it: a mark, and a word with another mark if there is one. -/
def handle? : List Cell → Option (List Char × List Cell)
  | c :: rest =>
    if c.char = '!' then
      let (word, behind) := spanCells isWord rest
      if nextIs (· == '!') behind then some ('!' :: word ++ ['!'], behind.drop 1)
      else some ('!' :: word, behind)
    else none
  | [] => none

/-- A handle and a suffix, and what follows them. A tag in full has no handle. -/
def read? (inFlow : Bool) (cells : List Cell) : Option ((String × Tag) × List Cell) := do
  let (tag, rest) ←
    if nextIs (· == '<') (cells.drop 1) then do
      let (suffix, rest) ← suffix? true (cells.drop 2)
      if suffix ≠ [] ∧ nextIs (· == '>') rest then some (("", suffix), rest.drop 1) else none
    else do
      let (handle, rest) ← handle? cells
      let hasWord := 1 < handle.length && handle.getLast? == some '!'
      let (suffix, behind) ← suffix? false rest
      if hasWord then
        if suffix = [] then none else some ((String.ofList handle, suffix), behind)
      else
        let suffix := ofChars (handle.drop 1) ++ suffix
        some (if suffix = [] then ("", ofChars ['!']) else ("!", suffix), behind)
  if gapFollows rest ∨ (inFlow ∧ nextIs (· == ',') rest) then some (tag, rest) else none

end Tag

/-! ### Directives -/

/-- What is said in front of a document. -/
inductive Directive where
  /-- The version of the format. -/
  | version (major minor : Nat)
  /-- What a handle stands for. -/
  | handle (name : String) (meaning : Tag)
  deriving DecidableEq, Repr

namespace Directive

/-- A number of at most nine digits, and what follows it. -/
def number? (cells : List Cell) : Option (Nat × List Cell) :=
  let (digits, rest) := spanCells Char.isDigit cells
  if digits.length ≤ 9 then (Text.decimal? digits).map (·, rest) else none

/-- A directive behind its percent sign, and what follows its line. -/
def read? (cells : List Cell) : Option (Directive × List Cell) := do
  let (name, rest) := spanCells isWord cells
  if !gapFollows rest then none
  else
    let value := (spanCells isSpace rest).2
    let (d, rest) ←
      if name = "YAML".toList then do
        let (major, rest) ← number? value
        if nextIs (· == '.') rest then do
          let (minor, rest) ← number? (rest.drop 1)
          some (Directive.version major minor, rest)
        else none
      else if name = "TAG".toList then do
        let (mark, rest) ← Tag.handle? value
        let isHandle := mark.length == 1 || mark.getLast? == some '!'
        if isHandle && nextIs isSpace rest then do
          let (meaning, rest) ← Tag.suffix? true (spanCells isSpace rest).2
          if meaning ≠ [] ∧ gapFollows rest then
            some (Directive.handle (String.ofList mark) meaning, rest)
          else none
        else none
      else none
    some (d, ← skipLine? rest)

end Directive

end Proctor.Yaml
