import Proctor.Json.Basic
import Proctor.Text.Decimal

/-!
# The tokens of a JSON text

A text is read character by character by a machine whose state is the token in progress. Between
tokens only space, tab, line feed and carriage return may stand. A number ends where a character
follows that no number has, and is judged as a whole then; a string is taken apart while it is
read, so that a control character or an unknown escape is refused where it stands.
-/

namespace Proctor.Json

/-- A token of a JSON text. -/
inductive Token where
  /-- The mark `\x7b`. -/
  | openObject
  /-- The mark `\x7d`. -/
  | closeObject
  /-- The mark `[`. -/
  | openArray
  /-- The mark `]`. -/
  | closeArray
  /-- The mark `:`. -/
  | colon
  /-- The mark `,`. -/
  | comma
  /-- A word, a number or a string. -/
  | scalar (value : Json)
  deriving Repr

/-! ### Numbers and words -/

/-- A character that occurs in numbers. -/
def inNumber (c : Char) : Bool :=
  c.isDigit || c == '-' || c == '+' || c == '.' || c == 'e' || c == 'E'

/-- What follows an optional fraction, which has at least one digit. -/
def afterFraction? : List Char → Option (List Char)
  | '.' :: rest =>
    if rest.takeWhile Char.isDigit = [] then none else some (rest.dropWhile Char.isDigit)
  | rest => some rest

/-- What follows an optional sign. -/
def afterSign : List Char → List Char
  | '+' :: rest => rest
  | '-' :: rest => rest
  | rest => rest

/-- Nothing, or an exponent with at least one digit. -/
def isExponent : List Char → Bool
  | [] => true
  | c :: rest => (c == 'e' || c == 'E') && afterSign rest != [] && (afterSign rest).all Char.isDigit

/-- The value of an unsigned number: no zero stands before another digit. -/
def magnitude? (negative : Bool) (cs literal : List Char) : Option Json :=
  let whole := cs.takeWhile Char.isDigit
  let rest := cs.dropWhile Char.isDigit
  match whole with
  | [] => none
  | '0' :: _ :: _ => none
  | _ => do
    let exponent ← afterFraction? rest
    if !isExponent exponent then none
    else if rest = [] then do
      let n ← Text.decimal? whole
      if negative then
        some (if n = 0 then .real (String.ofList literal) else .int (-(n : Int)))
      else some (.int n)
    else some (.real (String.ofList literal))

/-- The value of a number literal. -/
def numberValue? (literal : List Char) : Option Json :=
  match literal with
  | '-' :: rest => magnitude? true rest literal
  | _ => magnitude? false literal literal

/-- The value of a word. -/
def wordValue? (letters : List Char) : Option Json :=
  if letters = ['n', 'u', 'l', 'l'] then some .null
  else if letters = ['t', 'r', 'u', 'e'] then some (.bool true)
  else if letters = ['f', 'a', 'l', 's', 'e'] then some (.bool false)
  else none

/-! ### Strings -/

/-- The part of a string literal that has been read. -/
structure Literal where
  /-- The characters so far, last first. -/
  chars : List Char := []
  /-- A leading surrogate that waits for its trailing one. -/
  leading : Option Nat := none
  /-- Half of a surrogate pair was seen. -/
  torn : Bool := false
  deriving Repr, Inhabited

namespace Literal

/-- A character is added; a leading surrogate before it stays alone. -/
def push (l : Literal) (c : Char) : Literal :=
  { chars := c :: l.chars, leading := none, torn := l.torn || l.leading.isSome }

/-- A code unit is added where no leading surrogate waits. -/
def pushAlone (l : Literal) (unit : Nat) : Literal :=
  if 0xD800 ≤ unit ∧ unit ≤ 0xDBFF then { l with leading := some unit }
  else if 0xDC00 ≤ unit ∧ unit ≤ 0xDFFF then { l with leading := none, torn := true }
  else { l with chars := Char.ofNat unit :: l.chars, leading := none }

/-- A code unit is added; a trailing surrogate joins the leading one that waits for it. -/
def pushUnit (l : Literal) (unit : Nat) : Literal :=
  match l.leading with
  | some high =>
    if 0xDC00 ≤ unit ∧ unit ≤ 0xDFFF then
      { l with
        chars := Char.ofNat (0x10000 + (high - 0xD800) * 0x400 + (unit - 0xDC00)) :: l.chars
        leading := none }
    else pushAlone { l with leading := none, torn := true } unit
  | none => pushAlone l unit

/-- The value of a finished literal. -/
def value (l : Literal) : Json :=
  if l.torn || l.leading.isSome then .torn else .str (String.ofList l.chars.reverse)

end Literal

/-- The character that a one-letter escape stands for. -/
def escaped? (c : Char) : Option Char :=
  match c with
  | '"' => some '"'
  | '\\' => some '\\'
  | '/' => some '/'
  | 'b' => some '\x08'
  | 'f' => some '\x0c'
  | 'n' => some '\n'
  | 'r' => some '\r'
  | 't' => some '\t'
  | _ => none

/-! ### The machine -/

/-- The token in progress. -/
inductive Lexing where
  /-- No token has begun. -/
  | between
  /-- The letters of a word, last first. -/
  | word (letters : List Char)
  /-- The characters of a number, last first. -/
  | number (literal : List Char)
  /-- Inside a string. -/
  | text (l : Literal)
  /-- After a backslash. -/
  | escape (l : Literal)
  /-- In a numbered escape: how many digits are missing, and the value of those read. -/
  | unit (l : Literal) (missing value : Nat)
  deriving Repr, Inhabited

/-- A character that begins a token or stands between two. -/
def start? (c : Char) : Option (Lexing × List Token) :=
  match c with
  | ' ' | '\t' | '\n' | '\r' => some (.between, [])
  | '{' => some (.between, [.openObject])
  | '}' => some (.between, [.closeObject])
  | '[' => some (.between, [.openArray])
  | ']' => some (.between, [.closeArray])
  | ':' => some (.between, [.colon])
  | ',' => some (.between, [.comma])
  | '"' => some (.text {}, [])
  | _ =>
    if c.isLower then some (.word [c], [])
    else if c.isDigit || c == '-' then some (.number [c], [])
    else none

/-- A character is read; the tokens are those that it completes. -/
def Lexing.step? (s : Lexing) (c : Char) : Option (Lexing × List Token) :=
  match s with
  | .between => start? c
  | .word letters =>
    if c.isLower then some (.word (c :: letters), [])
    else do
      let v ← wordValue? letters.reverse
      let (next, tokens) ← start? c
      some (next, .scalar v :: tokens)
  | .number literal =>
    if inNumber c then some (.number (c :: literal), [])
    else do
      let v ← numberValue? literal.reverse
      let (next, tokens) ← start? c
      some (next, .scalar v :: tokens)
  | .text l =>
    if c = '"' then some (.between, [.scalar l.value])
    else if c = '\\' then some (.escape l, [])
    else if c.toNat < 0x20 then none
    else some (.text (l.push c), [])
  | .escape l =>
    if c = 'u' then some (.unit l 4 0, [])
    else (escaped? c).map fun d => (.text (l.push d), [])
  | .unit l missing value =>
    (Text.hexDigit? c).map fun d =>
      if missing ≤ 1 then (.text (l.pushUnit (value * 16 + d)), [])
      else (.unit l (missing - 1) (value * 16 + d), [])

/-- The tokens that the end of the text completes. -/
def Lexing.finish? : Lexing → Option (List Token)
  | .between => some []
  | .word letters => (wordValue? letters.reverse).map ([.scalar ·])
  | .number literal => (numberValue? literal.reverse).map ([.scalar ·])
  | _ => none

/-- The tokens of the characters that follow, after those already found, which stand last first. -/
def scan? (s : Lexing) (found : List Token) : List Char → Option (List Token)
  | [] => s.finish?.map (found.reverse ++ ·)
  | c :: rest =>
    match s.step? c with
    | none => none
    | some (next, tokens) => scan? next (tokens.reverse ++ found) rest

/-- The tokens of a text. -/
def tokens? (text : String) : Option (List Token) := scan? .between [] text.toList

end Proctor.Json
