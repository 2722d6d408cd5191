import Proctor.Text.Decimal
import Proctor.Yaml.Gap

/-!
# Texts in quotes

A text in single quotes knows one escape, the quote written twice. A text in double quotes has
escapes behind a backslash; a backslash in front of a break joins two lines without a space.
-/

namespace Proctor.Yaml.Quoted

/-- The character that a letter behind a backslash stands for. -/
def escaped? (c : Char) : Option Char :=
  match c with
  | '0' => some '\x00'
  | 'a' => some '\x07'
  | 'b' => some '\x08'
  | 't' | '\t' => some '\t'
  | 'n' => some '\n'
  | 'v' => some '\x0b'
  | 'f' => some '\x0c'
  | 'r' => some '\r'
  | 'e' => some '\x1b'
  | ' ' | '"' | '/' | '\\' => some c
  | 'N' => some '\x85'
  | '_' => some '\xa0'
  | 'L' => some '\u2028'
  | 'P' => some '\u2029'
  | _ => none

/-- How many digits follow a letter that begins the number of a character. -/
def digits? (c : Char) : Option Nat :=
  match c with
  | 'x' => some 2
  | 'u' => some 4
  | 'U' => some 8
  | _ => none

/-- The character of a number, which may not be half of a pair. -/
def numbered? (n : Nat) : Option Char := if n.isValidChar then some (Char.ofNat n) else none

/-- What has been read last. -/
inductive Part where
  /-- A character of the text. -/
  | text
  /-- A gap between two parts. -/
  | gap (g : Gap)
  /-- A single quote, which ends the text or is the first of two. -/
  | quote
  /-- A backslash. -/
  | escape
  /-- Digits of a number: how many are missing, and the value of those read. -/
  | number (missing value : Nat)
  deriving DecidableEq, Repr

/-- The text that goes on here, and what follows its closing quote. What was read stands last
first. -/
def from? (single : Bool) (read : List Char) : Part → List Cell → Option (String × List Cell)
  | .quote, [] => some (String.ofList read.reverse, [])
  | _, [] => none
  | .quote, c :: rest =>
    if c.char = '\'' then from? single ('\'' :: read) .text rest
    else some (String.ofList read.reverse, c :: rest)
  | .escape, c :: rest =>
    if isBreak c.char then from? single read (.gap .escaped) rest
    else
      match escaped? c.char, digits? c.char with
      | some d, _ => from? single (d :: read) .text rest
      | none, some n => from? single read (.number n 0) rest
      | none, none => none
  | .number missing value, c :: rest =>
    match Text.hexDigit? c.char with
    | none => none
    | some d =>
      if missing ≤ 1 then
        match numbered? (value * 16 + d) with
        | none => none
        | some ch => from? single (ch :: read) .text rest
      else from? single read (.number (missing - 1) (value * 16 + d)) rest
  | .text, c :: rest =>
    if isGap c.char then from? single read (.gap (Gap.push {} c.char)) rest
    else if c.char = '\'' ∧ single then from? single read .quote rest
    else if c.char = '"' ∧ !single then some (String.ofList read.reverse, rest)
    else if c.char = '\\' ∧ !single then from? single read .escape rest
    else from? single (c.char :: read) .text rest
  | .gap g, c :: rest =>
    let before := g.chars.reverse ++ read
    if isGap c.char then from? single read (.gap (g.push c.char)) rest
    else if isDocumentMark (c :: rest) then none
    else if c.char = '\'' ∧ single then from? single before .quote rest
    else if c.char = '"' ∧ !single then some (String.ofList before.reverse, rest)
    else if c.char = '\\' ∧ !single then from? single before .escape rest
    else from? single (c.char :: before) .text rest

/-- The text whose opening quote was read, and what follows it. -/
def read? (single : Bool) (cells : List Cell) : Option (String × List Cell) :=
  from? single [] .text cells

end Proctor.Yaml.Quoted
