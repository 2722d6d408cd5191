import Proctor.Text.Decimal
import Proctor.Text.Split

/-!
# Names of servers

What a certificate may be made out to: a name of parts with points between them, or the number of a
server, in the short form of four numbers or in the long form of eight.
-/

namespace Proctor.HostName

/-- A part of a name of a server: letters, digits, `_`, and `-` inside. -/
def isLabel (cs : List Char) : Bool :=
  cs != [] && cs.length ≤ 63 && cs.head? != some '-' && cs.getLast? != some '-' &&
    cs.all fun c => c.isAlphanum || c == '_' || c == '-'

/-- A name of a server: parts with points between them, the last of which is no number; a point may
stand at the end. -/
def isHostName (cs : List Char) : Bool :=
  let labels := Text.splitChars '.' cs
  let labels := if labels.getLast? = some [] then labels.dropLast else labels
  cs.length ≤ 253 && labels.all isLabel &&
    labels.getLast?.any fun l => !l.all Char.isDigit

/-- Four numbers of at most 255, with points between them. -/
def isAddress4 (cs : List Char) : Bool :=
  let parts := Text.splitChars '.' cs
  parts.length == 4 && parts.all fun p =>
    (p.head? != some '0' || p == ['0']) && p.length ≤ 3 && (Text.decimal? p).any (· ≤ 255)

/-- How many numbers of 16 bits are given by some parts; the last one may be four numbers of 8
bits. -/
def groups? (parts : List (List Char)) : Option Nat :=
  match parts.reverse with
  | [] => some 0
  | last :: before =>
    let isGroup (p : List Char) : Bool :=
      p != [] && p.length ≤ 4 && p.all fun c => (Text.hexDigit? c).isSome
    if before.all isGroup then
      if isGroup last then some (before.length + 1)
      else if isAddress4 last then some (before.length + 2)
      else none
    else none

/-- The parts on one side of a pair of colons. -/
def groupParts (cs : List Char) : List (List Char) :=
  if cs = [] then [] else Text.splitChars ':' cs

/-- The texts on both sides of the first pair of colons. -/
def cutColons? (before : List Char) : List Char → Option (List Char × List Char)
  | ':' :: ':' :: rest => some (before.reverse, rest)
  | c :: rest => cutColons? (c :: before) rest
  | [] => none

/-- Eight numbers of 16 bits with colons between them, where zeros may be left out once. -/
def isAddress6 (cs : List Char) : Bool :=
  match cutColons? [] cs with
  | none => groups? (groupParts cs) == some 8
  | some (before, after) =>
    !(before.contains '.') &&
      match groups? (groupParts before), groups? (groupParts after) with
      | some m, some n => m + n ≤ 7
      | _, _ => false

/-- A name or a number that a certificate may be made out to. -/
def isValid (s : String) : Bool :=
  let cs := s.toList
  isHostName cs || isAddress4 cs || isAddress6 cs

end Proctor.HostName
