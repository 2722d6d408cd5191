/-!
# Bytes of a text

A text as bytes, and bytes as a text. Bytes that denote no character are replaced: every longest
run that could still have become one stands for a single replacement character.
-/

namespace Proctor.Text

/-- The bytes of a text. -/
def bytes (s : String) : List UInt8 := s.toUTF8.data.toList

/-- A character that has begun but is not complete. -/
structure Partial where
  /-- How many bytes are missing. -/
  missing : Nat
  /-- The least value of the next byte. -/
  least : Nat := 0x80
  /-- The greatest value of the next byte. -/
  greatest : Nat := 0xBF
  /-- The number of the character, as far as it is known. -/
  value : Nat
  deriving Repr

/-- The character that stands for bytes that denote none. -/
def replacement : Char := '\uFFFD'

/-- What a byte begins: a character of its own, one with further bytes, or nothing. -/
def beginning (b : Nat) : List Char × Option Partial :=
  if b < 0x80 then ([Char.ofNat b], none)
  else if 0xC2 ≤ b ∧ b ≤ 0xDF then ([], some { missing := 1, value := b - 0xC0 })
  else if b = 0xE0 then ([], some { missing := 2, least := 0xA0, value := 0 })
  else if b = 0xED then ([], some { missing := 2, greatest := 0x9F, value := 0xD })
  else if 0xE1 ≤ b ∧ b ≤ 0xEF then ([], some { missing := 2, value := b - 0xE0 })
  else if b = 0xF0 then ([], some { missing := 3, least := 0x90, value := 0 })
  else if 0xF1 ≤ b ∧ b ≤ 0xF3 then ([], some { missing := 3, value := b - 0xF0 })
  else if b = 0xF4 then ([], some { missing := 3, greatest := 0x8F, value := 4 })
  else ([replacement], none)

/-- A byte is read: the characters that are complete by it, and the one that is not. -/
def Partial.step (pending : Option Partial) (b : Nat) : List Char × Option Partial :=
  match pending with
  | none => beginning b
  | some p =>
    if p.least ≤ b ∧ b ≤ p.greatest then
      let value := p.value * 64 + (b - 0x80)
      if p.missing ≤ 1 then ([Char.ofNat value], none)
      else ([], some { missing := p.missing - 1, value })
    else
      let (cs, next) := beginning b
      (replacement :: cs, next)

/-- The characters of bytes that follow an incomplete character. -/
def charsFrom (pending : Option Partial) : List UInt8 → List Char
  | [] => if pending.isSome then [replacement] else []
  | b :: rest =>
    let (cs, next) := Partial.step pending b.toNat
    cs ++ charsFrom next rest

/-- The text of some bytes. -/
def ofBytes (bs : List UInt8) : String := String.ofList (charsFrom none bs)

end Proctor.Text
