import Proctor.Text.Decimal
import Proctor.Text.Split
import Proctor.Text.Utf8

/-!
# Names and values in an address

What is asked of a resource stands behind a question mark, as names with values. A byte that could
be mistaken there is written as a percent sign and two digits, and a space as a plus sign.
-/

namespace Proctor.Form

/-! ### Writing -/

/-- A byte that is written as it is. -/
def isPlain (b : UInt8) : Bool :=
  let c := Char.ofNat b.toNat
  b < 0x80 && (c.isAlphanum || c == '*' || c == '-' || c == '.' || c == '_')

/-- A digit below 16 as an upper-case letter or a digit. -/
def digit (n : Nat) : Char := (Nat.digitChar n).toUpper

/-- The characters that a byte is written in. -/
def writeByte (b : UInt8) : List Char :=
  if b = 0x20 then ['+']
  else if isPlain b then [Char.ofNat b.toNat]
  else ['%', digit (b.toNat / 16), digit (b.toNat % 16)]

/-- A name or value as it is written. -/
def write (s : String) : String := String.ofList ((Text.bytes s).flatMap writeByte)

/-- Names and values, each behind its separator. -/
def writeAll (pairs : List (String × String)) : String :=
  String.join (pairs.map fun p => "&" ++ write p.1 ++ "=" ++ write p.2)

/-! ### Reading -/

/-- The value of a byte that is a hexadecimal digit. -/
def hexByte? (b : UInt8) : Option Nat :=
  if b < 0x80 then Text.hexDigit? (Char.ofNat b.toNat) else none

/-- The byte that two digits denote. -/
def numbered? : List UInt8 → Option UInt8
  | high :: low :: _ => do
    let h ← hexByte? high
    let l ← hexByte? low
    some (UInt8.ofNat (16 * h + l))
  | _ => none

/-- The bytes that are meant, where the first few are already read. A percent sign without two
digits stands for itself. -/
def readBytes : Nat → List UInt8 → List UInt8
  | _, [] => []
  | known + 1, _ :: rest => readBytes known rest
  | 0, b :: rest =>
    if b = 0x2B then 0x20 :: readBytes 0 rest
    else
      match if b = 0x25 then numbered? rest else none with
      | some n => n :: readBytes 2 rest
      | none => b :: readBytes 0 rest

/-- The name or value that is meant. -/
def read (s : String) : String := Text.ofBytes (readBytes 0 (Text.bytes s))

/-- The name and the value of a part; without an equals sign the value is empty. -/
def readPair (s : String) : String × String :=
  match Text.cut? '=' s with
  | some (name, value) => (read name, read value)
  | none => (read s, "")

/-- The names and values of a text. -/
def readAll (s : String) : List (String × String) :=
  ((Text.split '&' s).filter (· ≠ "")).map readPair

end Proctor.Form
