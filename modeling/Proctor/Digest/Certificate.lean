import Proctor.Digest.Base64
import Proctor.Text.Blank
import Proctor.Text.Split
import Proctor.Text.Utf8

/-!
# Certificates

A bundle of certificates is a text with blocks between lines of dashes, each with bytes in base 64.
The bytes of a certificate are nested values, each with its kind and its length in front. Only the
outline of a certificate is looked at; whether its signature holds is not asked here.
-/

namespace Proctor.Certificate

/-! ### Blocks -/

/-- The text in front of a mark and the text behind it, where `left` is what is left of a mark that
has begun. A mark that is broken off does not begin again with the character that breaks it. -/
def until? (mark left before : List Char) : List Char → Option (List Char × List Char)
  | [] => none
  | c :: rest =>
    match left with
    | [] => none
    | m :: left =>
      if c = m then
        if left = [] then some ((before.drop (mark.length - 1)).reverse, rest)
        else until? mark left (c :: before) rest
      else until? mark mark (c :: before) rest

/-- The text in front of a mark and the text behind it. -/
def cutAt? (mark : String) (cs : List Char) : Option (List Char × List Char) :=
  until? mark.toList mark.toList [] cs

/-- The text behind spaces and breaks. -/
def behindBlanks (cs : List Char) : List Char :=
  cs.dropWhile fun c => c == ' ' || c == '\t' || c == '\n' || c == '\r'

/-- A block of a bundle. -/
structure Block where
  /-- What the block says it holds. -/
  label : List Char
  /-- What stands at its end. -/
  ending : List Char
  /-- What stands between. -/
  body : List Char

/-- The first block of a text and what follows it. -/
def block? (cs : List Char) : Option (Block × List Char) := do
  let (_, cs) ← cutAt? "-----BEGIN " cs
  let (label, cs) ← cutAt? "-----" cs
  let (body, cs) ← cutAt? "-----END " (behindBlanks cs)
  let (ending, cs) ← cutAt? "-----" cs
  some ({ label, ending, body }, behindBlanks cs)

/-- The blocks of a text, of which there are at most so many. -/
def blocks : Nat → List Char → List Block
  | 0, _ => []
  | fuel + 1, cs =>
    match block? cs with
    | none => []
    | some (b, rest) => b :: blocks fuel rest

/-- What stands in a block behind its headers, which end at an empty line. -/
def Block.content (b : Block) : List Char :=
  match cutAt? "\n\n" b.body with
  | some (_, rest) => rest
  | none => ((cutAt? "\r\n\r\n" b.body).map (·.2)).getD b.body

/-- The bytes of a block that is well formed. -/
def Block.bytes? (b : Block) : Option (List UInt8) :=
  if b.label = [] ∨ b.label ≠ b.ending then none
  else
    let lines := Text.splitChars '\n' b.content
    Base64.decode? (lines.flatMap fun l => (l.reverse.dropWhile Text.isBlank).reverse)

/-- The characters of some bytes, if they are a text without errors. -/
def text? (bytes : List UInt8) : Option (List Char) :=
  (String.fromUTF8? ⟨bytes.toArray⟩).map String.toList

/-- The certificates in the bytes of a bundle, if all its blocks are well formed. -/
def bundle? (bytes : List UInt8) : Option (List (List UInt8)) :=
  let cs := (text? bytes).getD (bytes.map fun b => Char.ofNat b.toNat)
  (blocks cs.length cs).foldrM (fun b found => b.bytes?.map fun bytes =>
    if b.label = "CERTIFICATE".toList then bytes :: found else found) []

/-! ### Nested values -/

/-- A value: its kind and its content. -/
abbrev Item := UInt8 × List UInt8

/-- The value that begins here, and what follows. Its length has the shortest form. -/
def item? : List UInt8 → Option (Item × List UInt8)
  | kind :: n :: rest =>
    let take (n : Nat) (rest : List UInt8) : Option (Item × List UInt8) :=
      if n ≤ rest.length ∧ kind.toNat % 32 ≠ 31 then some ((kind, rest.take n), rest.drop n)
      else none
    if n < 0x80 then take n.toNat rest
    else if n = 0x81 then
      match rest with
      | a :: rest => if 0x80 ≤ a then take a.toNat rest else none
      | [] => none
    else if n = 0x82 then
      match rest with
      | a :: b :: rest => if a ≠ 0 then take (a.toNat * 256 + b.toNat) rest else none
      | _ => none
    else none
  | _ => none

/-- The values that some bytes consist of, at most so many. -/
def items? : Nat → List UInt8 → Option (List Item)
  | _, [] => some []
  | 0, _ => none
  | fuel + 1, bytes => do
    let (i, rest) ← item? bytes
    let is ← items? fuel rest
    some (i :: is)

/-- The kind of a list of values. -/
def sequence : UInt8 := 0x30

/-- The kind of a whole number. -/
def integer : UInt8 := 0x02

/-- The kind of a string of bits. -/
def bits : UInt8 := 0x03

/-- Values of these kinds, one after the other. -/
def areOf (kinds : List UInt8) (items : List Item) : Bool := items.map (·.1) == kinds

/-- What is signed, in the present form: version, serial number, algorithm, issuer, validity,
subject and key, and extensions if there are any. -/
def isPresent (algorithm : Item) (items : List Item) : Bool :=
  let named := [integer, sequence, sequence, sequence, sequence, sequence]
  let (required, extensions) := (items.take 7, items.drop 7)
  areOf (0xA0 :: named) required && required.head? == some (0xA0, [integer, 1, 2]) &&
    required[2]? == some algorithm &&
    match extensions with
    | [] => true
    | [(0xA3, content)] =>
      match items? content.length content with
      | some [(kind, list)] =>
        kind == sequence && (items? list.length list).any (·.all (·.1 == sequence))
      | _ => false
    | _ => false

/-- What is signed, in the first form, which has neither version nor extensions. -/
def isEarly (items : List Item) : Bool :=
  areOf [integer, sequence, sequence, sequence, sequence, sequence] items

/-- Bytes that have the outline of a certificate. -/
def isCertificate (bytes : List UInt8) : Bool :=
  match items? 1 bytes with
  | some [(kind, content)] =>
    match kind == sequence, items? 3 content with
    | true, some [(0x30, signed), algorithm, signature] =>
      areOf [sequence, bits] [algorithm, signature] && signature.2.head? == some 0 &&
        (items? signed.length signed).any fun items => isPresent algorithm items || isEarly items
    | _, _ => false
  | _ => false

end Proctor.Certificate
