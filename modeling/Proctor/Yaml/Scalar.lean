import Proctor.Yaml.Tag
import Proctor.Yaml.Value

/-!
# Words and numbers

A text without quotes may be a word for nothing or for a truth value, or a number. Whole numbers are
written in base 10, or behind `0x`, `0o` or `0b` in base 16, 8 or 2; digits behind a zero are no
number. A number with a fraction or an exponent is rounded to 53 binary digits.
-/

namespace Proctor.Yaml

/-! ### Words -/

/-- A word for nothing. -/
def isNullWord (s : String) : Bool := s ∈ ["null", "Null", "NULL", "~"]

/-- The truth value of a word. -/
def truth? (s : String) : Option Bool :=
  if s ∈ ["true", "True", "TRUE"] then some true
  else if s ∈ ["false", "False", "FALSE"] then some false
  else none

/-! ### Whole numbers -/

/-- What a text is as a whole number. -/
inductive Whole where
  /-- A number in reach. -/
  | value (n : Int)
  /-- A number out of reach: it fits a word of 128 bits, but none of 64. -/
  | large
  /-- No whole number. -/
  | none
  deriving DecidableEq, Repr

/-- A power of two. -/
def twoTo (n : Nat) : Nat := Nat.pow 2 n

/-- The value of digits in a base, of which there is at least one. -/
def digitsValue? (base : Nat) (cs : List Char) : Option Nat :=
  if cs = [] then Option.none
  else cs.foldlM (fun n c => (Text.hexDigit? c).bind fun d =>
    if d < base then some (n * base + d) else Option.none) 0

/-- The text behind an optional plus or minus sign. -/
def unsigned : List Char → List Char
  | '+' :: rest => rest
  | '-' :: rest => rest
  | cs => cs

/-- Digits behind a zero, which are no number. -/
def hasLeadingZero (cs : List Char) : Bool :=
  match unsigned cs with
  | '0' :: d :: rest => (d :: rest).all Char.isDigit
  | _ => false

/-- The amount of a whole number without its sign; `cs` is the number with it. -/
def magnitude? (cs digits : List Char) : Option Nat :=
  match digits with
  | '0' :: 'x' :: rest => digitsValue? 16 rest
  | '0' :: 'o' :: rest => digitsValue? 8 rest
  | '0' :: 'b' :: rest => digitsValue? 2 rest
  | _ => if hasLeadingZero cs then Option.none else digitsValue? 10 digits

/-- A text as a whole number. -/
def Whole.read (s : String) : Whole :=
  let cs := s.toList
  match cs with
  | '-' :: digits =>
    match magnitude? cs digits with
    | some n =>
      if n ≤ twoTo 63 then .value (-(n : Int)) else if n ≤ twoTo 127 then .large else .none
    | Option.none => .none
  | _ =>
    let digits := match cs with
      | '+' :: rest => rest
      | _ => cs
    match magnitude? cs digits with
    | some n => if n < twoTo 64 then .value n else if n < twoTo 128 then .large else .none
    | Option.none => .none

/-! ### Fractions -/

namespace Fraction

/-- The quotient of two numbers rounded to the nearest whole number, and to the even one of two. -/
def roundedQuotient (a b : Nat) : Nat :=
  let q := a / b
  let twice := 2 * (a % b)
  if b < twice ∨ (twice = b ∧ q % 2 = 1) then q + 1 else q

/-- The quotient `a / b` rounded to 53 binary digits, and to a multiple of the least positive
number. Nothing is out of reach upwards but what is too great. -/
def ofQuotient? (negative : Bool) (a b : Nat) : Option Fraction :=
  let scaled (e : Int) : Nat × Nat :=
    if 0 ≤ e then (a, b * twoTo e.toNat) else (a * twoTo (-e).toNat, b)
  let guess : Int := max (-1074) ((Nat.log2 a : Int) - Nat.log2 b - 52)
  let exponent : Int :=
    let (x, y) := scaled guess
    if x / y < twoTo 52 then max (-1074) (guess - 1) else guess
  let (x, y) := scaled exponent
  let n := roundedQuotient x y
  let (n, exponent) := if n = twoTo 53 then (twoTo 52, exponent + 1) else (n, exponent)
  if 971 < exponent then none else some (.finite (negative && n != 0) n exponent)

/-- The number `n · 10ᵉ`, if it is not too great. -/
def ofDecimal? (negative : Bool) (n : Nat) (e : Int) : Option Fraction :=
  let size : Int := (Nat.toDigits 10 n).length + e
  if n = 0 ∨ size < -400 then some (.finite false 0 (-1074))
  else if 400 < size then none
  else if 0 ≤ e then ofQuotient? negative (n * Nat.pow 10 e.toNat) 1
  else ofQuotient? negative n (Nat.pow 10 (-e).toNat)

/-- The exponent behind a number, which has at least one digit if it is given. -/
def exponent? : List Char → Option Int
  | [] => some 0
  | c :: rest =>
    if c ≠ 'e' ∧ c ≠ 'E' then none
    else
      let n := digitsValue? 10 (unsigned rest)
      if rest.head? = some '-' then n.map fun n => -(n : Int) else n.map Int.ofNat

/-- A number in digits with a point among them and an exponent behind them, if they are given. -/
def readDecimal? (negative : Bool) (cs : List Char) : Option Fraction := do
  let whole := cs.takeWhile Char.isDigit
  let behind := cs.dropWhile Char.isDigit
  let (part, behind) := match behind with
    | '.' :: rest => (rest.takeWhile Char.isDigit, rest.dropWhile Char.isDigit)
    | _ => ([], behind)
  let n ← digitsValue? 10 (whole ++ part)
  let e ← exponent? behind
  ofDecimal? negative n (e - part.length)

/-- A text as a number; a sign may stand in front. -/
def read? (s : String) : Option Fraction :=
  if s ∈ [".inf", ".Inf", ".INF", "+.inf", "+.Inf", "+.INF"] then some (.infinite false)
  else if s ∈ ["-.inf", "-.Inf", "-.INF"] then some (.infinite true)
  else if s ∈ [".nan", ".NaN", ".NAN"] then some .notANumber
  else
    match s.toList with
    | '-' :: rest => readDecimal? true rest
    | '+' :: rest => readDecimal? false rest
    | cs => readDecimal? false cs

end Fraction

/-! ### Texts as values -/

namespace Value

/-- The value of a whole number in reach. -/
def ofWhole? : Whole → Option Value
  | .value n => some (.int n)
  | _ => Option.none

/-- The value of a text without quotes. A whole number out of reach has none. -/
def ofPlain? (s : String) : Option Value :=
  if s = "" ∨ isNullWord s then some .null
  else
    match truth? s, Whole.read s with
    | some b, _ => some (.bool b)
    | Option.none, .value n => some (.int n)
    | Option.none, .large => Option.none
    | Option.none, .none =>
      if hasLeadingZero s.toList then some (.str s)
      else some ((Fraction.read? s).elim (.str s) .fraction)

/-- The value of a text with a tag of the format itself, if the tag is one that is known. -/
def ofStandard? (tag s : String) : Option (Option Value) :=
  match tag with
  | "tag:yaml.org,2002:bool" => some ((truth? s).map .bool)
  | "tag:yaml.org,2002:int" => some (ofWhole? (Whole.read s))
  | "tag:yaml.org,2002:float" => some ((Fraction.read? s).map .fraction)
  | "tag:yaml.org,2002:null" => some (if isNullWord s then some .null else Option.none)
  | _ => Option.none

/-- A value under the tag that the document itself gives it. -/
def underTag (tag : Option Tag) (v : Value) : Value :=
  match tag.bind Tag.localName? with
  | some name => .tagged name v
  | Option.none => v

/-- The value of a text. With a tag that is not known it is a text, even without quotes. -/
def ofText? (tag : Option Tag) (s : String) (isPlain : Bool) : Option Value :=
  let asWritten := if isPlain then ofPlain? s else some (.str s)
  match tag with
  | Option.none => asWritten
  | some t =>
    if t.isLocal then asWritten.map (underTag tag)
    else (t.text?.bind (ofStandard? · s)).getD (some (.str s))

end Value

end Proctor.Yaml
