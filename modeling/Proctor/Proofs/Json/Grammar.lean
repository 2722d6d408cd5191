import Proctor.Json.Basic
import Proctor.Text.Decimal

/-!
# The grammar of JSON texts

Which characters spell which value (`Json.Spells`), told by the shapes of the values and not by the
reader. A value may be spelled in many ways: with blanks around each of its parts, with characters
escaped or as they are, with the fields of an object in any order. A number without fraction and
exponent spells an integer, but for minus zero; any other is kept as its literal. A text in which
half of a surrogate pair stands alone is torn, and so is an object that has such a name.
-/

namespace Proctor.Json

/-! ### Blanks -/

/-- The blanks that may stand around a value, a name and a mark. -/
def Gap (cs : List Char) : Prop := ∀ c ∈ cs, c ∈ [' ', '\t', '\n', '\r']

instance (cs : List Char) : Decidable (Gap cs) := List.decidableBAll _ cs

theorem gap_nil : Gap [] := List.forall_mem_nil _

/-! ### Numbers -/

/-- One digit or more. -/
def Digits (cs : List Char) : Prop := cs ≠ [] ∧ ∀ c ∈ cs, c.isDigit = true

/-- Digits of which the first is no zero, unless it is the only one. -/
def Whole (cs : List Char) : Prop := Digits cs ∧ (cs.head? = some '0' → cs = ['0'])

instance (cs : List Char) : Decidable (Digits cs) :=
  have : Decidable (∀ c ∈ cs, c.isDigit = true) := List.decidableBAll _ cs
  inferInstanceAs (Decidable (_ ∧ _))

instance (cs : List Char) : Decidable (Whole cs) := inferInstanceAs (Decidable (_ ∧ _))

/-- A point with digits, or nothing. -/
inductive Fraction : List Char → Prop where
  /-- Nothing. -/
  | absent : Fraction []
  /-- A point with digits. -/
  | given {ds : List Char} (h : Digits ds) : Fraction ('.' :: ds)

/-- The letter of an exponent with a sign or none and with digits, or nothing. -/
inductive Exponent : List Char → Prop where
  /-- Nothing. -/
  | absent : Exponent []
  /-- Digits without a sign. -/
  | plain {e : Char} {ds : List Char} (he : e = 'e' ∨ e = 'E') (h : Digits ds) : Exponent (e :: ds)
  /-- Digits with a sign. -/
  | signed {e sign : Char} {ds : List Char} (he : e = 'e' ∨ e = 'E')
      (hs : sign = '+' ∨ sign = '-') (h : Digits ds) : Exponent (e :: sign :: ds)

/-- The characters that spell a number. -/
inductive SpellsNumber : List Char → Json → Prop where
  /-- An integer without a sign. -/
  | natural {whole : List Char} (hw : Whole whole) :
    SpellsNumber whole (.int (Nat.ofDigitChars 10 whole 0))
  /-- An integer with a sign, which is not zero. -/
  | negative {whole : List Char} (hw : Whole whole) (hz : whole ≠ ['0']) :
    SpellsNumber ('-' :: whole) (.int (-(Nat.ofDigitChars 10 whole 0 : Nat)))
  /-- Minus zero. -/
  | minusZero : SpellsNumber ['-', '0'] (.real (String.ofList ['-', '0']))
  /-- A number with a fraction or an exponent. -/
  | real {sign whole fraction exponent : List Char} (hs : sign = [] ∨ sign = ['-'])
      (hw : Whole whole) (hf : Fraction fraction) (he : Exponent exponent)
      (hne : fraction ++ exponent ≠ []) :
    SpellsNumber (sign ++ (whole ++ (fraction ++ exponent)))
      (.real (String.ofList (sign ++ (whole ++ (fraction ++ exponent)))))

/-! ### Texts -/

/-- The escapes by a letter, each with the character that it stands for. -/
def escapes : List (Char × Char) :=
  [('"', '"'), ('\\', '\\'), ('/', '/'), ('b', '\x08'), ('f', '\x0c'), ('n', '\n'), ('r', '\r'),
    ('t', '\t')]

/-- A piece of a text: a character, or a unit of UTF-16 that is given by its number. -/
inductive Piece where
  /-- A character. -/
  | char (c : Char)
  /-- A unit of UTF-16. -/
  | unit (n : Nat)

/-- The characters that spell a piece of a text. -/
inductive SpellsPiece : List Char → Piece → Prop where
  /-- A character that stands for itself. -/
  | plain {c : Char} (hq : c ≠ '"') (hb : c ≠ '\\') (hc : 0x20 ≤ c.toNat) :
    SpellsPiece [c] (.char c)
  /-- A backslash with a letter. -/
  | escape {c d : Char} (h : (c, d) ∈ escapes) : SpellsPiece ['\\', c] (.char d)
  /-- A backslash with four hexadecimal digits. -/
  | unit {a b c d : Char} {i j k l : Nat} (ha : Text.hexDigit? a = some i)
      (hb : Text.hexDigit? b = some j) (hc : Text.hexDigit? c = some k)
      (hd : Text.hexDigit? d = some l) :
    SpellsPiece ['\\', 'u', a, b, c, d] (.unit (((i * 16 + j) * 16 + k) * 16 + l))

/-- The characters that spell the pieces of a text. -/
inductive SpellsPieces : List Char → List Piece → Prop where
  /-- No pieces. -/
  | nil : SpellsPieces [] []
  /-- A piece and further ones. -/
  | cons {cs ds : List Char} {p : Piece} {ps : List Piece} (h : SpellsPiece cs p)
      (hs : SpellsPieces ds ps) : SpellsPieces (cs ++ ds) (p :: ps)

/-- The first half of a surrogate pair. -/
def Leads (n : Nat) : Prop := 0xD800 ≤ n ∧ n ≤ 0xDBFF

/-- The second half of a surrogate pair. -/
def Trails (n : Nat) : Prop := 0xDC00 ≤ n ∧ n ≤ 0xDFFF

instance (n : Nat) : Decidable (Leads n) := inferInstanceAs (Decidable (_ ∧ _))

instance (n : Nat) : Decidable (Trails n) := inferInstanceAs (Decidable (_ ∧ _))

/-- The character of a surrogate pair. -/
def paired (high low : Nat) : Char :=
  Char.ofNat (0x10000 + (high - 0xD800) * 0x400 + (low - 0xDC00))

/-- The characters of a text, unless half of a surrogate pair stands alone. -/
def Piece.chars? : List Piece → Option (List Char)
  | [] => some []
  | .char c :: rest => (chars? rest).map (c :: ·)
  | .unit n :: rest =>
    if Trails n then none
    else if Leads n then
      match rest with
      | .unit m :: rest => if Trails m then (chars? rest).map (paired n m :: ·) else none
      | _ => none
    else (chars? rest).map (Char.ofNat n :: ·)

theorem Leads.not_trails {n : Nat} (h : Leads n) : ¬Trails n := fun ht => by
  simp only [Leads, Trails] at h ht
  omega

section Pieces

variable {n high : Nat} {ps : List Piece}

theorem Piece.chars?_of_trails (h : Trails n) : chars? (.unit n :: ps) = none := by
  unfold chars?
  exact if_pos h

theorem Piece.chars?_of_leads (hh : Leads high) :
    chars? (.unit high :: .unit n :: ps) =
      if Trails n then (chars? ps).map (paired high n :: ·) else none := by
  rw [chars?, if_neg hh.not_trails, if_pos hh]

theorem Piece.chars?_of_alone (hh : Leads high) (h : ∀ n ps', ps = .unit n :: ps' → ¬Trails n) :
    chars? (.unit high :: ps) = none := by
  unfold chars?
  rw [if_neg hh.not_trails, if_pos hh]
  split
  · next n ps' => exact if_neg (h n ps' rfl)
  · rfl

theorem Piece.chars?_of_plain (hl : ¬Leads n) (ht : ¬Trails n) :
    chars? (.unit n :: ps) = (chars? ps).map (Char.ofNat n :: ·) := by
  conv => lhs; unfold chars?
  rw [if_neg ht, if_neg hl]

end Pieces

/-- The value of a text. -/
def Piece.value (ps : List Piece) : Json :=
  match chars? ps with
  | some cs => .str (String.ofList cs)
  | none => .torn

/-- The characters that spell a text: its pieces between quotes. -/
inductive SpellsText : List Char → Json → Prop where
  /-- Pieces between quotes. -/
  | quoted {cs : List Char} {ps : List Piece} (h : SpellsPieces cs ps) :
    SpellsText ('"' :: (cs ++ ['"'])) (Piece.value ps)

/-! ### Values -/

/-- The fields with the texts of their names, unless one of these is torn. -/
def named? (fields : List (Json × Json)) : Option (List (String × Json)) :=
  fields.mapM fun f => f.1.str?.map (·, f.2)

/-- The object of fields; it is torn if one of the names is. -/
def objectOf (fields : List (Json × Json)) : Json :=
  match named? fields with
  | some fields => .obj fields
  | none => .torn

mutual

/-- The characters that spell a value. -/
inductive Spells : List Char → Json → Prop where
  /-- The word `null`. -/
  | null : Spells ['n', 'u', 'l', 'l'] .null
  /-- The word `true`. -/
  | yes : Spells ['t', 'r', 'u', 'e'] (.bool true)
  /-- The word `false`. -/
  | no : Spells ['f', 'a', 'l', 's', 'e'] (.bool false)
  /-- A number. -/
  | number {cs : List Char} {v : Json} (h : SpellsNumber cs v) : Spells cs v
  /-- A text. -/
  | text {cs : List Char} {v : Json} (h : SpellsText cs v) : Spells cs v
  /-- An array without items. -/
  | emptyArray {g : List Char} (hg : Gap g) : Spells ('[' :: (g ++ [']'])) (.arr [])
  /-- An array. -/
  | array {cs : List Char} {vs : List Json} (h : SpellsItems cs vs) :
    Spells ('[' :: (cs ++ [']'])) (.arr vs)
  /-- An object without fields. -/
  | emptyObject {g : List Char} (hg : Gap g) : Spells ('{' :: (g ++ ['}'])) (.obj [])
  /-- An object. -/
  | object {cs : List Char} {fs : List (Json × Json)} (h : SpellsFields cs fs) :
    Spells ('{' :: (cs ++ ['}'])) (objectOf fs)
  /-- A value with blanks around it. -/
  | spaced {f cs b : List Char} {v : Json} (hf : Gap f) (h : Spells cs v) (hb : Gap b) :
    Spells (f ++ (cs ++ b)) v

/-- The characters that spell the items of an array. -/
inductive SpellsItems : List Char → List Json → Prop where
  /-- The last item. -/
  | one {cs : List Char} {v : Json} (h : Spells cs v) : SpellsItems cs [v]
  /-- An item and further ones. -/
  | more {cs ds : List Char} {v : Json} {vs : List Json} (h : Spells cs v)
      (hs : SpellsItems ds vs) : SpellsItems (cs ++ ',' :: ds) (v :: vs)

/-- The characters that spell the fields of an object. -/
inductive SpellsFields : List Char → List (Json × Json) → Prop where
  /-- The last field. -/
  | one {f ns b cs : List Char} {n v : Json} (hf : Gap f) (hn : SpellsText ns n) (hb : Gap b)
      (h : Spells cs v) : SpellsFields (f ++ (ns ++ (b ++ ':' :: cs))) [(n, v)]
  /-- A field and further ones. -/
  | more {f ns b cs ds : List Char} {n v : Json} {fs : List (Json × Json)} (hf : Gap f)
      (hn : SpellsText ns n) (hb : Gap b) (h : Spells cs v) (hs : SpellsFields ds fs) :
    SpellsFields (f ++ (ns ++ (b ++ ':' :: (cs ++ ',' :: ds)))) ((n, v) :: fs)

end

end Proctor.Json
