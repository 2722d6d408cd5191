/-!
# JSON values

The values that a JSON text denotes. An integer literal is kept as an integer and any other number
as its literal, because a count accepts the one and refuses the other. An object keeps its fields
in the order they were given, repeated names included; what a repeated name means is decided by
the reader of the record.
-/

namespace Proctor

/-- A JSON value. -/
inductive Json where
  /-- The literal `null`. -/
  | null
  /-- A truth value. -/
  | bool (b : Bool)
  /-- A number without fraction and exponent, other than minus zero. -/
  | int (n : Int)
  /-- Any other number, as it was written. -/
  | real (literal : String)
  /-- A text. -/
  | str (s : String)
  /-- What denotes nothing that could be used: a string literal with half of a surrogate pair, or an
  object one of whose names is such. -/
  | torn
  /-- A list of values. -/
  | arr (items : List Json)
  /-- Named values, in the order given. -/
  | obj (fields : List (String × Json))
  deriving Repr, Inhabited

namespace Json

/-- The text of a string. -/
def str? : Json → Option String
  | .str s => some s
  | _ => none

/-- A truth value. -/
def bool? : Json → Option Bool
  | .bool b => some b
  | _ => none

/-- The value of an integer literal. -/
def int? : Json → Option Int
  | .int n => some n
  | _ => none

/-- An integer literal that fits a word of 32 bits. -/
def word32? : Json → Option UInt32
  | .int n => if 0 ≤ n ∧ n < 4294967296 then some n.toNat.toUInt32 else none
  | _ => none

/-- An integer literal that fits a word of 32 bits with a sign. -/
def signed32? : Json → Option Int
  | .int n => if -2147483648 ≤ n ∧ n < 2147483648 then some n else none
  | _ => none

/-- An integer literal that fits a word of 64 bits with a sign. -/
def signed64? : Json → Option Int
  | .int n => if -9223372036854775808 ≤ n ∧ n < 9223372036854775808 then some n else none
  | _ => none

/-- The fields of an object. -/
def fields? : Json → Option (List (String × Json))
  | .obj fields => some fields
  | _ => none

/-- The items of an array, each read in the same way. -/
def list? {α : Type} (read : Json → Option α) : Json → Option (List α)
  | .arr items => items.mapM read
  | _ => none

/-- The first field of that name. -/
def get? (name : String) : Json → Option Json
  | .obj fields => fields.lookup name
  | _ => none

/-- An array of texts. -/
def ofTexts (texts : List String) : Json := .arr (texts.map .str)

/-- A count. -/
def ofWord32 (n : UInt32) : Json := .int n.toNat

/-- The object of those fields that have a value. -/
def ofFields (fields : List (String × Option Json)) : Json :=
  .obj (fields.filterMap fun f => f.2.map (f.1, ·))

/-- The object of those fields that have a value, and of further ones. -/
def record (others : List (String × Json)) (fields : List (String × Option Json)) : Json :=
  .obj (fields.filterMap (fun f => f.2.map (f.1, ·)) ++ others)

@[simp] theorem str?_str (s : String) : (Json.str s).str? = some s := rfl

@[simp] theorem list?_arr {α : Type} (read : Json → Option α) (items : List Json) :
    (Json.arr items).list? read = items.mapM read := rfl

@[simp] theorem word32?_ofWord32 (n : UInt32) : (ofWord32 n).word32? = some n := by
  have h : n.toNat < 4294967296 := n.toNat_lt
  simp [ofWord32, word32?]
  omega

end Json

end Proctor
