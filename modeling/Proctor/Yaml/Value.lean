import Proctor.Text.Decimal

/-!
# YAML values

The values that a YAML document denotes. An object may have any values as names, each only once;
two objects with the same fields are the same whatever their order. A value may carry a tag.
-/

namespace Proctor.Yaml

/-- A number with a fraction or an exponent. -/
inductive Fraction where
  /-- A number that is a multiple of a power of two, with its sign. -/
  | finite (negative : Bool) (multiple : Nat) (exponent : Int)
  /-- More than any number, or less. -/
  | infinite (negative : Bool)
  /-- No number. -/
  | notANumber
  deriving DecidableEq, Repr, Inhabited

/-- A YAML value. -/
inductive Value where
  /-- Nothing. -/
  | null
  /-- A truth value. -/
  | bool (b : Bool)
  /-- A whole number. -/
  | int (n : Int)
  /-- Any other number. -/
  | fraction (x : Fraction)
  /-- A text. -/
  | str (s : String)
  /-- A list. -/
  | list (items : List Value)
  /-- An object, whose names are values. -/
  | object (entries : List (Value × Value))
  /-- A value with a tag. -/
  | tagged (tag : String) (v : Value)
  deriving Repr, Inhabited

namespace Value

mutual

/-- The same value. The order of the fields of an object does not count. -/
def same : Value → Value → Bool
  | .null, .null => true
  | .bool a, .bool b => a == b
  | .int a, .int b => a == b
  | .fraction a, .fraction b => a == b
  | .str a, .str b => a == b
  | .list as, .list bs => sameItems as bs
  | .object as, .object bs => as.length == bs.length && contained as bs
  | .tagged s a, .tagged t b => s == t && same a b
  | _, _ => false

/-- The same values in the same order. -/
def sameItems : List Value → List Value → Bool
  | [], [] => true
  | a :: as, b :: bs => same a b && sameItems as bs
  | _, _ => false

/-- Fields that all stand in another object as well. -/
def contained : List (Value × Value) → List (Value × Value) → Bool
  | [], _ => true
  | (name, v) :: rest, bs => bs.any (fun b => same name b.1 && same v b.2) && contained rest bs

end

/-- A value without its tags. -/
def untagged : Value → Value
  | .tagged _ v => untagged v
  | v => v

/-- A text, whatever its tag. -/
def str? (v : Value) : Option String :=
  match v.untagged with
  | .str s => some s
  | _ => none

/-- A truth value, whatever its tag. -/
def bool? (v : Value) : Option Bool :=
  match v.untagged with
  | .bool b => some b
  | _ => none

/-- The items of a list, each read in the same way; nothing is a list without items. -/
def list? {α : Type} (read : Value → Option α) (v : Value) : Option (List α) :=
  match v.untagged with
  | .list items => items.mapM read
  | .null => some []
  | _ => none

/-- The fields of an object whose names are texts; nothing is an object without fields. -/
def fields? (v : Value) : Option (List (String × Value)) :=
  match v.untagged with
  | .object entries => entries.mapM fun e => e.1.str?.map (·, e.2)
  | .null => some []
  | _ => none

/-- A value that may be left out by `null`. -/
def optional? {α : Type} (read : Value → Option α) : Value → Option (Option α)
  | .null => some none
  | v => (read v).map some

/-- A field that has to be given, and only once. -/
def required? {α : Type} (read : Value → Option α) (name : String)
    (fields : List (String × Value)) : Option α :=
  match fields.filter (·.1 = name) with
  | [f] => read f.2
  | _ => none

/-- A field that may be left out or be `null`, and is given only once. -/
def field? {α : Type} (read : Value → Option α) (name : String)
    (fields : List (String × Value)) : Option (Option α) :=
  match fields.filter (·.1 = name) with
  | [] => some none
  | [f] => optional? read f.2
  | _ => none

@[simp] theorem untagged_tagged (t : String) (v : Value) :
    (Value.tagged t v).untagged = v.untagged := rfl

@[simp] theorem str?_str (s : String) : (Value.str s).str? = some s := rfl

@[simp] theorem bool?_bool (b : Bool) : (Value.bool b).bool? = some b := rfl

end Value

end Proctor.Yaml
