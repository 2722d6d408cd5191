import Proctor.Json.Basic

/-!
# Records in JSON

How the fields of a record are found in a value, and what an absent one means.

The library's own records are written as an object, in which a known name stands at most once and
unknown names are passed over, or as an array with the fields in their order. Objects of the
cluster are objects only; there the last value given to a name counts, and each value given has
to be of the name's kind.
-/

namespace Proctor.Json

/-- What the fields of a record hold, by name. -/
abbrev Fields := String → Option Json

/-- The fields of a record with these names: an object with each of them at most once, or an array
of at most that many items. -/
def record? (names : List String) : Json → Option Fields
  | .obj fields =>
    if names.all fun n => (fields.filter (·.1 = n)).length ≤ 1 then
      some fun n => fields.lookup n
    else none
  | .arr items =>
    if items.length ≤ names.length then some fun n => (names.zip items).lookup n else none
  | _ => none

/-- A field that has to be given. -/
def required {α : Type} (read : Json → Option α) : Option Json → Option α
  | none => none
  | some v => read v

/-- A field with a value of its own when it is not given. -/
def orDefault {α : Type} (default : α) (read : Json → Option α) : Option Json → Option α
  | none => some default
  | some v => read v

/-- A field that may be unset, by leaving it out or by `null`. -/
def optional {α : Type} (read : Json → Option α) : Option Json → Option (Option α)
  | none => some none
  | some .null => some none
  | some v => (read v).map some

/-- The last value given to a name, if it is set; every value given is read. -/
def last? {α : Type} (read : Json → Option α) (name : String) (fields : List (String × Json)) :
    Option (Option α) :=
  (fields.filter (·.1 = name)).foldlM (fun _ f => optional read (some f.2)) none

/-- A choice out of a list, written as its tag or as an object that gives the tag `null`. -/
def choice? {α : Type} (tag : α → String) (all : List α) : Json → Option α
  | .str s => all.find? (tag · = s)
  | .obj [(s, .null)] => all.find? (tag · = s)
  | _ => none

@[simp] theorem required_some {α : Type} (read : Json → Option α) (v : Json) :
    required read (some v) = read v := rfl

@[simp] theorem orDefault_none {α : Type} (d : α) (read : Json → Option α) :
    orDefault d read none = some d := rfl

@[simp] theorem orDefault_some {α : Type} (d : α) (read : Json → Option α) (v : Json) :
    orDefault d read (some v) = read v := rfl

@[simp] theorem optional_none {α : Type} (read : Json → Option α) :
    optional read none = some none := rfl

@[simp] theorem optional_null {α : Type} (read : Json → Option α) :
    optional read (some .null) = some none := rfl

end Proctor.Json
