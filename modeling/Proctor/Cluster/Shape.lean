import Proctor.Digest.Base64
import Proctor.Json.Record
import Proctor.Time.Instant

/-!
# Shapes of cluster objects

The cluster gives every kind of object its fields, and every field its shape. A value that has the
shape is read into the form in which it is written again: fields that the shape does not name are
dropped, and so are fields that are unset; where a field is given more than once the last value
counts, but each of them has to fit.

Some fields are always written. One of those that is unset is written with the empty value of its
shape: the empty text, zero, the empty list.
-/

namespace Proctor

/-- A field of a record. -/
structure Shape.Field (α : Type) where
  /-- Its name. -/
  name : String
  /-- It is written even if it is unset. -/
  isWritten : Bool
  /-- What it holds. -/
  shape : α

/-- What a value may be. -/
inductive Shape where
  /-- A text. -/
  | text
  /-- A truth value. -/
  | flag
  /-- An integer of 32 bits. -/
  | whole32
  /-- An integer of 64 bits. -/
  | whole64
  /-- Any number. -/
  | number
  /-- An instant, written to the second. -/
  | moment
  /-- An instant, written to the microsecond. -/
  | fineMoment
  /-- Bytes in base 64; `null` stands for none. -/
  | bytes
  /-- Any value. -/
  | any
  /-- A list. -/
  | list (item : Shape)
  /-- Values by names of any kind. -/
  | table (value : Shape)
  /-- One of two shapes. -/
  | either (first second : Shape)
  /-- An object with these fields. -/
  | record (fields : List (Shape.Field Shape))

namespace Shape

/-- Fields that are not written if they are unset. -/
def free (shape : Shape) (names : List String) : List (Field Shape) :=
  names.map fun name => { name, isWritten := false, shape }

/-- Fields that are always written. -/
def written (shape : Shape) (names : List String) : List (Field Shape) :=
  names.map fun name => { name, isWritten := true, shape }

/-- A list of texts. -/
def texts : Shape := .list .text

/-- Texts by name. -/
def labels : Shape := .table .text

/-- An amount, which is a text. -/
def amount : Shape := .text

/-- Amounts by name. -/
def amounts : Shape := .table amount

/-- A number or a name, such as that of a network channel of a container. -/
def wholeOrText : Shape := .either .whole32 .text

/-! ### Values that are unset -/

mutual

/-- The value with which an unset field is written. -/
def empty : Shape → Json
  | .text | .bytes => .str ""
  | .flag => .bool false
  | .whole32 | .whole64 | .number => .int 0
  | .moment => .str "1970-01-01T00:00:00Z"
  | .fineMoment => .str "1970-01-01T00:00:00.000000Z"
  | .any => .null
  | .list _ => .arr []
  | .table _ => .obj []
  | .either first _ => first.empty
  | .record fields => .obj (emptyFields fields)

/-- The fields that are always written, all of them unset. -/
def emptyFields : List (Field Shape) → List (String × Json)
  | [] => []
  | ⟨name, isWritten, shape⟩ :: rest =>
    if isWritten then (name, shape.empty) :: emptyFields rest else emptyFields rest

end

/-! ### Values of no given shape -/

mutual

/-- A value without any part that is torn; of fields of one name the last one stays. -/
def sound? : Json → Option Json
  | .torn => none
  | .arr items => (soundItems? items).map .arr
  | .obj fields => (soundFields? fields).map .obj
  | j => some j

/-- A list of sound values. -/
def soundItems? : List Json → Option (List Json)
  | [] => some []
  | v :: rest => do
    let v ← sound? v
    let rest ← soundItems? rest
    some (v :: rest)

/-- Fields with sound values. -/
def soundFields? : List (String × Json) → Option (List (String × Json))
  | [] => some []
  | (name, v) :: rest => do
    let v ← sound? v
    let rest ← soundFields? rest
    some (if rest.any (·.1 == name) then rest else (name, v) :: rest)

end

/-! ### Reading -/

/-- The text itself, if it denotes bytes. -/
def readBytes? : Json → Option Json
  | .null => some (.str "")
  | .str s => (Base64.decode? s.toList).map fun _ => .str s
  | _ => none

/-- Named values, of those of one name only the last. -/
def lastOfEach (fields : List (String × Json)) : List (String × Json) :=
  fields.foldr (fun f rest => if rest.any (·.1 == f.1) then rest else f :: rest) []

mutual

/-- A value of a shape, as it is written. -/
def read? : Shape → Json → Option Json
  | .text, j => j.str?.map .str
  | .flag, j => j.bool?.map .bool
  | .whole32, j => j.signed32?.map .int
  | .whole64, j => j.signed64?.map .int
  | .number, j => match j with
    | .int n => some (.int n)
    | .real literal => some (.real literal)
    | _ => none
  | .moment, j => (j.str?.bind Instant.read?).map fun t => .str t.seconds
  | .fineMoment, j => (j.str?.bind Instant.read?).map fun t => .str t.micros
  | .bytes, j => readBytes? j
  | .any, j => sound? j
  | .list item, j => (j.list? item.read?).map .arr
  | .table value, j => do
    let fields ← j.fields?
    let entries ← fields.mapM fun f => (value.read? f.2).map (f.1, ·)
    some (.obj (lastOfEach entries))
  | .either first second, j => (first.read? j).or (second.read? j)
  | .record fields, j => j.fields?.bind fun given => (readFields? fields given).map .obj

/-- The fields of a record out of the fields that are given, as they are written. -/
def readFields? : List (Field Shape) → List (String × Json) → Option (List (String × Json))
  | [], _ => some []
  | ⟨name, isWritten, shape⟩ :: rest, given => do
    let value ← Json.last? shape.read? name given
    let others ← readFields? rest given
    let value := if isWritten then some (value.getD shape.empty) else value
    some ((value.map (name, ·)).toList ++ others)

end

end Shape

end Proctor
