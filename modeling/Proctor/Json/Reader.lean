import Proctor.Json.Token

/-!
# Reading JSON

The value of a JSON text. Tokens are folded into a value by a machine that keeps the open arrays
and objects on a stack, so that values nest to any depth. The reader is strict: one value, nothing
after it, and no comma before a closing mark. An object one of whose names is torn is read to its
end and is torn as a whole.
-/

namespace Proctor.Json

/-- The fields of an object so far, last first; none if one of the names is torn. -/
abbrev FieldsSoFar := Option (List (String × Json))

/-- A field is added. -/
def FieldsSoFar.add (fields : FieldsSoFar) (name : Option String) (v : Json) : FieldsSoFar :=
  match fields, name with
  | some fields, some name => some ((name, v) :: fields)
  | _, _ => none

/-- The object of all fields. -/
def FieldsSoFar.value : FieldsSoFar → Json
  | some fields => .obj fields.reverse
  | none => .torn

/-- An array or object whose end is still to come. -/
inductive Frame where
  /-- The items so far, last first. -/
  | items (items : List Json)
  /-- The fields so far, and the name whose value comes next. -/
  | field (fields : FieldsSoFar) (name : Option String)

/-- What may come next. -/
inductive Reading where
  /-- A value. -/
  | value (stack : List Frame)
  /-- The first item of an array, or its end. -/
  | firstItem (stack : List Frame)
  /-- The first name of an object, or its end. -/
  | firstName (stack : List Frame)
  /-- A further name of an object. -/
  | nextName (fields : FieldsSoFar) (stack : List Frame)
  /-- The colon after a name. -/
  | colon (fields : FieldsSoFar) (name : Option String) (stack : List Frame)
  /-- A comma or a closing mark, after a value. -/
  | after (v : Json) (stack : List Frame)

namespace Reading

/-- A token where a value is due. -/
def value? (stack : List Frame) : Token → Option Reading
  | .scalar v => some (.after v stack)
  | .openArray => some (.firstItem stack)
  | .openObject => some (.firstName stack)
  | _ => none

/-- A token where a name is due. -/
def name? (fields : FieldsSoFar) (stack : List Frame) : Token → Option Reading
  | .scalar (.str name) => some (.colon fields (some name) stack)
  | .scalar .torn => some (.colon fields none stack)
  | _ => none

/-- A token is read. -/
def step? : Reading → Token → Option Reading
  | .value stack, t => value? stack t
  | .firstItem stack, .closeArray => some (.after (.arr []) stack)
  | .firstItem stack, t => value? (.items [] :: stack) t
  | .firstName stack, .closeObject => some (.after (.obj []) stack)
  | .firstName stack, t => name? (some []) stack t
  | .nextName fields stack, t => name? fields stack t
  | .colon fields name stack, .colon => some (.value (.field fields name :: stack))
  | .after v (.items items :: stack), .comma => some (.value (.items (v :: items) :: stack))
  | .after v (.items items :: stack), .closeArray =>
    some (.after (.arr (v :: items).reverse) stack)
  | .after v (.field fields name :: stack), .comma =>
    some (.nextName (fields.add name v) stack)
  | .after v (.field fields name :: stack), .closeObject =>
    some (.after (fields.add name v).value stack)
  | _, _ => none

/-- All tokens are read, and a value with nothing open is left. -/
def run? (r : Reading) : List Token → Option Json
  | [] =>
    match r with
    | .after v [] => some v
    | _ => none
  | t :: rest =>
    match r.step? t with
    | none => none
    | some next => run? next rest

end Reading

/-- The value of a JSON text. -/
def read? (text : String) : Option Json := do
  let tokens ← tokens? text
  Reading.run? (.value []) tokens

end Proctor.Json
