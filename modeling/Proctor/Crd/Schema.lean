import Proctor.Json.Basic

/-!
# Schemas of stored resources

What the cluster checks of a resource before it stores it: the type of each value, the fields that
have to be there, the texts that are allowed, and where `null` may stand. Fields that a schema does
not name are allowed.
-/

namespace Proctor

/-- What a schema says beside the type of a value. -/
structure Remarks where
  /-- What the value is. -/
  description : Option String := none
  /-- The value may be `null`. -/
  nullable : Bool := false
  /-- The value that stands for an absent one. -/
  default : Option Json := none
  deriving Inhabited

/-- A schema. -/
inductive Schema where
  /-- A text; one of the choices if there are any. -/
  | text (r : Remarks) (choices : List String)
  /-- The text of an instant. -/
  | instant (r : Remarks)
  /-- A number that fits a word of 32 bits. -/
  | count (r : Remarks)
  /-- A list of values of one schema. -/
  | list (r : Remarks) (items : Schema)
  /-- An object with these fields, of which some have to be there. -/
  | record (r : Remarks) (fields : List (String × Schema)) (required : List String)
  deriving Inhabited

namespace Schema

/-- What is said beside the type. -/
def remarks : Schema → Remarks
  | .text r _ | .instant r | .count r | .list r _ | .record r _ _ => r

/-- The fields of a schema for what is said beside the type. -/
def ofRemarks (r : Remarks) : List (String × Json) :=
  (r.description.map fun d => ("description", Json.str d)).toList ++
    (if r.nullable then [("nullable", .bool true)] else []) ++
    (r.default.map fun d => ("default", d)).toList

mutual

/-- The object of a schema. -/
def toJson : Schema → Json
  | .text r choices =>
    .obj (("type", .str "string") :: ofRemarks r ++
      if choices = [] then [] else [("enum", .ofTexts choices)])
  | .instant r =>
    .obj (("type", .str "string") :: ("format", .str "date-time") :: ofRemarks r)
  | .count r =>
    .obj (("type", .str "integer") :: ("format", .str "uint32") :: ("minimum", .real "0.0") ::
      ofRemarks r)
  | .list r items => .obj (("type", .str "array") :: ("items", items.toJson) :: ofRemarks r)
  | .record r fields required =>
    .obj (("type", .str "object") :: ("properties", .obj (fieldsToJson fields)) :: ofRemarks r ++
      if required = [] then [] else [("required", .ofTexts required)])

/-- The fields of a record with the objects of their schemas. -/
def fieldsToJson : List (String × Schema) → List (String × Json)
  | [] => []
  | (name, s) :: rest => (name, s.toJson) :: fieldsToJson rest

end

end Schema

end Proctor
