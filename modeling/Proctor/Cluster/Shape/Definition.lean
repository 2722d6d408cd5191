import Proctor.Cluster.Shape.Reference

/-!
# Fields of resource definitions

The shapes of what the cluster answers about a resource definition. A schema holds schemas of its
own kind; as an answer nests no deeper than `deepest`, that many levels of them say all there is.
-/

namespace Proctor

open Shape (free written)

namespace Shape

/-! ### Schemas -/

/-- How deep an answer nests at most. -/
def deepest : Nat := 128

/-- A rule that a value has to follow. -/
def valueRule : Shape := .record (
  written .text ["rule"] ++ free .text ["fieldPath", "message", "messageExpression", "reason"] ++
  free .flag ["optionalOldSelf"])

/-- The fields of a schema that hold no schema. -/
def schemaLeaves : List (Field Shape) :=
  free .text [
    "$ref", "$schema", "description", "format", "id", "pattern", "title", "type",
    "x-kubernetes-list-type", "x-kubernetes-map-type"] ++
  free .any ["default", "example"] ++ free (.list .any) ["enum"] ++
  free .flag [
    "exclusiveMaximum", "exclusiveMinimum", "nullable", "uniqueItems",
    "x-kubernetes-embedded-resource", "x-kubernetes-int-or-string",
    "x-kubernetes-preserve-unknown-fields"] ++
  free (.record (free .text ["description", "url"])) ["externalDocs"] ++
  free .whole64 [
    "maxItems", "maxLength", "maxProperties", "minItems", "minLength", "minProperties"] ++
  free .number ["maximum", "minimum", "multipleOf"] ++
  free texts ["required", "x-kubernetes-list-map-keys"] ++
  free (.list valueRule) ["x-kubernetes-validations"]

/-- A schema with so many levels of schemas. -/
def schema : Nat → Shape
  | 0 => .any
  | levels + 1 =>
    let inner := schema levels
    .record (
      schemaLeaves ++ free inner ["not"] ++ free (.list inner) ["allOf", "anyOf", "oneOf"] ++
      free (.table inner) ["definitions", "patternProperties", "properties"] ++
      free (.either inner .flag) ["additionalItems", "additionalProperties"] ++
      free (.either inner (.list inner)) ["items"] ++
      free (.table (.either inner texts)) ["dependencies"])

/-! ### Definitions -/

/-- The names of a resource. -/
def resourceNames : Shape := .record (
  written .text ["kind", "plural"] ++ free texts ["categories", "shortNames"] ++
  free .text ["listKind", "singular"])

/-- A column of a listing. -/
def listingColumn : Shape := .record (
  written .text ["jsonPath", "name", "type"] ++ free .text ["description", "format"] ++
  free .whole32 ["priority"])

/-- The parts of a resource that are written on their own. -/
def resourceParts : Shape := .record (
  free (.record (
    written .text ["specReplicasPath", "statusReplicasPath"] ++
    free .text ["labelSelectorPath"])) ["scale"] ++
  free .any ["status"])

/-- A version of a resource. -/
def resourceVersion : Shape := .record (
  written .text ["name"] ++ written .flag ["served", "storage"] ++
  free (.list listingColumn) ["additionalPrinterColumns"] ++ free .flag ["deprecated"] ++
  free .text ["deprecationWarning"] ++
  free (.record (free (schema deepest) ["openAPIV3Schema"])) ["schema"] ++
  free (.list (.record (written .text ["jsonPath"]))) ["selectableFields"] ++
  free resourceParts ["subresources"])

/-- How versions of a resource are turned into each other. -/
def conversion : Shape := .record (
  written .text ["strategy"] ++
  free (.record (
    written texts ["conversionReviewVersions"] ++
    free (.record (
      free .bytes ["caBundle"] ++ free .text ["url"] ++
      free (.record (
        written .text ["name", "namespace"] ++ free .text ["path"] ++ free .whole32 ["port"]))
        ["service"])) ["clientConfig"])) ["webhook"])

/-- The fields of a resource definition. -/
def definitionFields : List (Field Shape) :=
  written metadata ["metadata"] ++
  written (.record (
    written .text ["group", "scope"] ++ written resourceNames ["names"] ++
    written (.list resourceVersion) ["versions"] ++ free conversion ["conversion"] ++
    free .flag ["preserveUnknownFields"])) ["spec"] ++
  free (.record (
    free resourceNames ["acceptedNames"] ++
    free (.list (.record (
      written .text ["status", "type"] ++ free .moment ["lastTransitionTime"] ++
      free .text ["message", "reason"]))) ["conditions"] ++
    free texts ["storedVersions"])) ["status"]

end Shape

end Proctor
