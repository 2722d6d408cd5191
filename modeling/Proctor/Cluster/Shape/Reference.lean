import Proctor.Cluster.Shape

/-!
# References and metadata

The shapes of metadata, and of the small records with which one object points at another or picks
out a part of it.
-/

namespace Proctor

open Shape (free written)

/-! ### Metadata -/

namespace ObjectMeta

/-- Who has set which fields of an object. -/
def managedFields : Shape := .record (
  free .text ["apiVersion", "fieldsType", "manager", "operation", "subresource"] ++
  free .any ["fieldsV1"] ++ free .moment ["time"])

/-- The fields of metadata that the controller neither sets nor reads. -/
def otherFields : List (Shape.Field Shape) :=
  free .whole64 ["deletionGracePeriodSeconds"] ++ free .moment ["deletionTimestamp"] ++
  free Shape.texts ["finalizers"] ++ free (.list managedFields) ["managedFields"] ++
  free .text ["selfLink"]

end ObjectMeta

namespace Shape

/-- A reference to an owner. -/
def owner : Shape := .record (
  written .text ["apiVersion", "kind", "name", "uid"] ++
  free .flag ["blockOwnerDeletion", "controller"])

/-- The metadata of an object. -/
def metadata : Shape := .record (
  free .text ["generateName", "name", "namespace", "resourceVersion", "uid"] ++
  free labels ["annotations", "labels"] ++ free .moment ["creationTimestamp"] ++
  free .whole64 ["generation"] ++ free (.list owner) ["ownerReferences"] ++
  ObjectMeta.otherFields)

/-! ### Objects -/

/-- A reference to an object of any kind. -/
def object : Shape := .record (free .text
  ["apiVersion", "fieldPath", "kind", "name", "namespace", "resourceVersion", "uid"])

/-- A reference to an object by its name alone. -/
def namedObject : Shape := .record (written .text ["name"])

/-- A reference to an object that need not be there. -/
def optionalObject : Shape := .record (written .text ["name"] ++ free .flag ["optional"])

/-- A reference to an object that has a kind, in the same namespace. -/
def kindObject : Shape := .record (written .text ["kind", "name"] ++ free .text ["apiGroup"])

/-- A reference to an object that has a kind, in any namespace. -/
def placedObject : Shape := .record (
  written .text ["kind", "name"] ++ free .text ["apiGroup", "namespace"])

/-! ### Parts of objects -/

/-- One entry of a ConfigMap or Secret. -/
def entry : Shape := .record (written .text ["key", "name"] ++ free .flag ["optional"])

/-- An entry that is put into a file. -/
def entryFile : Shape := .record (written .text ["key", "path"] ++ free .whole32 ["mode"])

/-- A field of an object. -/
def objectField : Shape := .record (written .text ["fieldPath"] ++ free .text ["apiVersion"])

/-- An amount of a container. -/
def resourceField : Shape := .record (
  written .text ["resource"] ++ free .text ["containerName"] ++ free amount ["divisor"])

/-! ### Selectors and amounts -/

/-- A condition on the value of a key. -/
def condition : Shape := .record (written .text ["key", "operator"] ++ free texts ["values"])

/-- A choice of objects by their labels. -/
def selector : Shape := .record (
  free (.list condition) ["matchExpressions"] ++ free labels ["matchLabels"])

/-- What is asked for at least and granted at most. -/
def shares : List (Field Shape) := free amounts ["limits", "requests"]

/-- The resources of a container or Pod. -/
def resources : Shape := .record (
  free (.list (.record (written .text ["name"] ++ free .text ["request"]))) ["claims"] ++ shares)

end Shape

/-! ### Objects without a spec -/

/-- The fields of a ConfigMap beside its metadata and texts. -/
def ConfigMap.otherFields : List (Shape.Field Shape) :=
  free (.table .bytes) ["binaryData"] ++ free .flag ["immutable"]

/-- The fields of a ServiceAccount beside its metadata. -/
def ServiceAccount.otherFields : List (Shape.Field Shape) :=
  free .flag ["automountServiceAccountToken"] ++
  free (.list Shape.namedObject) ["imagePullSecrets"] ++ free (.list Shape.object) ["secrets"]

/-- The fields of a rule that the controller does not set. -/
def PolicyRule.otherFields : List (Shape.Field Shape) :=
  free Shape.texts ["nonResourceURLs", "resourceNames"]

end Proctor
