import Proctor.Cluster.Meta
import Proctor.Cluster.Shape.Reference

/-!
# Metadata in JSON

How the metadata of a cluster object is read and written. Only an object is read, unknown fields
are passed over, and what is unset is not written.
-/

namespace Proctor

namespace StringMap

/-- A named text. -/
def namedText? (field : String × Json) : Option (String × String) :=
  field.2.str?.map (field.1, ·)

/-- A map from an object whose values are all texts. -/
def read? (j : Json) : Option StringMap := do
  let fields ← j.fields?
  let entries ← fields.mapM namedText?
  some (ofList entries)

/-- The object of a map. -/
def toJson (m : StringMap) : Json := .obj (m.entries.map fun e => (e.1, .str e.2))

end StringMap

namespace Instant

/-- An instant from the text that denotes it. -/
def readJson? (j : Json) : Option Instant := j.str?.bind read?

end Instant

namespace OwnerReference

/-- A reference to an owner; a text that is not given is empty. -/
def read? (j : Json) : Option OwnerReference := do
  let fields ← j.fields?
  let apiVersion ← Json.last? Json.str? "apiVersion" fields
  let kind ← Json.last? Json.str? "kind" fields
  let name ← Json.last? Json.str? "name" fields
  let uid ← Json.last? Json.str? "uid" fields
  let controller ← Json.last? Json.bool? "controller" fields
  let blockOwnerDeletion ← Json.last? Json.bool? "blockOwnerDeletion" fields
  some {
    apiVersion := apiVersion.getD "", kind := kind.getD "", name := name.getD "",
    uid := uid.getD "", controller, blockOwnerDeletion }

/-- The object of a reference. -/
def toJson (o : OwnerReference) : Json :=
  .ofFields [
    ("apiVersion", some (.str o.apiVersion)),
    ("blockOwnerDeletion", o.blockOwnerDeletion.map .bool),
    ("controller", o.controller.map .bool),
    ("kind", some (.str o.kind)),
    ("name", some (.str o.name)),
    ("uid", some (.str o.uid))]

end OwnerReference

namespace ObjectMeta

/-- The metadata in an object. -/
def read? (j : Json) : Option ObjectMeta := do
  let fields ← j.fields?
  let name ← Json.last? Json.str? "name" fields
  let generateName ← Json.last? Json.str? "generateName" fields
  let namespaceName ← Json.last? Json.str? "namespace" fields
  let uid ← Json.last? Json.str? "uid" fields
  let resourceVersion ← Json.last? Json.str? "resourceVersion" fields
  let labels ← Json.last? StringMap.read? "labels" fields
  let annotations ← Json.last? StringMap.read? "annotations" fields
  let generation ← Json.last? Json.signed64? "generation" fields
  let creationTimestamp ← Json.last? Instant.readJson? "creationTimestamp" fields
  let ownerReferences ← Json.last? (Json.list? OwnerReference.read?) "ownerReferences" fields
  let others ← Shape.readFields? otherFields fields
  some {
    name, generateName, namespaceName, uid, resourceVersion, labels, annotations, generation,
    creationTimestamp, ownerReferences, others }

/-- The object of the metadata. -/
def toJson (m : ObjectMeta) : Json :=
  .record m.others [
    ("annotations", m.annotations.map StringMap.toJson),
    ("creationTimestamp", m.creationTimestamp.map fun t => .str t.seconds),
    ("generateName", m.generateName.map .str),
    ("generation", m.generation.map .int),
    ("labels", m.labels.map StringMap.toJson),
    ("name", m.name.map .str),
    ("namespace", m.namespaceName.map .str),
    ("ownerReferences", m.ownerReferences.map fun os => .arr (os.map OwnerReference.toJson)),
    ("resourceVersion", m.resourceVersion.map .str),
    ("uid", m.uid.map .str)]

end ObjectMeta

end Proctor
