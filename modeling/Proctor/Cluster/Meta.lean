import Proctor.Json.Equality
import Proctor.StringMap
import Proctor.Time.Instant

/-!
# Metadata of cluster objects

What every object of the cluster carries beside its own content: its name and namespace, who owns
it, and the version that guards its next write.
-/

namespace Proctor

/-- A reference to the object that owns another one. -/
structure OwnerReference where
  /-- The API version of the owner. -/
  apiVersion : String
  /-- The kind of the owner. -/
  kind : String
  /-- The name of the owner. -/
  name : String
  /-- The identity of the owner. -/
  uid : String
  /-- The owner is the object's controller. -/
  controller : Option Bool := none
  /-- The owner waits for the object to be gone. -/
  blockOwnerDeletion : Option Bool := none
  deriving DecidableEq

/-- The metadata of an object; every part may be unset. -/
structure ObjectMeta where
  /-- The name. -/
  name : Option String := none
  /-- The beginning of a name that the cluster completes. -/
  generateName : Option String := none
  /-- The namespace. -/
  namespaceName : Option String := none
  /-- The identity, given by the cluster. -/
  uid : Option String := none
  /-- The version that a write has to know. -/
  resourceVersion : Option String := none
  /-- The labels. -/
  labels : Option StringMap := none
  /-- The annotations. -/
  annotations : Option StringMap := none
  /-- How often the spec was changed. -/
  generation : Option Int := none
  /-- When the object was made. -/
  creationTimestamp : Option Instant := none
  /-- The owners. -/
  ownerReferences : Option (List OwnerReference) := none
  /-- The fields that only the cluster uses, as they are written. -/
  others : List (String × Json) := []
  deriving DecidableEq, Inhabited

/-- The name, else the beginning of one, else nothing. -/
def ObjectMeta.nameAny (m : ObjectMeta) : String :=
  match m.name with
  | some name => name
  | none => m.generateName.getD ""

end Proctor
