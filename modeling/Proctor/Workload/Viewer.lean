import Proctor.Cluster.Objects
import Proctor.Test.Basic
import Proctor.Workload.Labels

/-!
# The viewer identity

Every namespace in which tests run gets one identity that may read, but not change, what a test
works with. Its objects belong to all Tests of the namespace and have no owner.
-/

namespace Proctor

namespace Viewer

/-- The name of the identity, its Role and their binding. -/
def name : String := "yaks-viewer"

/-- The metadata of the three objects. -/
def metadata (namespaceName : String) : ObjectMeta :=
  { name := some name, namespaceName := some namespaceName, labels := some appLabels }

/-- Leave to read resources of an API group. -/
def readRule (group : String) (resources : List String) : PolicyRule :=
  { apiGroups := some [group], resources := some resources, verbs := ["get", "list", "watch"] }

/-- What the identity may read. -/
def rules : List PolicyRule :=
  [readRule "" ["pods", "pods/log", "services", "endpoints", "configmaps",
      "persistentvolumeclaims", "events"],
    readRule "apps" ["deployments", "replicasets", "statefulsets"],
    readRule Test.group ["tests"]]

/-- The identity. -/
def serviceAccount (namespaceName : String) : ServiceAccount :=
  { metadata := metadata namespaceName }

/-- Its Role. -/
def role (namespaceName : String) : Role :=
  { metadata := metadata namespaceName, rules := some rules }

/-- The Role given to the identity. -/
def roleBinding (namespaceName : String) : RoleBinding :=
  { metadata := metadata namespaceName
    roleRef := { apiGroup := accessGroup, kind := "Role", name }
    subjects := some [{ kind := "ServiceAccount", name, namespaceName := some namespaceName }] }

end Viewer

end Proctor
