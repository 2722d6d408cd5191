import Proctor.Api.Address
import Proctor.Fault
import Proctor.Json.Basic

/-!
# Requests to the API server

Where objects of each kind are found, and the requests that fetch, write and apply them. A request
about one object needs a name. Names and namespaces are put into the address as they are, so one
that holds a mark of addresses asks for something else.
-/

namespace Proctor

/-- What a request does. -/
inductive Method where
  /-- It fetches. -/
  | get
  /-- It changes. -/
  | patch
  /-- It makes. -/
  | post
  deriving DecidableEq, Repr

/-- The word for what a request does. -/
def Method.name : Method → String
  | .get => "GET"
  | .patch => "PATCH"
  | .post => "POST"

/-- A request. -/
structure Request where
  /-- What it does. -/
  method : Method
  /-- The path of its address. -/
  path : String := ""
  /-- The names and values behind the path. -/
  query : List (String × String) := []
  /-- The kind of its body. -/
  contentType : Option String := none
  /-- Its body. -/
  body : Option Json := none

/-- Where the objects of a kind are found. -/
structure Collection where
  /-- The path of the API group and version. -/
  root : String
  /-- The name of the collection. -/
  plural : String
  deriving DecidableEq, Repr

namespace Collection

/-- The Tests. -/
def tests : Collection := ⟨"/apis/yaks.citrusframework.org/v1alpha1", "tests"⟩

/-- The Pods. -/
def pods : Collection := ⟨"/api/v1", "pods"⟩

/-- The ConfigMaps. -/
def configMaps : Collection := ⟨"/api/v1", "configmaps"⟩

/-- The ServiceAccounts. -/
def serviceAccounts : Collection := ⟨"/api/v1", "serviceaccounts"⟩

/-- The Roles. -/
def roles : Collection := ⟨"/apis/rbac.authorization.k8s.io/v1", "roles"⟩

/-- The RoleBindings. -/
def roleBindings : Collection := ⟨"/apis/rbac.authorization.k8s.io/v1", "rolebindings"⟩

/-- The events. -/
def events : Collection := ⟨"/apis/events.k8s.io/v1", "events"⟩

/-- The resource definitions. -/
def definitions : Collection := ⟨"/apis/apiextensions.k8s.io/v1", "customresourcedefinitions"⟩

/-- The path of a collection, in one namespace or in all. -/
def path (c : Collection) (namespaceName : Option String) : String :=
  match namespaceName with
  | some n => c.root ++ "/namespaces/" ++ n ++ "/" ++ c.plural
  | none => c.root ++ "/" ++ c.plural

end Collection

namespace Request

/-- The same request at an address, if it is one. -/
def addressed (r : Request) (address : String) : Except ApiFault Request :=
  match Address.read address with
  | .ok a => .ok { r with path := a.path, query := a.query }
  | .error f => .error (.unaddressable f)

/-- The address of a path with names and values behind it. -/
def address (path : String) (query : List (String × String)) : String :=
  path ++ "?" ++ Form.writeAll query

/-- The path of one object of a collection, which needs a name, or of a part of it. -/
def about (collection name part : String) : Except ApiFault String :=
  if name = "" then .error .emptyName else .ok (collection ++ "/" ++ name ++ part)

/-- An object is fetched. -/
def fetch (collection name : String) : Except ApiFault Request := do
  addressed { method := .get } (← about collection name "")

/-- An object is brought to what is given, whoever else has set it. -/
def apply (manager collection name : String) (body : Json) : Except ApiFault Request := do
  let path ← about collection name ""
  addressed
    { method := .patch, contentType := some "application/apply-patch+yaml", body := some body }
    (address path [("fieldManager", manager), ("force", "true")])

/-- A part of an object is changed. -/
def merge (query : List (String × String)) (collection name part : String) (body : Json) :
    Except ApiFault Request := do
  let path ← about collection name part
  addressed
    { method := .patch, contentType := some "application/merge-patch+json", body := some body }
    (address path query)

/-- An object is made. -/
def make (collection : String) (body : Json) : Except ApiFault Request :=
  addressed { method := .post, contentType := some "application/json", body := some body }
    (address collection [])

/-- A collection is listed. -/
def list (collection : String) (selector : Option String) : Except ApiFault Request :=
  addressed { method := .get } (address collection
    ((selector.map fun s => ("labelSelector", s)).toList ++ [("limit", "500")]))

/-- A collection is watched, for so many seconds, from a version on. -/
def watch (collection : String) (selector : Option String) (secs : Nat) (version : String) :
    Except ApiFault Request :=
  addressed { method := .get } (address collection
    ([("watch", "true"), ("timeoutSeconds", toString secs), ("allowWatchBookmarks", "true"),
      ("resourceVersion", version)] ++ (selector.map fun s => ("labelSelector", s)).toList))

end Request

end Proctor
