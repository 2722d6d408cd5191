import Proctor.Api.Channel
import Proctor.Api.Patch
import Proctor.Cluster.Codec
import Proctor.Config

/-!
# A client for the API server

The calls that the controller makes, as requests over a channel.
-/

namespace Proctor.Client

/-- Where the objects of a manifest's kind are found. -/
def collection : Manifest → Collection
  | .configMap _ => .configMaps
  | .pod _ => .pods
  | .serviceAccount _ => .serviceAccounts
  | .role _ => .roles
  | .roleBinding _ => .roleBindings

/-- What was said, with its faults as faults of the controller. -/
def lift {α : Type} (t : Talk α) (c : Channel) : Except Fault α × Channel :=
  match t.run c with
  | (.ok a, c) => (.ok a, c)
  | (.error f, c) => (.error (.api f), c)

/-- The Test of that name, if there is one. -/
def getTest (namespaceName name : String) : Channel → Except Fault (Option Test) × Channel :=
  lift (Talk.expect? Test.read? (Request.fetch (Collection.tests.path (some namespaceName)) name))

/-- The Pod of that name, if there is one. -/
def getPod (namespaceName name : String) : Channel → Except Fault (Option Pod) × Channel :=
  lift (Talk.expect? Pod.read? (Request.fetch (Collection.pods.path (some namespaceName)) name))

/-- The status of a Test is written under the version that the Test carries. -/
def writeStatus (t : Test) (c : Channel) : Except Fault Test × Channel :=
  match t.metadata.namespaceName with
  | none => (.error (.invalid t.nameAny .noNamespace), c)
  | some namespaceName =>
    lift (Talk.expect Test.read? (Request.merge [("fieldManager", controllerName)]
      (Collection.tests.path (some namespaceName)) t.nameAny "/status" t.statusPatch)) c

/-- The manifest itself, if a value is an object of its kind. -/
def accepted (m : Manifest) (j : Json) : Option Unit := if m.accepts j then some () else none

/-- An object is applied. -/
def apply (m : Manifest) (c : Channel) : Except Fault Unit × Channel :=
  match m.metadata.name, m.metadata.namespaceName with
  | none, _ => (.error (.internal (.unnamed m.kind)), c)
  | some name, none => (.error (.internal (.unplaced m.kind name)), c)
  | some name, some namespaceName =>
    lift (Talk.expect (accepted m) (Request.apply controllerName
      ((collection m).path (some namespaceName)) name m.toJson)) c

end Proctor.Client
