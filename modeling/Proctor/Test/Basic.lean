import Proctor.Cluster.Meta
import Proctor.Test.Phase
import Proctor.Test.Report
import Proctor.Test.Spec

/-!
# Tests

A Test is a resource of the cluster: what is asked for, and what the controller has recorded about
it. A Test without a status stands in no phase.
-/

namespace Proctor

/-- What the controller has recorded about a Test. -/
structure Status where
  /-- Where the Test stands. -/
  phase : Phase := .unset
  /-- The id of the current generation. -/
  testId : Option String := none
  /-- The fingerprint of what the generation was begun with. -/
  digest : Option String := none
  /-- The version of the controller that began the generation. -/
  version : Option String := none
  /-- The report of the run. -/
  results : Option Report := none
  /-- What went wrong. -/
  errors : List String := []
  /-- When the workload was applied. -/
  startedAt : Option Instant := none
  /-- When the run was over. -/
  completedAt : Option Instant := none
  deriving DecidableEq, Inhabited

/-- A test to run in the cluster. -/
structure Test where
  /-- Its metadata. -/
  metadata : ObjectMeta
  /-- What is asked for. -/
  spec : Spec
  /-- What has been recorded. -/
  status : Option Status := none
  deriving DecidableEq, Inhabited

namespace Test

/-- The API group of Tests. -/
def group : String := "yaks.citrusframework.org"

/-- The API version of Tests, with its group. -/
def apiVersion : String := group ++ "/v1alpha1"

/-- The kind of Tests. -/
def kind : String := "Test"

/-- The phase. -/
def phase (t : Test) : Phase := (t.status.map Status.phase).getD .unset

/-- The id of the current generation. -/
def testId? (t : Test) : Option String := t.status.bind Status.testId

/-- The name, or what stands for it. -/
def nameAny (t : Test) : String := t.metadata.nameAny

/-- The Test with its status changed; a missing one begins empty. -/
def withStatus (t : Test) (change : Status → Status) : Test :=
  { t with status := some (change (t.status.getD {})) }

/-- The reference to a Test as the controller of another object, if the Test is stored. -/
def ownerReference? (t : Test) : Option OwnerReference := do
  let name ← t.metadata.name
  let uid ← t.metadata.uid
  some { apiVersion, kind, name, uid, controller := some true }

@[simp] theorem phase_withStatus (t : Test) (change : Status → Status) :
    (t.withStatus change).phase = (change (t.status.getD {})).phase := rfl

@[simp] theorem spec_withStatus (t : Test) (change : Status → Status) :
    (t.withStatus change).spec = t.spec := rfl

@[simp] theorem metadata_withStatus (t : Test) (change : Status → Status) :
    (t.withStatus change).metadata = t.metadata := rfl

end Test

end Proctor
