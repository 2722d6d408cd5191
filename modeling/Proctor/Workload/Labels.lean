import Proctor.StringMap

/-!
# Names and labels of a generation

All objects of a generation share one name and carry the same labels, by which its Pods are found
again.
-/

namespace Proctor

namespace Label

/-- The label of everything that belongs to the controller. -/
def app : String := "app"

/-- The value of that label. -/
def appValue : String := "yaks"

/-- The label with the name of the Test. -/
def test : String := "test"

/-- The label with the id of the generation. -/
def testId : String := "test-id"

end Label

/-- The name of the objects of a generation. -/
def generationName (test id : String) : String := "test-" ++ test ++ "-" ++ id

/-- The labels of everything that belongs to the controller. -/
def appLabels : StringMap := .ofList [(Label.app, Label.appValue)]

/-- The labels of the objects of a generation. -/
def workloadLabels (test id : String) : StringMap :=
  .ofList [(Label.app, Label.appValue), (Label.test, test), (Label.testId, id)]

/-- The text that selects objects with all of these labels. -/
def labelSelector (labels : StringMap) : String :=
  ",".intercalate (labels.entries.map fun e => e.1 ++ "=" ++ e.2)

end Proctor
