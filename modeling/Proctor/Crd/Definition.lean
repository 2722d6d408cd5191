import Proctor.Crd.Schema
import Proctor.Test.Codec

/-!
# The resource definition of Tests

The definition that tells the cluster about Tests: their names, the columns under which they are
listed, and the schema of what may be stored.
-/

namespace Proctor.Definition

/-! ### Schemas of the parts -/

/-- A text. -/
def text (description : String) : Schema := .text { description := some description } []

/-- A text that may be unset. -/
def unsetText (description : String) : Schema :=
  .text { description := some description, nullable := true } []

/-- A text that is empty when it is absent. -/
def emptyText (description : String) : Schema :=
  .text { description := some description, default := some (.str "") } []

/-- A list of texts. -/
def texts (description : String) : Schema :=
  .list { description := some description } (.text {} [])

/-- A count that is zero when it is absent. -/
def counted (description : String) : Schema :=
  .count { description := some description, default := some (.int 0) }

/-- An instant that may be unset. -/
def unsetInstant (description : String) : Schema :=
  .instant { description := some description, nullable := true }

/-- The schema of a source. -/
def source : Schema :=
  .record { description := some "Test source" } [
    ("name", text "File name the source is mounted as (e.g. `hello.feature`)"),
    ("content", emptyText "Source content"),
    ("language", .text
      { description := some "Source language", default := some (.str Language.feature.wire) }
      (Language.all.map Language.wire))] ["name"]

/-- The schema of settings. -/
def settings : Schema :=
  .record { description := some "Optional runtime settings", nullable := true } [
    ("name", unsetText "File name of the settings file"),
    ("content", emptyText "Settings content or inline dependency list")] []

/-- The schema of a further file. -/
def resource : Schema :=
  .record { description := some "An additional file placed next to the test source" } [
    ("name", text "File name"),
    ("content", emptyText "File content")] ["name"]

/-- The schema of a spec. -/
def spec : Schema :=
  .record { description := some "A test to run in the cluster" } [
    ("source", source),
    ("settings", settings),
    ("env", texts "Extra environment variables as `KEY=VALUE` entries"),
    ("resources", .list { description := some "Extra files mounted next to the source" } resource),
    ("secret", unsetText "Name of a Secret mounted into the test Pod")] ["source"]

/-- The schema of the counts of a report. -/
def summary : Schema :=
  .record { description := some "Aggregated counts", default := some (Summary.toJson {}) } [
    ("total", counted "Number of scenarios executed"),
    ("passed", counted "Scenarios that passed"),
    ("failed", counted "Scenarios that failed"),
    ("skipped", counted "Scenarios that were skipped"),
    ("pending", counted "Scenarios left pending"),
    ("undefined", counted "Scenarios with undefined steps"),
    ("errors", counted "Scenarios that errored outside of an assertion")] []

/-- The schema of how a scenario fared. -/
def scenarioResult : Schema :=
  .record { description := some "Outcome of a single scenario" } [
    ("name", text "Scenario name"),
    ("className", unsetText "Class or feature the scenario belongs to"),
    ("errorType", unsetText "Error type, when the scenario failed"),
    ("errorMessage", unsetText "Error message, when the scenario failed")] ["name"]

/-- The schema of a report. -/
def report : Schema :=
  .record { description := some "Aggregated results reported by the worker", nullable := true } [
    ("summary", summary),
    ("tests", .list { description := some "Per-scenario detail" } scenarioResult)] []

/-- The schema of a status. -/
def status : Schema :=
  .record { description := some "Status of a Test", nullable := true } [
    ("phase", .text
      { description := some "Current phase of the test lifecycle", default := some (.str "") }
      (Phase.all.map Phase.wire)),
    ("testID", unsetText "Identifier of the current generation"),
    ("digest", unsetText "Fingerprint of the spec and controller version at initialization"),
    ("version", unsetText "Controller version that initialized this generation"),
    ("results", report),
    ("errors", texts "Terminal error messages"),
    ("startedAt", unsetInstant "When the worker Pod was started"),
    ("completedAt", unsetInstant "When the test reached a terminal phase")] []

/-! ### The definition -/

/-- The schema of a Test. -/
def schema : Json :=
  .obj [
    ("title", .str Test.kind),
    ("description", .str "Auto-generated derived type for TestSpec via `CustomResource`"),
    ("type", .str "object"),
    ("properties", .obj [("spec", spec.toJson), ("status", status.toJson)]),
    ("required", .ofTexts ["spec"])]

/-- A column under which Tests are listed. -/
def column (name type path : String) : Json :=
  .obj [("name", .str name), ("type", .str type), ("jsonPath", .str path)]

/-- The name of the definition. -/
def name : String := "tests." ++ Test.group

/-- The names of Tests. -/
def names : Json :=
  .obj [
    ("categories", .arr []), ("kind", .str Test.kind), ("plural", .str "tests"),
    ("shortNames", .ofTexts ["yt"]), ("singular", .str "test")]

/-- The one version of Tests. -/
def version : Json :=
  .obj [
    ("additionalPrinterColumns", .arr [
      column "Phase" "string" ".status.phase",
      column "Passed" "integer" ".status.results.summary.passed",
      column "Failed" "integer" ".status.results.summary.failed",
      column "Age" "date" ".metadata.creationTimestamp"]),
    ("name", .str "v1alpha1"),
    ("schema", .obj [("openAPIV3Schema", schema)]),
    ("served", .bool true),
    ("storage", .bool true),
    ("subresources", .obj [("status", .obj [])])]

/-- The API version of definitions. -/
def apiVersion : String := "apiextensions.k8s.io/v1"

/-- The kind of definitions. -/
def kind : String := "CustomResourceDefinition"

/-- The definition of Tests. -/
def toJson : Json :=
  .obj [
    ("apiVersion", .str apiVersion),
    ("kind", .str kind),
    ("metadata", .obj [("name", .str name)]),
    ("spec", .obj [
      ("group", .str Test.group),
      ("names", names),
      ("scope", .str "Namespaced"),
      ("versions", .arr [version])])]

end Proctor.Definition
