import Proctor.Cluster.MetaCodec
import Proctor.Json.Reader
import Proctor.Test.Basic

/-!
# Tests in JSON

How a Test and its parts are read and written. The parts are records, given by name or in order;
what has a value of its own when it is absent may be left out, and what may be unset may be `null`
as well.
-/

namespace Proctor

open Json (required orDefault optional record?)

/-! ### Reading -/

/-- A phase from its stored form. -/
def Phase.read? : Json → Option Phase := Json.choice? Phase.wire Phase.all

/-- A language from its name. -/
def Language.read? : Json → Option Language := Json.choice? Language.wire Language.all

/-- A source. -/
def Source.read? (j : Json) : Option Source := do
  let f ← record? ["name", "content", "language"] j
  let name ← required Json.str? (f "name")
  let content ← orDefault "" Json.str? (f "content")
  let language ← orDefault .feature Language.read? (f "language")
  some { name, content, language }

/-- Settings. -/
def Settings.read? (j : Json) : Option Settings := do
  let f ← record? ["name", "content"] j
  let name ← optional Json.str? (f "name")
  let content ← orDefault "" Json.str? (f "content")
  some { name, content }

/-- A further file. -/
def Resource.read? (j : Json) : Option Resource := do
  let f ← record? ["name", "content"] j
  let name ← required Json.str? (f "name")
  let content ← orDefault "" Json.str? (f "content")
  some { name, content }

/-- A spec. -/
def Spec.read? (j : Json) : Option Spec := do
  let f ← record? ["source", "settings", "env", "resources", "secret"] j
  let source ← required Source.read? (f "source")
  let settings ← optional Settings.read? (f "settings")
  let env ← orDefault [] (Json.list? Json.str?) (f "env")
  let resources ← orDefault [] (Json.list? Resource.read?) (f "resources")
  let secret ← optional Json.str? (f "secret")
  some { source, settings, env, resources, secret }

/-- The counts of a report. -/
def Summary.read? (j : Json) : Option Summary := do
  let f ← record? ["total", "passed", "failed", "skipped", "pending", "undefined", "errors"] j
  let count (name : String) : Option UInt32 := orDefault 0 Json.word32? (f name)
  let total ← count "total"
  let passed ← count "passed"
  let failed ← count "failed"
  let skipped ← count "skipped"
  let pending ← count "pending"
  let undefined ← count "undefined"
  let errors ← count "errors"
  some { total, passed, failed, skipped, pending, undefined, errors }

/-- How a scenario fared. -/
def ScenarioResult.read? (j : Json) : Option ScenarioResult := do
  let f ← record? ["name", "className", "errorType", "errorMessage"] j
  let name ← required Json.str? (f "name")
  let className ← optional Json.str? (f "className")
  let errorType ← optional Json.str? (f "errorType")
  let errorMessage ← optional Json.str? (f "errorMessage")
  some { name, className, errorType, errorMessage }

/-- A report. -/
def Report.read? (j : Json) : Option Report := do
  let f ← record? ["summary", "tests"] j
  let summary ← orDefault {} Summary.read? (f "summary")
  let tests ← orDefault [] (Json.list? ScenarioResult.read?) (f "tests")
  some { summary, tests }

/-- The report that a text holds. -/
def Report.ofText? (text : String) : Option Report := (Json.read? text).bind Report.read?

/-- A status. -/
def Status.read? (j : Json) : Option Status := do
  let f ← record? ["phase", "testID", "digest", "version", "results", "errors", "startedAt",
    "completedAt"] j
  let phase ← orDefault .unset Phase.read? (f "phase")
  let testId ← optional Json.str? (f "testID")
  let digest ← optional Json.str? (f "digest")
  let version ← optional Json.str? (f "version")
  let results ← optional Report.read? (f "results")
  let errors ← orDefault [] (Json.list? Json.str?) (f "errors")
  let startedAt ← optional Instant.readJson? (f "startedAt")
  let completedAt ← optional Instant.readJson? (f "completedAt")
  some { phase, testId, digest, version, results, errors, startedAt, completedAt }

/-- The fields of a Test, by name or all of them in order. -/
def Test.fields? (j : Json) : Option Json.Fields :=
  let names := ["metadata", "spec", "status"]
  match j with
  | .arr items => if items.length < names.length then none else record? names j
  | _ => record? names j

/-- A Test; its API version and kind are not looked at. -/
def Test.read? (j : Json) : Option Test := do
  let f ← Test.fields? j
  let metadata ← required ObjectMeta.read? (f "metadata")
  let spec ← required Spec.read? (f "spec")
  let status ← optional Status.read? (f "status")
  some { metadata, spec, status }

/-- The Test that a text holds. -/
def Test.ofText? (text : String) : Option Test := (Json.read? text).bind Test.read?

/-! ### Writing -/

/-- A list that is left out when it is empty. -/
def nonempty? {α : Type} (write : α → Json) : List α → Option Json
  | [] => none
  | items => some (.arr (items.map write))

/-- The object of a source. -/
def Source.toJson (s : Source) : Json :=
  .obj [("name", .str s.name), ("content", .str s.content), ("language", .str s.language.wire)]

/-- The object of settings. -/
def Settings.toJson (s : Settings) : Json :=
  .ofFields [("name", s.name.map .str), ("content", some (.str s.content))]

/-- The object of a further file. -/
def Resource.toJson (r : Resource) : Json :=
  .obj [("name", .str r.name), ("content", .str r.content)]

/-- The object of a spec. -/
def Spec.toJson (s : Spec) : Json :=
  .ofFields [
    ("source", some s.source.toJson),
    ("settings", s.settings.map Settings.toJson),
    ("env", nonempty? .str s.env),
    ("resources", nonempty? Resource.toJson s.resources),
    ("secret", s.secret.map .str)]

/-- The object of the counts. -/
def Summary.toJson (s : Summary) : Json :=
  .obj [
    ("total", .ofWord32 s.total), ("passed", .ofWord32 s.passed),
    ("failed", .ofWord32 s.failed), ("skipped", .ofWord32 s.skipped),
    ("pending", .ofWord32 s.pending), ("undefined", .ofWord32 s.undefined),
    ("errors", .ofWord32 s.errors)]

/-- The object of how a scenario fared. -/
def ScenarioResult.toJson (r : ScenarioResult) : Json :=
  .ofFields [
    ("name", some (.str r.name)),
    ("className", r.className.map .str),
    ("errorType", r.errorType.map .str),
    ("errorMessage", r.errorMessage.map .str)]

/-- The object of a report. -/
def Report.toJson (r : Report) : Json :=
  .ofFields [("summary", some r.summary.toJson), ("tests", nonempty? ScenarioResult.toJson r.tests)]

/-- The object of a status. -/
def Status.toJson (s : Status) : Json :=
  .ofFields [
    ("phase", some (.str s.phase.wire)),
    ("testID", s.testId.map .str),
    ("digest", s.digest.map .str),
    ("version", s.version.map .str),
    ("results", s.results.map Report.toJson),
    ("errors", nonempty? .str s.errors),
    ("startedAt", s.startedAt.map fun t => .str t.text),
    ("completedAt", s.completedAt.map fun t => .str t.text)]

/-- The object of a Test. -/
def Test.toJson (t : Test) : Json :=
  .ofFields [
    ("apiVersion", some (.str Test.apiVersion)),
    ("kind", some (.str Test.kind)),
    ("metadata", some t.metadata.toJson),
    ("spec", some t.spec.toJson),
    ("status", t.status.map Status.toJson)]

end Proctor
