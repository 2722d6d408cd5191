import Proctor.Api.Channel
import Proctor.Cluster.Codec
import Proctor.Config
import Proctor.Lifecycle.Reconcile

/-!
# Events in the cluster

Notices are kept in the cluster as events beside the object that they are about. A notice that
repeats one told before does not make a new event: the first one is changed to count its
repetitions. An event that the server did not take is as good as not told, and no one is troubled.
-/

namespace Proctor

/-- A reference in a value. -/
def ObjectReference.read? (j : Json) : Option ObjectReference := do
  let f ← j.fields?
  let apiVersion ← Json.last? Json.str? "apiVersion" f
  let kind ← Json.last? Json.str? "kind" f
  let name ← Json.last? Json.str? "name" f
  let namespaceName ← Json.last? Json.str? "namespace" f
  let uid ← Json.last? Json.str? "uid" f
  let resourceVersion ← Json.last? Json.str? "resourceVersion" f
  let fieldPath ← Json.last? Json.str? "fieldPath" f
  some { apiVersion, kind, name, namespaceName, uid, resourceVersion, fieldPath }

/-- The object of a reference. -/
def ObjectReference.toJson (r : ObjectReference) : Json :=
  .ofFields [
    ("apiVersion", r.apiVersion.map .str),
    ("fieldPath", r.fieldPath.map .str),
    ("kind", r.kind.map .str),
    ("name", r.name.map .str),
    ("namespace", r.namespaceName.map .str),
    ("resourceVersion", r.resourceVersion.map .str),
    ("uid", r.uid.map .str)]

/-- An event that was told. -/
structure EventRecord where
  /-- The name of the event. -/
  name : String
  /-- What was told. -/
  notice : Notice
  /-- Who told it. -/
  reporter : String
  /-- When it was told first. -/
  time : Instant
  /-- How often it was told, and when last, if that is more than once. -/
  series : Option (Nat × Instant) := none

namespace EventRecord

/-- The API version of events. -/
def apiVersion : String := "events.k8s.io/v1"

/-- The first event of a notice, named for its object and the time. -/
def first (notice : Notice) (reporter : String) (now : Instant) : EventRecord :=
  { name := notice.regarding.name.getD controllerName ++ "." ++ Text.hex now.unixNanos.toNat
    notice, reporter, time := now }

/-- The event told once more. -/
def again (e : EventRecord) (now : Instant) : EventRecord :=
  { e with series := some ((e.series.map (·.1 + 1)).getD 2, now) }

/-- The object of an event. -/
def toJson (e : EventRecord) : Json :=
  .ofFields [
    ("action", some (.str e.notice.event.action)),
    ("apiVersion", some (.str apiVersion)),
    ("eventTime", some (.str e.time.micros)),
    ("kind", some (.str "Event")),
    ("metadata", some (.ofFields [
      ("name", some (.str e.name)),
      ("namespace", e.notice.regarding.namespaceName.map .str)])),
    ("note", e.notice.note.map .str),
    ("reason", some (.str e.notice.event.reason)),
    ("regarding", some e.notice.regarding.toJson),
    ("reportingController", some (.str controllerName)),
    ("reportingInstance", some (.str e.reporter)),
    ("series", e.series.map fun s => .obj [
      ("count", .int s.1), ("lastObservedTime", .str s.2.micros)]),
    ("type", some (.str e.notice.event.weight))]

/-- The fields of an event. -/
def fields : List (Shape.Field Shape) :=
  Shape.free .text
    ["action", "note", "reason", "reportingController", "reportingInstance", "type"] ++
  Shape.free .whole32 ["deprecatedCount"] ++
  Shape.free .moment ["deprecatedFirstTimestamp", "deprecatedLastTimestamp"] ++
  Shape.free (.record (Shape.free .text ["component", "host"])) ["deprecatedSource"] ++
  Shape.free .fineMoment ["eventTime"] ++ Shape.written Shape.metadata ["metadata"] ++
  Shape.free Shape.object ["regarding", "related"] ++
  Shape.free (.record (
    Shape.written .whole32 ["count"] ++ Shape.written .fineMoment ["lastObservedTime"]))
    ["series"]

/-- Whether a value is an event. -/
def read? (j : Json) : Option Unit := do
  let f ← Json.kinded? apiVersion "Event" j
  let _ ← Shape.readFields? fields f
  some ()

/-- An event is a repetition of one about the same object with the same words. -/
def repeats (n : Notice) (e : EventRecord) : Bool :=
  e.notice.event = n.event &&
    { e.notice.regarding with resourceVersion := none, fieldPath := none } =
      { n.regarding with resourceVersion := none, fieldPath := none }

end EventRecord

/-- What has been told so far, and by whom. -/
structure Recorder where
  /-- The process that tells it. -/
  reporter : String := controllerName
  /-- The events that the server took. -/
  told : List EventRecord := []

namespace Recorder

/-- A notice is told; what the server does not take is dropped. -/
def publish (r : Recorder) (n : Notice) (now : Instant) (c : Channel) : Recorder × Channel :=
  let events := Collection.events.path (some (n.regarding.namespaceName.getD "default"))
  let (event, request) := match r.told.find? (EventRecord.repeats n) with
    | some e =>
      let e := e.again now
      (e, Request.merge [] events e.name "" e.toJson)
    | none =>
      let e := EventRecord.first n r.reporter now
      (e, Request.make events e.toJson)
  match (Talk.expect EventRecord.read? request).run c with
  | (.ok (), c) => ({ r with told := event :: r.told }, c)
  | (.error _, c) => (r, c)

end Recorder

end Proctor
