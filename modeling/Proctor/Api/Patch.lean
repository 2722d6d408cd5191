import Proctor.Test.Codec

/-!
# The patch that writes a status

A status is written by a merge patch under the version of the Test that was seen. A merge patch
keeps what it does not name, so every part of the status that is unset is named with `null`.
-/

namespace Proctor

/-- The parts of a status that are cleared when they are unset. -/
def Status.clearable : List String :=
  ["testID", "digest", "version", "results", "errors", "startedAt", "completedAt"]

/-- The object of a status in which every unset part is `null`. -/
def Status.patch (s : Status) : Json :=
  let fields := s.toJson.fields?.getD []
  let unset := Status.clearable.filter fun key => !fields.any (·.1 == key)
  .obj (fields ++ unset.map fun key => (key, .null))

/-- The merge patch that writes the status of a Test under the version it carries. -/
def Test.statusPatch (t : Test) : Json :=
  .obj [
    ("metadata", .obj [
      ("resourceVersion", (t.metadata.resourceVersion.map Json.str).getD .null)]),
    ("status", (t.status.getD {}).patch)]

end Proctor
