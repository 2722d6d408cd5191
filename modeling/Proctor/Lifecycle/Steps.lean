import Proctor.Digest.Fingerprint
import Proctor.Lifecycle.Action
import Proctor.Lifecycle.Program
import Proctor.Workload.Outcome

/-!
# What the actions do

Each action computes the Test as it should be stored next, or nothing if it is to stay as it is. An
action that fails leaves the stored Test alone, so that it can be repeated.
-/

namespace Proctor

/-! ### Beginning a generation -/

/-- The status of a generation that begins: nothing of an older one is left. -/
def Status.begun (id digest version : String) : Status :=
  { phase := .pending, testId := some id, digest := some digest, version := some version }

/-- The status of a generation that was refused. -/
def Status.refused (s : Status) (f : Fault) (now : Instant) : Status :=
  { s with phase := .error, errors := [f.message], completedAt := some now }

/-- A generation with a new id. A Test that is refused goes to `Error` at once; the fingerprint is
recorded then too, so that an edit of the source runs it again. -/
def Test.initiate (t : Test) (config : Config) : Step Test := do
  let id ← Step.freshId
  let status := Status.begun id (t.spec.source.digest config.version) config.version
  match t.check with
  | .ok () => return { t with status := some status }
  | .error f =>
    let now ← Step.clock
    return { t with status := some (status.refused f now) }

/-! ### Applying the workload -/

/-- The objects that the start of a Test applies, in their order. -/
def Workload.manifests (namespaceName : String) (w : Workload) : List Manifest :=
  [.serviceAccount (Viewer.serviceAccount namespaceName),
    .role (Viewer.role namespaceName),
    .roleBinding (Viewer.roleBinding namespaceName),
    .configMap w.configMap,
    .pod w.pod]

/-- Objects are applied one after the other, up to the first fault. -/
def Step.applyAll : List Manifest → Step Unit
  | [] => pure ()
  | m :: rest => do
    Step.apply m
    Step.applyAll rest

/-- All objects of the generation are applied, then the Test is `Running`. -/
def Test.start (t : Test) (config : Config) : Step Test := do
  let namespaceName ← Step.lift (orFault .missingNamespace t.metadata.namespaceName)
  let workload ← Step.lift (t.workload config)
  Step.applyAll (workload.manifests namespaceName)
  let now ← Step.clock
  return t.withStatus fun s => { s with phase := .running, startedAt := some now }

/-! ### Judging the run -/

/-- The status of a run that is over. -/
def Status.finished (s : Status) (phase : Phase) (kept : Collected) (now : Instant) : Status :=
  { s with
    phase, results := kept.results, errors := s.errors ++ kept.errors, completedAt := some now }

/-- A run is over. -/
def Test.finish (t : Test) (phase : Phase) (kept : Collected) : Step Test := do
  let now ← Step.clock
  return t.withStatus fun s => s.finished phase kept now

/-- The Pod of the generation is asked how the run went. Without an id or a Pod the run cannot be
judged. -/
def Test.evaluate (t : Test) : Step (Option Test) := do
  let namespaceName ← Step.lift (orFault .missingNamespace t.metadata.namespaceName)
  match t.testId? with
  | none => some <$> t.finish .error { errors := ["test is running without a TestID"] }
  | some id =>
    let name := generationName t.nameAny id
    match ← Step.getPod namespaceName name with
    | none => some <$> t.finish .error { errors := ["test pod " ++ name ++ " not found"] }
    | some pod =>
      match pod.outcome with
      | .inProgress => return none
      | .succeeded => some <$> t.finish .passed (pod.collect .succeeded)
      | .failed => some <$> t.finish .failed (pod.collect .failed)

/-! ### Looking after a finished Test -/

/-- The Test to be run again, if its fingerprint is no longer the recorded one. -/
def Test.restart? (t : Test) (config : Config) : Option Test :=
  if t.status.bind Status.digest = some (t.spec.source.digest config.version) then none
  else some (t.withStatus fun s => { s with phase := .new })

/-! ### All actions -/

/-- The Test that an action wants to be stored, if it is not to stay as it is. -/
def Action.handle (config : Config) (t : Test) : Action → Step (Option Test)
  | .initiate => some <$> t.initiate config
  | .start => some <$> t.start config
  | .evaluate => t.evaluate
  | .monitor => return t.restart? config
  | .noop => return none

end Proctor
