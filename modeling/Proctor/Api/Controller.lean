import Proctor.Api.Client
import Proctor.Api.Recorder
import Proctor.Cluster.Shape.Definition
import Proctor.Crd.Definition
import Proctor.Operator.Backoff
import Proctor.Workload.Labels

/-!
# The controller at work

The controller against the API server: it installs the resource definition of Tests, lists and
watches the Tests and their Pods, and reconciles each Test at once and again as long as it has a
reason to.

## What is left out

The lists and the watches are asked for, but what they would tell is not read: the Tests are given,
and the watches stay silent. So a Test is reconciled again only when its time has come. Those that
are due at one time are reconciled one after the other, while a controller may let several run
beside each other; what they can do to each other then is told of systems (`Proctor.System`). And
where the installation is repeated, chance shortens no delay.
-/

namespace Proctor

/-- The controller with its channel to the API server. -/
structure Controller where
  /-- The channel. -/
  channel : Channel := {}
  /-- The events told. -/
  recorder : Recorder := {}
  /-- How many ids were given out. -/
  ids : Nat := 0
  /-- The text of an id by its number, from 1. -/
  idText : Nat → String
  /-- What every clock shows. -/
  now : Instant

namespace Controller

/-! ### One Test -/

/-- A call over the channel. -/
def call {α : Type} (c : Controller) (f : Channel → Except Fault α × Channel) :
    Except Fault α × Controller :=
  let (a, channel) := f c.channel
  (a, { c with channel })

/-- The answer to a question, and the controller after it. -/
def answer : (q : Query) → Controller → q.Answer × Controller
  | .freshId, c => (c.idText (c.ids + 1), { c with ids := c.ids + 1 })
  | .clock, c => (c.now, c)
  | .getTest namespaceName name, c => c.call (Client.getTest namespaceName name)
  | .writeStatus t, c => c.call (Client.writeStatus t)
  | .getPod namespaceName name, c => c.call (Client.getPod namespaceName name)
  | .apply m, c => c.call (Client.apply m)

/-- A notice is told. -/
def publish (c : Controller) (n : Notice) : Controller :=
  let (recorder, channel) := c.recorder.publish n c.now c.channel
  { c with recorder, channel }

/-- A Test is reconciled, and what users should hear of it is told. -/
def reconcile (c : Controller) (config : Config) (t : Test) : Reconciliation × Controller :=
  let (r, c) := (t.reconcile config).run answer c
  (r, r.notice.elim c c.publish)

/-! ### Installing the definition -/

/-- Whether a value is a resource definition. -/
def isDefinition? (j : Json) : Option Unit := do
  let f ← Json.kinded? Definition.apiVersion Definition.kind j
  let _ ← Shape.readFields? Shape.definitionFields f
  some ()

/-- The request that installs the definition. -/
def installRequest : Except ApiFault Request :=
  Request.apply controllerName (Collection.definitions.path none) Definition.name Definition.toJson

/-- The definition is installed, with the patience of startup. -/
def install (c : Controller) : Except ApiFault Unit × Controller :=
  let r := Backoff.install.retry (fun _ d => d)
    (Talk.expect isDefinition? installRequest).run c.channel
  (r.answer, { c with channel := r.state })

/-- What is told when the definition could not be installed. -/
def installFailure (f : ApiFault) : String :=
  "failed to install " ++ Definition.name ++ " CRD: " ++ f.message

/-! ### All Tests -/

/-- The seconds that a watch lasts, fewer than an answer may take. -/
def watchSecs : Nat := 25

/-- The requests that list and watch the Tests and their Pods, in one namespace or in all. -/
def watchRequests (namespaceName : Option String) : Except ApiFault (List Request) :=
  let tests := Collection.tests.path namespaceName
  let pods := Collection.pods.path namespaceName
  let selector := some (labelSelector appLabels)
  [Request.list tests none, Request.list pods selector, Request.watch tests none watchSecs "1",
    Request.watch pods selector watchSecs "1"].mapM id

/-- The seconds until a Test is reconciled again, if it has a reason to. -/
def nextAfter? (r : Reconciliation) : Option Nat :=
  let requeue := match r.result with
    | .ok q => q
    | .error _ => .onFault
  match requeue with
  | .after secs => some secs
  | .onChange => none

/-- The Tests that are due are reconciled, in their order. Each Test stands with the seconds until
it is due; one that has no reason to be reconciled again is dropped, and no other is due again at
once. -/
def round (config : Config) (c : Controller) : List (Nat × Test) → List (Nat × Test) × Controller
  | [] => ([], c)
  | (wait, t) :: rest =>
    if wait = 0 then
      let (r, c) := c.reconcile config t
      let (rest, c) := round config c rest
      (((nextAfter? r).map fun secs => (max 1 secs, t)).toList ++ rest, c)
    else
      let (rest, c) := round config c rest
      ((wait, t) :: rest, c)

/-- The Tests are reconciled whenever they are due, while so many seconds are left. -/
def tend (config : Config) (agenda : List (Nat × Test)) (c : Controller) : Nat → Controller
  | 0 => c
  | left + 1 =>
    let (agenda, c) := round config c agenda
    match (agenda.map Prod.fst).min? with
    | none => c
    | some wait =>
      let passed := max 1 wait
      tend config (agenda.map fun e => (e.1 - passed, e.2)) c (left + 1 - passed)
termination_by left => left

/-- Two Tests of the same name and namespace. -/
def isSameTest (t u : Test) : Bool :=
  t.metadata.name == u.metadata.name && t.metadata.namespaceName == u.metadata.namespaceName

/-- A Test is seen: it replaces the one of its name and namespace, or it is the last one. -/
def seen (tests : List Test) (t : Test) : List Test :=
  if tests.any (isSameTest t) then tests.map fun u => if isSameTest t u then t else u
  else tests ++ [t]

/-- The Tests and their Pods are listed and watched, and each Test is tended for so many seconds.
Where the lists cannot be asked for, nothing is done. -/
def watch (config : Config) (namespaceName : Option String) (tests : List Test) (secs : Nat)
    (c : Controller) : Controller :=
  match watchRequests namespaceName with
  | .error _ => c
  | .ok requests =>
    let c := { c with channel := { c.channel with sent := requests.reverse ++ c.channel.sent } }
    c.tend config ((tests.foldl seen []).map (0, ·)) secs

end Controller

end Proctor
