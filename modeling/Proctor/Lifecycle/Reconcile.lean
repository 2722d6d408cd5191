import Proctor.Lifecycle.Event
import Proctor.Lifecycle.Steps

/-!
# The reconcile loop

One reconciliation runs the action of the phase and stores what it computes under the version that
was seen. If the write meets a newer version, the action is run again on the newer Test, a bounded
number of times; the write is given up when the Test is gone or stands in another phase. So a
stored status always derives from the spec that it is stored next to.
-/

namespace Proctor

/-! ### Storing what an action computes -/

/-- The action is run and its result is stored, with so many rounds left. -/
def Action.rounds (a : Action) (config : Config) (namespaceName name : String) (phase : Phase) :
    Nat → Test → Step (Option Test)
  | 0, _ => throw (.conflict name config.attempts)
  | left + 1, current => do
    match ← a.handle config current with
    | none => return none
    | some updated =>
      match ← Step.writeStatus updated with
      | .ok stored => return some stored
      | .error f =>
        if f.isConflict then
          match ← Step.getTest namespaceName name with
          | none => return none
          | some latest =>
            if latest.phase = phase then a.rounds config namespaceName name phase left latest
            else return none
        else throw f

/-- The stored Test after an action, or nothing if it stays as it is or the write was given up. -/
def Action.runOn (a : Action) (config : Config) (observed : Test) : Step (Option Test) := do
  let namespaceName ← Step.lift (orFault .missingNamespace observed.metadata.namespaceName)
  a.rounds config namespaceName observed.nameAny observed.phase config.attempts observed

/-! ### What is to follow -/

/-- When a Test is looked at again. -/
inductive Requeue where
  /-- When it changes. -/
  | onChange
  /-- After so many seconds at the latest. -/
  | after (secs : Nat)
  deriving DecidableEq, Repr, Inhabited

namespace Requeue

/-- The seconds until a running Test is looked at again. -/
def runningSecs : Nat := 15

/-- The seconds until a Test is looked at again after a fault. -/
def faultSecs : Nat := 30

/-- When a Test that stands in a phase is looked at again. -/
def ofPhase (p : Phase) : Requeue := if p = .running then .after runningSecs else .onChange

/-- When a Test is looked at again after a fault. -/
def onFault : Requeue := .after faultSecs

end Requeue

/-- A reference to an object that an event is about. -/
structure ObjectReference where
  /-- The API version. -/
  apiVersion : Option String := none
  /-- The kind. -/
  kind : Option String := none
  /-- The name. -/
  name : Option String := none
  /-- The namespace. -/
  namespaceName : Option String := none
  /-- The identity. -/
  uid : Option String := none
  /-- The version. -/
  resourceVersion : Option String := none
  /-- The part of the object. -/
  fieldPath : Option String := none
  deriving DecidableEq, Inhabited

/-- The reference to a Test. -/
def Test.reference (t : Test) : ObjectReference :=
  { apiVersion := some Test.apiVersion
    kind := some Test.kind
    name := t.metadata.name
    namespaceName := t.metadata.namespaceName
    uid := t.metadata.uid }

/-- An event to be told to users. -/
structure Notice where
  /-- What happened. -/
  event : Event
  /-- The Test that it happened to. -/
  regarding : ObjectReference
  /-- What is to be said about it. -/
  note : Option String := none
  deriving DecidableEq

/-- What is said about a move out of a phase: the errors, else the phases and the generation. -/
def Test.note? (t : Test) (source : Phase) : Option String := do
  let status ← t.status
  if status.errors = [] then
    let id ← status.testId
    some (source.display ++ " -> " ++ t.phase.display ++ " (test id " ++ id ++ ")")
  else some ("; ".intercalate status.errors)

/-- The notice of a move out of a phase, if users should hear of it. -/
def Test.notice? (t : Test) (source : Phase) : Option Notice :=
  (Event.ofTransition? source t.phase).map fun event =>
    { event, regarding := t.reference, note := t.note? source }

/-! ### Reconciliation -/

/-- What came of one reconciliation. -/
structure Reconciliation where
  /-- The action that was run. -/
  action : Action
  /-- When the Test is looked at again, or what went wrong. -/
  result : Except Fault Requeue
  /-- The phase that was entered. -/
  entered : Option Phase
  /-- The event to be told. -/
  notice : Option Notice

namespace Reconciliation

/-- What follows from how an action on a Test in some phase went. -/
def ofOutcome (phase : Phase) (action : Action) : Except Fault (Option Test) → Reconciliation
  | .error f => ⟨action, .error f, none, none⟩
  | .ok none => ⟨action, .ok (.ofPhase phase), none, none⟩
  | .ok (some stored) =>
    if stored.phase = phase then ⟨action, .ok (.ofPhase stored.phase), none, none⟩
    else ⟨action, .ok (.ofPhase stored.phase), some stored.phase, stored.notice? phase⟩

end Reconciliation

/-- The action of the phase is run, and what it computes is stored. -/
def Test.reconcile (t : Test) (config : Config) : Program Reconciliation := do
  let action := Action.ofPhase t.phase
  let outcome ← ExceptT.run (action.runOn config t)
  return .ofOutcome t.phase action outcome

end Proctor
