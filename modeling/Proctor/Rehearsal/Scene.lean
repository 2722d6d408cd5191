import Proctor.Lifecycle.Metrics
import Proctor.Rehearsal.World

/-!
# Scenes

A rehearsal is a list of scenes played one after the other: others edit the store, disturbances are
laid out, or the controller takes a step on a stored Test or on a copy remembered from before.
-/

namespace Proctor.Rehearsal

/-- The Test that the controller works on. -/
inductive Target where
  /-- The one that is stored at a place. -/
  | stored (p : Place)
  /-- The copy remembered under a label. -/
  | remembered (label : String)

/-- A scene of a rehearsal. An action or label is missing where none of that name was given. -/
inductive Scene where
  /-- Others edit the store. -/
  | edit (e : Edit)
  /-- Disturbances are laid out for a kind of call. -/
  | disturb (call : Call) (ds : List Disturbance)
  /-- The controller gets other settings; a quiet one tells no events. -/
  | configure (config : Config) (quiet : Bool)
  /-- The stored Test is remembered under a label. -/
  | remember (p : Place) (label : Option String)
  /-- The controller reconciles. -/
  | reconcile (target : Target)
  /-- The controller runs an action, storing nothing. -/
  | handle (target : Target) (action : Option Action)
  /-- The controller runs an action and stores what it computes. -/
  | runAction (target : Target) (action : Option Action)

/-- Why a scene could not be played. -/
inductive SceneFault where
  /-- The edit was refused. -/
  | edit (f : EditFault)
  /-- There is no such Test. -/
  | noSuchTest
  /-- No action has that name. -/
  | noSuchAction
  /-- No label was given. -/
  | noLabel
  deriving DecidableEq, Repr

/-- What came of a scene. -/
inductive SceneResult where
  /-- It was played. -/
  | done
  /-- An edit was made. -/
  | edited (a : EditAnswer)
  /-- It could not be played. -/
  | refused (f : SceneFault)
  /-- The controller reconciled. -/
  | reconciled (r : Except Fault Requeue)
  /-- The action asked for a Test to be stored, or for nothing. -/
  | handled (r : Except Fault (Option Test))
  /-- The action was run and its result was stored, or there was nothing to store. -/
  | ran (r : Except Fault (Option Test))

/-- What the controller did in a scene, and how the Tests stand after it. -/
structure Activity where
  /-- The calls made. -/
  calls : List CallRecord
  /-- The events told. -/
  notices : List Notice
  /-- The stored Tests. -/
  tests : Table Test

/-- What is told of a scene. -/
structure SceneReport where
  /-- What came of it. -/
  result : SceneResult
  /-- What the controller did, if it was its turn. -/
  activity : Option Activity := none

/-- A rehearsal under way. -/
structure Stage where
  /-- The world. -/
  world : World
  /-- The settings of the controller. -/
  config : Config := {}
  /-- The controller tells no events. -/
  quiet : Bool := false
  /-- The copies remembered. -/
  memory : List (String × Test) := []
  /-- What was counted. -/
  measurements : List Measurement := []

namespace Stage

/-- The Test that a target stands for. -/
def target? (st : Stage) : Target → Option Test
  | .stored p => st.world.store.tests.get? p
  | .remembered label => st.memory.lookup label

/-- A program is run in the world. -/
def run {α : Type} (st : Stage) (p : Program α) : α × Stage :=
  let (a, world) := p.run World.answer { st.world with calls := [] }
  (a, { st with world })

/-- The report of a scene in which it was the controller's turn. -/
def report (st : Stage) (result : SceneResult) (notices : List Notice) : SceneReport :=
  { result
    activity := some
      { calls := st.world.calls.reverse
        notices := if st.quiet then [] else notices
        tests := st.world.store.tests } }

/-- The report of a scene in which the controller had nothing to work on. -/
def idle (st : Stage) (f : SceneFault) : SceneReport × Stage :=
  let st := { st with world := { st.world with calls := [] } }
  (st.report (.refused f) [], st)

/-- The controller reconciles a Test. -/
def reconcile (st : Stage) (t : Test) : SceneReport × Stage :=
  let (r, st) := st.run (t.reconcile st.config)
  let st := { st with measurements := st.measurements ++ r.measurements }
  (st.report (.reconciled r.result) r.notice.toList, st)

/-- A scene is played. -/
def play (st : Stage) : Scene → SceneReport × Stage
  | .edit e =>
    match e.perform st.world.store with
    | .ok (a, store) => ({ result := .edited a }, { st with world := { st.world with store } })
    | .error f => ({ result := .refused (.edit f) }, st)
  | .disturb call ds =>
    let disturbances := st.world.disturbances ++ ds.map (call, ·)
    ({ result := .done }, { st with world := { st.world with disturbances } })
  | .configure config quiet => ({ result := .done }, { st with config, quiet })
  | .remember p label =>
    match st.world.store.tests.get? p, label with
    | none, _ => ({ result := .refused .noSuchTest }, st)
    | some _, none => ({ result := .refused .noLabel }, st)
    | some t, some label => ({ result := .done }, { st with memory := (label, t) :: st.memory })
  | .reconcile target =>
    match st.target? target with
    | none => st.idle .noSuchTest
    | some t => st.reconcile t
  | .handle target action =>
    match st.target? target, action with
    | none, _ => st.idle .noSuchTest
    | some _, none => st.idle .noSuchAction
    | some t, some a =>
      let (r, st) := st.run (ExceptT.run (a.handle st.config t))
      (st.report (.handled r) [], st)
  | .runAction target action =>
    match st.target? target, action with
    | none, _ => st.idle .noSuchTest
    | some _, none => st.idle .noSuchAction
    | some t, some a =>
      let (r, st) := st.run (ExceptT.run (a.runOn st.config t))
      (st.report (.ran r) [], st)

/-- All scenes are played in their order. -/
def playAll (st : Stage) : List Scene → List SceneReport × Stage
  | [] => ([], st)
  | scene :: rest =>
    let (report, st) := st.play scene
    let (reports, st) := st.playAll rest
    (report :: reports, st)

end Stage

end Proctor.Rehearsal
