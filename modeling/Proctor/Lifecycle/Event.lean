import Proctor.Test.Phase

/-!
# Events of a Test's life

Every move from one phase to another that a user should hear of is one event, with the words under
which it is shown.
-/

namespace Proctor

/-- What has happened to a Test. -/
inductive Event where
  /-- A generation was begun. -/
  | initialized
  /-- The Test was refused. -/
  | invalidSpec
  /-- The workload was applied. -/
  | started
  /-- The run succeeded. -/
  | passed
  /-- The run failed. -/
  | failed
  /-- The run could not be judged. -/
  | errored
  /-- The Test is to run again. -/
  | restarted
  deriving DecidableEq, Repr, Inhabited

namespace Event

/-- Every event. -/
def all : List Event :=
  [.initialized, .invalidSpec, .started, .passed, .failed, .errored, .restarted]

/-- The event of a move between two phases, if users should hear of it. -/
def ofTransition? (source target : Phase) : Option Event :=
  match target with
  | .pending => some .initialized
  | .error => some (if source.isInitial then .invalidSpec else .errored)
  | .running => some .started
  | .passed => some .passed
  | .failed => some .failed
  | .new => some .restarted
  | .unset | .updating | .deleting => none

/-- The name of an event. -/
def name : Event → String
  | .initialized => "Initialized"
  | .invalidSpec => "InvalidSpec"
  | .started => "Started"
  | .passed => "Passed"
  | .failed => "Failed"
  | .errored => "Errored"
  | .restarted => "Restarted"

/-- The reason under which an event is listed. -/
def reason : Event → String
  | .initialized => "TestInitialized"
  | .invalidSpec => "ValidationFailed"
  | .started => "TestStarted"
  | .passed => "TestPassed"
  | .failed => "TestFailed"
  | .errored => "TestError"
  | .restarted => "TestRestarted"

/-- What the controller did when the event came about. -/
def action : Event → String
  | .initialized | .invalidSpec => "Initialize"
  | .started => "Start"
  | .passed | .failed | .errored => "Evaluate"
  | .restarted => "Monitor"

/-- Something did not go to plan. -/
def isWarning : Event → Bool
  | .invalidSpec | .failed | .errored => true
  | _ => false

/-- The word for the weight of an event. -/
def weight (e : Event) : String := if e.isWarning then "Warning" else "Normal"

end Event

end Proctor
