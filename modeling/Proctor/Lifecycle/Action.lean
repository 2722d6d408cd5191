import Proctor.Test.Phase

/-!
# Actions

Each phase is the business of exactly one action.
-/

namespace Proctor

/-- One step of a Test's life. -/
inductive Action where
  /-- Begin a generation. -/
  | initiate
  /-- Apply the workload. -/
  | start
  /-- Judge the run. -/
  | evaluate
  /-- Look after a finished Test. -/
  | monitor
  /-- Leave the Test to others. -/
  | noop
  deriving DecidableEq, Repr, Inhabited

namespace Action

/-- Every action, in the order in which they are asked. -/
def all : List Action := [.initiate, .start, .evaluate, .monitor, .noop]

/-- The word for an action. -/
def name : Action → String
  | .initiate => "initialize"
  | .start => "start"
  | .evaluate => "evaluate"
  | .monitor => "monitor"
  | .noop => "noop"

/-- Whether a phase is the business of an action. -/
def handles : Action → Phase → Bool
  | .initiate, p => p.isInitial
  | .start, p => p = .pending
  | .evaluate, p => p = .running
  | .monitor, p => p.isTerminal
  | .noop, p => p = .updating || p = .deleting

/-- The action whose business a phase is. -/
def ofPhase : Phase → Action
  | .unset | .new => .initiate
  | .pending => .start
  | .running => .evaluate
  | .passed | .failed | .error => .monitor
  | .updating | .deleting => .noop

/-- An action handles just those phases that are its business. -/
theorem handles_iff {a : Action} {p : Phase} : a.handles p = true ↔ ofPhase p = a := by
  cases a <;> cases p <;> decide

/-- The first action that handles a phase is the one whose business it is. -/
theorem find?_handles (p : Phase) : all.find? (·.handles p) = some (ofPhase p) := by
  cases p <;> rfl

/-- The action with that name. -/
def ofName? (s : String) : Option Action := all.find? (·.name = s)

end Action

end Proctor
