/-!
# Phases of a Test

Where a Test stands in its life. A Test that was just made has no phase at all and one that is to
run again is put back to `New`; both wait for a new generation.
-/

namespace Proctor

/-- Where a Test stands. -/
inductive Phase where
  /-- No phase is recorded. -/
  | unset
  /-- A generation is to be begun. -/
  | new
  /-- A generation has its id and waits for its workload. -/
  | pending
  /-- The workload has been applied. -/
  | running
  /-- A client changes the Test. -/
  | updating
  /-- The run succeeded. -/
  | passed
  /-- The run failed. -/
  | failed
  /-- The run could not be begun or judged. -/
  | error
  /-- Someone deletes the Test. -/
  | deleting
  deriving DecidableEq, Repr, Inhabited

namespace Phase

/-- Every phase, in the order of a Test's life. -/
def all : List Phase :=
  [.unset, .new, .pending, .running, .updating, .passed, .failed, .error, .deleting]

/-- The phase as it is stored; no phase is the empty text. -/
def wire : Phase → String
  | .unset => ""
  | .new => "New"
  | .pending => "Pending"
  | .running => "Running"
  | .updating => "Updating"
  | .passed => "Passed"
  | .failed => "Failed"
  | .error => "Error"
  | .deleting => "Deleting"

/-- The phase as it is shown to people. -/
def display : Phase → String
  | .unset => "None"
  | p => p.wire

/-- A generation is to be begun. -/
def isInitial : Phase → Bool
  | .unset | .new => true
  | _ => false

/-- The run is over. -/
def isTerminal : Phase → Bool
  | .passed | .failed | .error => true
  | _ => false

theorem mem_all (p : Phase) : p ∈ all := by cases p <;> decide

theorem wire_injective {p q : Phase} (h : p.wire = q.wire) : p = q := by
  revert h; cases p <;> cases q <;> decide

end Phase

end Proctor
