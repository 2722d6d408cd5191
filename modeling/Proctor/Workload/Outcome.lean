import Proctor.Test.Codec
import Proctor.Workload.Basic

/-!
# The outcome of a run

What a Pod says about its run: whether it is over, and the report that the container leaves as its
last words. Last words that are no report are kept as an error if the run failed, because they are
then the end of its log.
-/

namespace Proctor

/-- Whether and how a run has ended. -/
inductive Outcome where
  /-- The run has not ended. -/
  | inProgress
  /-- The run succeeded. -/
  | succeeded
  /-- The run failed. -/
  | failed
  deriving DecidableEq, Repr, Inhabited

/-- Every outcome. -/
def Outcome.all : List Outcome := [.inProgress, .succeeded, .failed]

/-- The word for an outcome. -/
def Outcome.name : Outcome → String
  | .inProgress => "InProgress"
  | .succeeded => "Succeeded"
  | .failed => "Failed"

/-- The outcome that a Pod tells. -/
def Pod.outcome (p : Pod) : Outcome :=
  match p.status.bind PodStatus.phase with
  | some "Succeeded" => .succeeded
  | some "Failed" => .failed
  | _ => .inProgress

/-- The last words of the container that runs the test, if it left any. -/
def Pod.lastWords? (p : Pod) : Option String := do
  let status ← p.status
  let containers ← status.containerStatuses
  let container ← containers.find? (·.name == Workload.containerName)
  let state ← container.state
  let terminated ← state.terminated
  let message ← terminated.message
  Text.nonblank? message

/-- What is kept of a run that has ended. -/
structure Collected where
  /-- The report. -/
  results : Option Report := none
  /-- What went wrong. -/
  errors : List String := []
  deriving DecidableEq, Inhabited

/-- What is kept of the last words of a run. -/
def collectMessage (message : String) (outcome : Outcome) : Collected :=
  match Report.ofText? message with
  | some report => { results := some report, errors := report.errorLines }
  | none => { results := none, errors := if outcome = .failed then [message] else [] }

/-- What is kept of a run. -/
def Pod.collect (p : Pod) (outcome : Outcome) : Collected :=
  match p.lastWords? with
  | none => {}
  | some message => collectMessage message outcome

end Proctor
