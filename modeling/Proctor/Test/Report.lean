/-!
# Reports of a run

What the runtime writes when a run is over: how many scenarios ended in which way, and how each of
them fared.
-/

namespace Proctor

/-- How many scenarios ended in which way. -/
structure Summary where
  /-- Scenarios run. -/
  total : UInt32 := 0
  /-- Scenarios that passed. -/
  passed : UInt32 := 0
  /-- Scenarios that failed. -/
  failed : UInt32 := 0
  /-- Scenarios that were left out. -/
  skipped : UInt32 := 0
  /-- Scenarios that are still to be written. -/
  pending : UInt32 := 0
  /-- Scenarios with steps that nothing defines. -/
  undefined : UInt32 := 0
  /-- Scenarios that broke outside of an assertion. -/
  errors : UInt32 := 0
  deriving DecidableEq, Repr, Inhabited

/-- How one scenario fared. -/
structure ScenarioResult where
  /-- The scenario. -/
  name : String
  /-- The feature or class it belongs to. -/
  className : Option String := none
  /-- The kind of error it met. -/
  errorType : Option String := none
  /-- What the error said. -/
  errorMessage : Option String := none
  deriving DecidableEq, Repr, Inhabited

/-- The report of a run. -/
structure Report where
  /-- The counts. -/
  summary : Summary := {}
  /-- The scenarios. -/
  tests : List ScenarioResult := []
  deriving DecidableEq, Repr, Inhabited

/-- One line for every scenario that has an error message. -/
def Report.errorLines (r : Report) : List String :=
  r.tests.filterMap fun t => t.errorMessage.map fun m => t.name ++ ": " ++ m

end Proctor
