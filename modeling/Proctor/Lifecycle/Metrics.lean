import Proctor.Lifecycle.Reconcile

/-!
# Measurements

What is counted: every reconciliation by its action and whether it went well, how long it took by
its action, and every phase that was entered.
-/

namespace Proctor

/-- One thing counted: an instrument, and the labels under which it counts. -/
structure Measurement where
  /-- The instrument. -/
  instrument : String
  /-- The labels, each with its value. -/
  labels : List (String × String)
  deriving DecidableEq, Repr

/-- The labels as one text. -/
def Measurement.series (m : Measurement) : String :=
  ",".intercalate (m.labels.map fun l => l.1 ++ "=" ++ l.2)

/-- What is counted for a reconciliation. -/
def Reconciliation.measurements (r : Reconciliation) : List Measurement :=
  let result := match r.result with
    | .ok _ => "success"
    | .error _ => "error"
  [⟨"yaks_test_reconcile_total", [("action", r.action.name), ("result", result)]⟩,
    ⟨"yaks_test_reconcile_duration_seconds", [("action", r.action.name)]⟩] ++
  (r.entered.map fun p =>
    (⟨"yaks_test_phase_transitions_total", [("phase", p.wire)]⟩ : Measurement)).toList

/-- How often each thing was counted, in the order of the first time. -/
def tally (ms : List Measurement) : List (Measurement × Nat) :=
  ms.eraseDups.map fun m => (m, ms.count m)

end Proctor
