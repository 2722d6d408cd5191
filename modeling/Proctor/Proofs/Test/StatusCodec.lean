import Proctor.Proofs.Json.Given
import Proctor.Proofs.Time.Instant
import Proctor.Test.Codec

/-!
# A status is read back from its object

What is unset, empty or zero may be left out of an object, and reading fills it in again. So a
status is read back from the object that it is written as, reports and times included.
-/

namespace Proctor

namespace Json

variable {α : Type} {read : Json → Option α} {write : α → Json}

/-! ### Fields that may be left out -/

theorem optional_some {v : Json} (h : v.isNull = false) :
    optional read (some v) = (read v).map some := by
  cases v with
  | null => cases h
  | bool _ | int _ | real _ | str _ | torn | arr _ | obj _ => rfl

theorem optional_map (hn : ∀ a, (write a).isNull = false) (hr : ∀ a, read (write a) = some a)
    (o : Option α) : optional read (o.map write) = some o := by
  cases o with
  | none => rfl
  | some a => rw [Option.map_some, optional_some (hn a), hr, Option.map_some]

theorem optional_text (o : Option String) : optional str? (o.map .str) = some o :=
  @optional_map _ str? .str (fun _ => rfl) (fun _ => rfl) o

theorem eq_arr_of_nonempty? {items : List α} {v : Json} (h : nonempty? write items = some v) :
    ∃ vs, v = .arr vs := by
  cases items with
  | nil => cases h
  | cons a rest =>
    cases h
    exact ⟨_, rfl⟩

theorem orDefault_nonempty? (hr : ∀ a, read (write a) = some a) (items : List α) :
    orDefault [] (list? read) (nonempty? write items) = some items := by
  cases items with
  | nil => rfl
  | cons a rest => exact mapM_map_eq hr (a :: rest)

theorem orDefault_texts (texts : List String) :
    orDefault [] (list? str?) (nonempty? .str texts) = some texts :=
  @orDefault_nonempty? _ str? .str (fun _ => rfl) texts

end Json

open Json

/-! ### The parts of a status -/

theorem Phase.read?_wire (p : Phase) : Phase.read? (.str p.wire) = some p := by cases p <;> rfl

theorem Instant.readJson?_text (t : Instant) : Instant.readJson? (.str t.text) = some t :=
  Instant.read?_text t

theorem Summary.read?_toJson (s : Summary) : Summary.read? s.toJson = some s := by
  rw [Summary.read?, Summary.toJson, record?_of_nodup (by simp)]
  -- else the kernel unfolds the bound of a word step by step
  simp -implicitDefEqProofs [List.lookup_cons]

theorem ScenarioResult.read?_toJson (r : ScenarioResult) :
    ScenarioResult.read? r.toJson = some r := by
  rw [ScenarioResult.read?, ScenarioResult.toJson, record?_ofFields (by simp)]
  simp [List.lookup_cons, optional_text]

theorem Report.read?_toJson (r : Report) : Report.read? r.toJson = some r := by
  rw [Report.read?, Report.toJson, record?_ofFields (by simp)]
  simp -implicitDefEqProofs [List.lookup_cons, Summary.read?_toJson,
    orDefault_nonempty? ScenarioResult.read?_toJson]

/-- A status is read back from its object. -/
theorem Status.read?_toJson (s : Status) : Status.read? s.toJson = some s := by
  have hreport : ∀ o : Option Report, optional Report.read? (o.map Report.toJson) = some o :=
    optional_map (fun _ => rfl) Report.read?_toJson
  have htime : ∀ o : Option Instant,
      optional Instant.readJson? (o.map fun t => .str t.text) = some o :=
    optional_map (fun _ => rfl) Instant.readJson?_text
  rw [Status.read?, Status.toJson, record?_ofFields (by simp)]
  simp [List.lookup_cons, Phase.read?_wire, optional_text, hreport, htime, orDefault_texts]

end Proctor
