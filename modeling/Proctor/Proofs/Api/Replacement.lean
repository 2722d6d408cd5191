import Proctor.Proofs.Api.Patch
import Proctor.Proofs.Lifecycle.Computation
import Proctor.Proofs.Test.Validation

/-!
# What is left of a status that is written over

A status is written by a merge patch into an object that holds another one. The patch names every
part of a status, so what it brings about depends on the old status only where an object is merged
into an object, and that is the report (`Status.read?_merge`). Its counts are all written, but an
empty list of scenarios is not: the scenarios of the old report stay if the new one has none
(`Report.mergedInto`), and only then is the new status not what is read afterwards
(`Test.overwrites`). A generation begins without a report, so nothing of an older one is left when
it is written (`Test.initiate_inherits_nothing`).
-/

namespace Proctor

open Json

/-! ### Reports -/

/-- A report that was merged into another one. -/
def Report.mergedInto (new old : Report) : Report :=
  if new.tests = [] then { new with tests := old.tests } else new

theorem Report.mergedInto_eq_self_iff {new old : Report} :
    new.mergedInto old = new ↔ (new.tests = [] → old.tests = []) := by
  rw [mergedInto]
  split
  · next h =>
    constructor
    · intro he _
      rw [← h, ← he]
    · intro ho
      rw [ho h, ← h]
  · next h => exact ⟨fun _ he => absurd he h, fun _ => rfl⟩

theorem Report.summary_mergedInto (new old : Report) :
    (new.mergedInto old).summary = new.summary := by
  rw [mergedInto]
  split <;> rfl

/-- The counts of a report are all written, so nothing of what was there is left. -/
theorem Summary.read?_merge (new : Summary) (old : Json) :
    Summary.read? (old.merge new.toJson) = some new := by
  have hd : new.toJson.Distinct := by simp [toJson, Distinct]
  have hget : ∀ n k, new.toJson.get? n = some (ofWord32 k) →
      (old.merge new.toJson).get? n = some (ofWord32 k) :=
    fun n k hk => hd.get?_merge_of_not_obj old hk rfl rfl
  rw [Summary.read?, hd.record?_merge (by simp [toJson, get?, List.lookup_cons])]
  simp -implicitDefEqProofs [hget "total" _ rfl, hget "passed" _ rfl, hget "failed" _ rfl,
    hget "skipped" _ rfl, hget "pending" _ rfl, hget "undefined" _ rfl, hget "errors" _ rfl]

namespace Report

theorem distinct_toJson (r : Report) : r.toJson.Distinct := nodup_given (by simp)

theorem get?_summary (r : Report) : r.toJson.get? "summary" = some r.summary.toJson := rfl

theorem get?_tests (r : Report) :
    r.toJson.get? "tests" = nonempty? ScenarioResult.toJson r.tests := by
  rw [toJson, ofFields_eq, get?, lookup_given (by simp)]
  simp [List.lookup_cons]

/-- What is read of a report that was merged into another one. -/
theorem read?_merge (new old : Report) :
    Report.read? (old.toJson.merge new.toJson) = some (new.mergedInto old) := by
  have hget : (old.toJson.merge new.toJson).get? "summary" =
      some (old.summary.toJson.merge new.summary.toJson) := by
    rw [new.distinct_toJson.get?_merge, get?_summary, get?_summary]
    rfl
  have hsummary : orDefault {} Summary.read? ((old.toJson.merge new.toJson).get? "summary") =
      some (new.mergedInto old).summary := by
    rw [hget, orDefault_some, summary_mergedInto, Summary.read?_merge]
  have htests : orDefault [] (list? ScenarioResult.read?)
      ((old.toJson.merge new.toJson).get? "tests") = some (new.mergedInto old).tests := by
    rw [new.distinct_toJson.get?_merge, get?_tests, get?_tests, mergedInto]
    cases h : new.tests with
    | nil => exact orDefault_nonempty? ScenarioResult.read?_toJson old.tests
    | cons r rest =>
      rw [if_neg (by simp), h, ← orDefault_nonempty? ScenarioResult.read?_toJson (r :: rest)]
      show orDefault [] _ (some (merge _ (.arr _))) = _
      rw [merge_of_not_obj _ rfl]
      rfl
  rw [Report.read?,
    new.distinct_toJson.record?_merge fun n _ _ => old.distinct_toJson.length_named_le n]
  simp -implicitDefEqProofs [hsummary, htests]

end Report

/-! ### Statuses -/

namespace Status

/-- What a patch makes of a part of a status. -/
theorem get?_merge_patch (old : Json) (s : Status) {n : String} (hn : n ∈ names) :
    (old.merge s.patch).get? n =
      (s.fields.lookup n).map (((old.get? n).getD .null).merge ·) := by
  rw [patch_eq, merge_obj, get?, lookup_eq_named, named_mergeFields_patchFields, if_pos hn,
    lookup_fields?]
  cases s.fields.lookup n <;> rfl

/-- The report is all that a patch takes from the object it is merged into. -/
theorem read?_merge (old : Json) (s : Status) :
    Status.read? (old.merge s.patch) =
      (optional Report.read? (s.results.map fun r =>
        ((old.get? "results").getD .null).merge r.toJson)).map fun results =>
          { s with results } := by
  have hrecord : record? names (old.merge s.patch) =
      some fun n => (old.merge s.patch).get? n := by
    rw [patch_eq, merge_obj]
    refine record?_obj_eq_some_iff.2 ⟨fun n hn => ?_, rfl⟩
    rw [named_mergeFields_patchFields, if_pos hn]
    cases s.fields.lookup n <;> simp
  have hresults : (old.merge s.patch).get? "results" =
      s.results.map fun r => ((old.get? "results").getD .null).merge r.toJson := by
    rw [get?_merge_patch old s (by simp [names, clearable]), lookup_results, Option.map_map]
    rfl
  -- the other parts are no objects, so what was there before does not matter
  have hplain : ∀ n ∈ names, n ≠ "results" →
      (old.merge s.patch).get? n = s.fields.lookup n := by
    intro n hn hne
    rw [get?_merge_patch old s hn]
    cases hv : s.fields.lookup n with
    | none => rfl
    | some v =>
      rcases (field_cases hv).2 with hv | ⟨r, hr, -, -⟩
      · rw [Option.map_some, merge_of_not_obj _ hv]
      · exact absurd hr hne
  have hread := s.read?_toJson
  rw [Status.read?, toJson_eq, record?_of_nodup s.nodup_fields] at hread
  simp only [Option.bind_eq_bind, Option.bind_eq_some_iff, Option.some.injEq] at hread
  obtain ⟨_, rfl, phase, hphase, testId, htestId, digest, hdigest, version, hversion, results,
    -, errors, herrors, startedAt, hstartedAt, completedAt, hcompletedAt, hs⟩ := hread
  simp only [names, clearable] at hrecord hplain
  rw [Status.read?, hrecord, ← hresults]
  subst hs
  cases hr : optional Report.read? ((old.merge _).get? "results") <;>
    simp [hplain, hr, hphase, htestId, hdigest, hversion, herrors, hstartedAt, hcompletedAt]

/-- A status that was merged into another one. -/
def mergedInto (new old : Status) : Status :=
  { new with results := new.results.map fun r => (old.results.map r.mergedInto).getD r }

/-- Scenarios of an old report that stay when the new status is written. -/
def Spares (new old : Status) : Prop :=
  ∃ r r', new.results = some r ∧ old.results = some r' ∧ r.tests = [] ∧ r'.tests ≠ []

theorem mergedInto_eq_self_iff {new old : Status} :
    new.mergedInto old = new ↔ ¬ new.Spares old := by
  have hresults : new.mergedInto old = new ↔
      (new.results.map fun r => (old.results.map r.mergedInto).getD r) = new.results := by
    rw [mergedInto]
    exact ⟨congrArg results, fun h => by rw [h]⟩
  rw [hresults, Spares]
  cases new.results with
  | none => simp
  | some r =>
    cases old.results with
    | none => simp
    | some r' => simp [Report.mergedInto_eq_self_iff]

/-- What is read of a status that was merged into another one. -/
theorem read?_merge_toJson (new old : Status) :
    Status.read? (old.toJson.merge new.patch) = some (new.mergedInto old) := by
  rw [read?_merge, toJson_eq, get?, lookup_results, mergedInto]
  cases new.results with
  | none => rfl
  | some r =>
    have hread : Report.read? (((old.results.map Report.toJson).getD .null).merge r.toJson) =
        some ((old.results.map r.mergedInto).getD r) := by
      cases old.results with
      | none =>
        rw [Option.map_none, Option.getD_none, (settles_report r).2 _ (Or.inl rfl)]
        exact r.read?_toJson
      | some r' => exact r.read?_merge r'
    rw [Option.map_some, optional_some rfl, hread]
    rfl

end Status

/-! ### Stored objects -/

namespace Test

/-- The status that is read once that of a Test was written into a stored object. -/
def persisted? (t : Test) (stored : Json) : Option Status :=
  ((stored.merge t.statusPatch).get? "status").bind Status.read?

theorem persisted?_eq (t : Test) (stored : Json) :
    t.persisted? stored =
      Status.read? (((stored.get? "status").getD .null).merge (t.status.getD {}).patch) := by
  rw [persisted?, t.distinct_statusPatch.get?_merge]
  rfl

/-- A status without a report is read as it was written, whatever was stored. -/
theorem persisted?_of_results_eq_none {t : Test} {s : Status} (hs : t.status = some s)
    (hr : s.results = none) (stored : Json) : t.persisted? stored = some s := by
  rw [persisted?_eq, hs, Option.getD_some, Status.read?_merge, hr]
  show some { s with results := none } = some s
  rw [← hr]

theorem persisted?_of_toJson {old : Status} {stored : Json}
    (h : stored.get? "status" = some old.toJson) (t : Test) :
    t.persisted? stored = some ((t.status.getD {}).mergedInto old) := by
  rw [persisted?_eq, h, Option.getD_some, Status.read?_merge_toJson]

/-- What becomes of a stored object with another status when that of a Test is written to it. -/
structure Overwrites (t : Test) (old : Status) (stored : Json) : Prop where
  /-- The new status is read then, with the scenarios of the old report if the new one has none. -/
  persisted : t.persisted? stored = some ((t.status.getD {}).mergedInto old)
  /-- So nothing of the old status is left, unless there are such scenarios. -/
  replaced : t.persisted? stored = some (t.status.getD {}) ↔ ¬ (t.status.getD {}).Spares old
  /-- Of the metadata no more than the version changes. -/
  metadata : ∃ parts, (stored.merge t.statusPatch).get? "metadata" = some (.obj parts) ∧
    ∀ n, n ≠ "resourceVersion" →
      named n parts = named n (((stored.get? "metadata").bind Json.fields?).getD [])
  /-- All else is as it was, the spec above all. -/
  others : ∀ n, n ≠ "metadata" → n ≠ "status" →
    named n ((stored.merge t.statusPatch).fields?.getD []) = named n (stored.fields?.getD [])

/-- Whatever status an object holds, another one can be written to it, and replaces it unless it has
a report without scenarios and the old one has a report with some: these are still there then. -/
theorem overwrites {old : Status} {stored : Json} (h : stored.get? "status" = some old.toJson)
    (t : Test) : t.Overwrites old stored := by
  have hread := persisted?_of_toJson h t
  refine ⟨hread, ?_, ?_, fun n hm hs => ?_⟩
  · rw [hread, Option.some.injEq, Status.mergedInto_eq_self_iff]
  · rw [t.distinct_statusPatch.get?_merge]
    refine ⟨_, congrArg some (merge_obj _ _), fun n hn => ?_⟩
    have hnone : List.lookup n [("resourceVersion",
        (t.metadata.resourceVersion.map Json.str).getD .null)] = none :=
      lookup_eq_none_iff.2 (by simpa using hn)
    rw [named_mergeFields (by simp), hnone]
    cases stored.get? "metadata" <;> rfl
  · exact t.distinct_statusPatch.named_merge stored (lookup_eq_none_iff.2 (by simp [hm, hs]))

/-- A Test about whose only scenario something is known. -/
def reported (s : Status) : Test :=
  { metadata := { name := some "hello", namespaceName := some "default" }
    spec := { source := { name := "hello.feature" } }
    status := some s }

/-- The scenario failed, and the report says which one it was. -/
def detailed : Status :=
  { phase := .failed, testId := some "1", errors := ["greet: no answer"]
    results := some { summary := { total := 1, failed := 1 }, tests := [{ name := "greet" }] } }

/-- The scenario passed, and the report has no more than the counts. -/
def counted : Status :=
  { phase := .passed, testId := some "2"
    results := some { summary := { total := 1, passed := 1 } } }

theorem detailed_replaces_counted :
    (reported counted).toJson.get? "status" = some counted.toJson ∧
    (reported detailed).persisted? (reported counted).toJson = some detailed := by
  have h : (reported counted).toJson.get? "status" = some counted.toJson := get?_status _
  refine ⟨h, (overwrites h (reported detailed)).replaced.2 ?_⟩
  rintro ⟨r, r', hr, -, ht, -⟩
  cases hr
  cases ht

/-- The scenario of the other report is still there when only the counts are written. -/
theorem counted_spares_detailed :
    (reported detailed).toJson.get? "status" = some detailed.toJson ∧
    (reported counted).persisted? (reported detailed).toJson =
      some { counted with
        results := counted.results.map fun r => { r with tests := [{ name := "greet" }] } } ∧
    (reported counted).persisted? (reported detailed).toJson ≠ (reported counted).status := by
  have h : (reported detailed).toJson.get? "status" = some detailed.toJson := get?_status _
  rw [persisted?_of_toJson h]
  exact ⟨h, rfl, by decide⟩

/-! ### New generations -/

/-- The status that a generation begins with. -/
def generation (t : Test) (config : Config) (id : String) (now : Instant) : Status :=
  let begun := Status.begun id (t.spec.source.digest config.version) config.version
  match t.check with
  | .ok () => begun
  | .error f => begun.refused f now

theorem generation_cases (t : Test) (config : Config) (id : String) (now : Instant) :
    t.check = .ok () ∧ t.generation config id now =
        .begun id (t.spec.source.digest config.version) config.version ∨
      ∃ f, t.check = .error f ∧ t.generation config id now =
        (Status.begun id (t.spec.source.digest config.version) config.version).refused f now := by
  rw [generation]
  cases h : t.check with
  | ok u => exact Or.inl ⟨rfl, rfl⟩
  | error f => exact Or.inr ⟨f, rfl, rfl⟩

/-- A generation begins without a report. -/
theorem results_generation (t : Test) (config : Config) (id : String) (now : Instant) :
    (t.generation config id now).results = none := by
  rcases t.generation_cases config id now with ⟨-, h⟩ | ⟨f, -, h⟩ <;> rw [h] <;> rfl

/-- What a generation begins with is up to the name and the spec. -/
theorem generation_congr {t₁ t₂ : Test} (hn : t₁.metadata.name = t₂.metadata.name)
    (hs : t₁.spec = t₂.spec) (config : Config) (id : String) (now : Instant) :
    t₁.generation config id now = t₂.generation config id now := by
  rw [generation, generation, check_congr hn hs, hs]

section

variable {σ : Type} {world : (q : Query) → σ → q.Answer × σ} {id : String} {now : Instant}

/-- In a world that gives this id at this time, a generation begins with its status. -/
theorem run_handle_initiate (hid : ∀ s, (world .freshId s).1 = id)
    (hnow : ∀ s, (world .clock s).1 = now) (config : Config) (t : Test) (s : σ) :
    ((Action.initiate.handle config t).run.run world s).1 =
      .ok (some { t with status := some (t.generation config id now) }) := by
  rw [generation, Action.handle, Step.run_map, initiate, Step.run_bind, Step.run_freshId]
  simp only [Program.bind_ask, Program.bind_done, Program.run, Step.andThen, hid]
  cases h : t.check with
  | ok u => rfl
  | error f =>
    simp only [Step.run_bind, Step.run_clock, Program.bind_ask, Program.bind_done, Program.run,
      Step.andThen, hnow]
    rfl

/-- A new generation inherits nothing: if the name and the spec of two Tests are the same, then so
are their statuses once a generation has begun and was written, whatever statuses they had before
and whatever is stored. -/
theorem initiate_inherits_nothing (hid : ∀ s, (world .freshId s).1 = id)
    (hnow : ∀ s, (world .clock s).1 = now) (config : Config) {t₁ t₂ : Test}
    (hn : t₁.metadata.name = t₂.metadata.name) (hs : t₁.spec = t₂.spec) (s₁ s₂ : σ)
    (stored₁ stored₂ : Json) : ∃ (u₁ u₂ : Test) (st : Status),
      ((Action.initiate.handle config t₁).run.run world s₁).1 = .ok (some u₁) ∧
      ((Action.initiate.handle config t₂).run.run world s₂).1 = .ok (some u₂) ∧
      u₁.status = some st ∧ u₂.status = some st ∧
      u₁.persisted? stored₁ = some st ∧ u₂.persisted? stored₂ = some st ∧
      (t₁.check = .ok () ∧ st =
          { phase := .pending, testId := some id, version := some config.version
            digest := some (t₁.spec.source.digest config.version) } ∨
        ∃ f, t₁.check = .error f ∧ st =
          { phase := .error, testId := some id, version := some config.version
            digest := some (t₁.spec.source.digest config.version)
            errors := [f.message], completedAt := some now }) := by
  have hsame := generation_congr hn hs config id now
  refine ⟨_, _, _, run_handle_initiate hid hnow config t₁ s₁,
    run_handle_initiate hid hnow config t₂ s₂, rfl, congrArg some hsame.symm, ?_, ?_,
    t₁.generation_cases config id now⟩
  · exact persisted?_of_results_eq_none rfl (t₁.results_generation config id now) stored₁
  · rw [hsame]
    exact persisted?_of_results_eq_none rfl (t₂.results_generation config id now) stored₂

end

/-- A world in which every id is the third and all is done at once. -/
def thirdId : (q : Query) → Unit → q.Answer × Unit
  | .freshId, s => ("3", s)
  | .clock, s => (default, s)
  | .getTest _ _, s => (.ok none, s)
  | .writeStatus t, s => (.ok t, s)
  | .getPod _ _, s => (.ok none, s)
  | .apply _, s => (.ok (), s)

/-- A Test that is to run again. -/
def rerun : Test := reported { detailed with phase := .new }

/-- A Test of the same name and spec that never ran. -/
def unrun : Test := { rerun with status := none }

/-- Nothing tells apart how the two begin. -/
theorem thirdId_begins_alike :
    (∀ s, (thirdId .freshId s).1 = "3") ∧ (∀ s, (thirdId .clock s).1 = default) ∧
    rerun.metadata.name = unrun.metadata.name ∧ rerun.spec = unrun.spec ∧
    ∃ u₁ u₂ : Test,
      ((Action.initiate.handle {} rerun).run.run thirdId ()).1 = .ok (some u₁) ∧
      ((Action.initiate.handle {} unrun).run.run thirdId ()).1 = .ok (some u₂) ∧
      u₁.persisted? rerun.toJson = u₂.persisted? unrun.toJson ∧
      u₁.persisted? rerun.toJson =
        some (.begun "3" (rerun.spec.source.digest controllerVersion) controllerVersion) := by
  have hid : ∀ s, (thirdId .freshId s).1 = "3" := fun _ => rfl
  have hnow : ∀ s, (thirdId .clock s).1 = default := fun _ => rfl
  have hn : rerun.metadata.name = unrun.metadata.name := rfl
  obtain ⟨u₁, u₂, st, h₁, h₂, -, -, hp₁, hp₂, hst⟩ :=
    initiate_inherits_nothing hid hnow {} hn rfl () () rerun.toJson unrun.toJson
  have hok : rerun.check = .ok () := rfl
  have hbegun : st = .begun "3" (rerun.spec.source.digest controllerVersion) controllerVersion := by
    rcases hst with ⟨-, h⟩ | ⟨f, hf, -⟩
    · exact h
    · rw [hok] at hf
      cases hf
  exact ⟨hid, hnow, hn, rfl, u₁, u₂, h₁, h₂, hp₁.trans hp₂.symm, hbegun ▸ hp₁⟩

end Test

end Proctor
