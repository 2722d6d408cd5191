import Proctor.Proofs.Lifecycle.Judgement
import Proctor.Proofs.Test.Silence

/-!
# What is kept of a failed run

A run that has failed leaves a message. If the message is a report, then the report is stored, with
an error for each scenario that has one; and if it is none, then it is itself kept as an error, as
it is the end of the log then. A line of a log can be taken for a report, though, when the log is
written in JSON: what has none of the names of a report is a report that says nothing, and the
message is gone. This happens for the silent values (`Report.Silent`) and for no others
(`Collected.says_collectMessage_iff`).
-/

namespace Proctor

/-! ### Messages -/

namespace Collected

variable {message : String}

/-- Something is kept of a run: an error, or a report with a count or a scenario. -/
def Says (kept : Collected) : Prop :=
  kept.errors ≠ [] ∨ ∃ r, kept.results = some r ∧ r ≠ {}

theorem says_collectMessage_iff_ofText? :
    (collectMessage message .failed).Says ↔ Report.ofText? message ≠ some {} := by
  rw [collectMessage]
  cases Report.ofText? message with
  | none => simp [Says]
  | some r =>
    constructor
    · rintro (herrors | ⟨_, hr, hne⟩) heq
      · obtain rfl := Option.some.inj heq
        exact herrors rfl
      · obtain rfl := Option.some.inj hr
        exact hne (Option.some.inj heq)
    · intro hne
      exact Or.inr ⟨r, rfl, fun h => hne (congrArg some h)⟩

/-- Nothing is kept of a message just if it is a report that says nothing. -/
theorem says_collectMessage_iff :
    (collectMessage message .failed).Says ↔
      ¬ ∃ j, Json.read? message = some j ∧ Report.Silent j := by
  rw [says_collectMessage_iff_ofText?, Ne, Report.ofText?_eq_default_iff]

end Collected

/-- Of a message that is not blank everything but the blanks around it is looked at. -/
theorem Pod.collect_of_message {p : Pod} {m : String} (hm : p.message? = some m)
    (hb : Text.trim m ≠ "") (outcome : Outcome) :
    p.collect outcome = collectMessage (Text.trim m) outcome := by
  have hwords : p.lastWords? = some (Text.trim m) := by
    rw [lastWords?_eq, hm, Option.bind_some, Text.nonblank?, if_neg hb]
  rw [collect, hwords]

/-! ### Failed runs -/

namespace Test

/-- What is kept of a failed run that left a message. The Test goes to `Failed`. A message that is
no report is added to the errors as it is, without the blanks around it; of one that is, the report
is stored and its errors are added. And so something is kept of the message, an error or a report
with a count or a scenario, unless it is the text of a value that is silent. -/
theorem diagnostic_kept_iff {t : Test} {st : Status} {namespaceName id m : String} {pod : Pod}
    (config : Config) (hn : t.metadata.namespaceName = some namespaceName)
    (hs : t.status = some st) (hi : st.testId = some id) (hp : pod.phase? = some "Failed")
    (hm : pod.message? = some m) (hb : Text.trim m ≠ "") :
    ∃ (results : Option Report) (errors : List String)
        (next : Except Fault (Option Pod) → Program _),
      (Action.evaluate.handle config t).run =
        .ask (.getPod namespaceName (generationName t.nameAny id)) next ∧
      (next (.ok (some pod)) = .ask .clock fun now =>
        .done (.ok (some (t.judged st .failed results errors now)))) ∧
      (Report.ofText? (Text.trim m) = none → results = none ∧ errors = [Text.trim m]) ∧
      (∀ r, Report.ofText? (Text.trim m) = some r → results = some r ∧ errors = r.errorLines) ∧
      ((errors ≠ [] ∨ ∃ r, results = some r ∧ r ≠ {}) ↔
        ¬ ∃ j, Json.read? (Text.trim m) = some j ∧ Report.Silent j) := by
  have hkept : pod.collect .failed = collectMessage (Text.trim m) .failed :=
    pod.collect_of_message hm hb .failed
  refine ⟨(collectMessage (Text.trim m) .failed).results,
    (collectMessage (Text.trim m) .failed).errors, t.judge st (generationName t.nameAny id),
    run_evaluate hn hs hi, ?_, fun hnone => ?_, fun r hr => ?_, Collected.says_collectMessage_iff⟩
  · rw [judge_of_failed hp, hkept]
    rfl
  · rw [collectMessage, hnone]
    exact ⟨rfl, rfl⟩
  · rw [collectMessage, hr]
    exact ⟨rfl, rfl⟩

/-- A message that is no report is kept. -/
theorem underway_keeps_message :
    ∃ next : Except Fault (Option Pod) → Program _,
      (Action.evaluate.handle {} underway).run = .ask (.getPod "default" "test-hello-1") next ∧
      next (.ok (some (podOf "Failed" [spoke "test" " OutOfMemory " 137]))) =
        .ask .clock fun now => .done (.ok (some (underway.judged
          { phase := .running, testId := some "1" } .failed none ["OutOfMemory"] now))) := by
  have hm : (podOf "Failed" [spoke "test" " OutOfMemory " 137]).message? =
      some " OutOfMemory " := by
    decide
  obtain ⟨results, errors, next, hrun, hnext, hnone, -, -⟩ :=
    diagnostic_kept_iff (t := underway) {} rfl rfl rfl rfl hm (by decide)
  have hwords : Text.trim " OutOfMemory " = "OutOfMemory" := by decide
  rw [hwords] at hnone
  obtain ⟨rfl, rfl⟩ := hnone (by decide +kernel)
  exact ⟨next, hrun, hnext⟩

/-- A line of a log that is written in JSON. -/
def logLine : String := "\x7b\"level\":\"error\",\"message\":\"out of memory\"\x7d"

/-- The line is taken for a report that says nothing, and nothing is kept of it. -/
theorem underway_loses_message :
    Text.trim logLine ≠ "" ∧ (podOf "Failed" [spoke "test" logLine 137]).message? = some logLine ∧
    ∃ next : Except Fault (Option Pod) → Program _,
      (Action.evaluate.handle {} underway).run = .ask (.getPod "default" "test-hello-1") next ∧
      next (.ok (some (podOf "Failed" [spoke "test" logLine 137]))) =
        .ask .clock fun now => .done (.ok (some (underway.judged
          { phase := .running, testId := some "1" } .failed (some {}) [] now))) := by
  have hkept : (podOf "Failed" [spoke "test" logLine 137]).collect .failed =
      { results := some {}, errors := [] } := by
    decide +kernel
  have hn : underway.metadata.namespaceName = some "default" := rfl
  have hs : underway.status = some { phase := .running, testId := some "1" } := rfl
  have hname : generationName underway.nameAny "1" = "test-hello-1" := by decide
  have hrun := run_evaluate hn hs rfl
  rw [hname] at hrun
  refine ⟨by decide +kernel, by decide, _, hrun, ?_⟩
  rw [judge_of_failed rfl, hkept]
  rfl

end Test

end Proctor
