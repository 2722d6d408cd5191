import Proctor.Proofs.Lifecycle.Computation

/-!
# How a run is judged

A run is judged by its Pod, and of the Pod by two things alone: its phase (`Pod.phase?`), and the
message that the first container of the test's name has terminated with (`Pod.message?`). The phase
decides where the Test goes, whatever the message says; the message gives the report and the errors.
What keeps the Pod from being read is no verdict: a fault of the store is handed on as it is.
-/

namespace Proctor

/-! ### What is read of a Pod -/

/-- The message that a container has terminated with. -/
def ContainerStatus.message? (c : ContainerStatus) : Option String :=
  (c.state.bind ContainerState.terminated).bind Terminated.message

namespace Pod

variable {p q : Pod}

/-- The phase of a Pod. -/
def phase? (p : Pod) : Option String := p.status.bind PodStatus.phase

/-- What is known of the containers of a Pod. -/
def containerStatuses (p : Pod) : List ContainerStatus :=
  (p.status.bind PodStatus.containerStatuses).getD []

/-- The message that the first container of the test's name has terminated with. -/
def message? (p : Pod) : Option String :=
  (p.containerStatuses.find? (·.name = "test")).bind ContainerStatus.message?

/-- Containers with other names do not matter, nor does what follows the first one of the name. -/
theorem message?_eq_some_iff {m : String} :
    p.message? = some m ↔ ∃ before c after, p.containerStatuses = before ++ c :: after ∧
      (∀ b ∈ before, b.name ≠ "test") ∧ c.name = "test" ∧ c.message? = some m := by
  rw [message?, Option.bind_eq_some_iff]
  simp only [List.find?_eq_some_iff_append, decide_eq_true_eq, Bool.not_eq_true',
    decide_eq_false_iff_not]
  constructor
  · rintro ⟨c, ⟨hc, before, after, hs, hb⟩, hm⟩
    exact ⟨before, c, after, hs, hb, hc, hm⟩
  · rintro ⟨before, c, after, hs, hb, hc, hm⟩
    exact ⟨c, ⟨hc, before, after, hs, hb⟩, hm⟩

theorem lastWords?_eq (p : Pod) : p.lastWords? = p.message?.bind Text.nonblank? := by
  rw [lastWords?, message?, containerStatuses]
  cases p.status with
  | none => rfl
  | some status =>
    cases hs : status.containerStatuses with
    | none => simp [hs]
    | some containers =>
      have hname : (fun c : ContainerStatus => c.name == Workload.containerName) =
          fun c => decide (c.name = "test") := rfl
      simp only [Option.bind_some, Option.bind_eq_bind, hs, Option.getD_some, hname,
        Option.bind_assoc, ContainerStatus.message?]

theorem outcome_eq_succeeded_iff : p.outcome = .succeeded ↔ p.phase? = some "Succeeded" := by
  rw [outcome, phase?]
  split <;> simp_all

theorem outcome_eq_failed_iff : p.outcome = .failed ↔ p.phase? = some "Failed" := by
  rw [outcome, phase?]
  split <;> simp_all

theorem outcome_eq_inProgress (hs : p.phase? ≠ some "Succeeded") (hf : p.phase? ≠ some "Failed") :
    p.outcome = .inProgress := by
  cases h : p.outcome with
  | inProgress => rfl
  | succeeded => exact absurd (outcome_eq_succeeded_iff.1 h) hs
  | failed => exact absurd (outcome_eq_failed_iff.1 h) hf

/-- Pods of one phase have one outcome. -/
theorem outcome_congr (h : p.phase? = q.phase?) : p.outcome = q.outcome := by
  rw [outcome, outcome, show p.status.bind PodStatus.phase = q.status.bind PodStatus.phase from h]

/-- Of Pods with one message the same is kept. -/
theorem collect_congr (h : p.message? = q.message?) : p.collect = q.collect := by
  funext outcome
  rw [collect, collect, lastWords?_eq, lastWords?_eq, h]

end Pod

/-! ### The judgement -/

namespace Test

variable {t : Test} {st : Status} {namespaceName id : String}

/-- A Test whose run is over. Its errors stay and others are added; of all else only the phase, the
report and the time of the end are other ones. -/
def judged (t : Test) (st : Status) (phase : Phase) (results : Option Report)
    (errors : List String) (now : Instant) : Test :=
  { t with
    status := some { st with
      phase, results, errors := st.errors ++ errors, completedAt := some now } }

/-- The end of a judgement: the time is asked for, and the run is over. -/
def ending (t : Test) (st : Status) (phase : Phase) (kept : Collected) :
    Program (Except Fault (Option Test)) :=
  .ask .clock fun now => .done (.ok (some (t.judged st phase kept.results kept.errors now)))

/-- How a judgement goes on once it is known what there is of the Pod. -/
def judge (t : Test) (st : Status) (name : String) :
    Except Fault (Option Pod) → Program (Except Fault (Option Test))
  | .error f => .done (.error f)
  | .ok none => t.ending st .error { errors := ["test pod " ++ name ++ " not found"] }
  | .ok (some pod) =>
    match pod.outcome with
    | .inProgress => .done (.ok none)
    | .succeeded => t.ending st .passed (pod.collect .succeeded)
    | .failed => t.ending st .failed (pod.collect .failed)

theorem run_some_finish (hs : t.status = some st) (phase : Phase) (kept : Collected) :
    (some <$> t.finish phase kept : Step (Option Test)).run = t.ending st phase kept := by
  have hj : ∀ now, (t.withStatus fun s => s.finished phase kept now) =
      t.judged st phase kept.results kept.errors now := by
    intro now
    rw [withStatus, hs]
    rfl
  rw [ending, ← funext hj]
  rfl

/-- A Test without an id is judged without a Pod. -/
theorem run_evaluate_of_testId_none (hn : t.metadata.namespaceName = some namespaceName)
    (hs : t.status = some st) (hi : st.testId = none) :
    t.evaluate.run = t.ending st .error { errors := ["test is running without a TestID"] } := by
  have hid : t.testId? = none := by rw [testId?, hs, Option.bind_some, hi]
  rw [evaluate, Step.run_bind, Step.run_lift, hn, orFault, Program.bind_done, Step.andThen, hid]
  exact run_some_finish hs _ _

/-- A Test with an id is judged by what there is of the Pod of its generation. -/
theorem run_evaluate (hn : t.metadata.namespaceName = some namespaceName)
    (hs : t.status = some st) (hi : st.testId = some id) :
    t.evaluate.run = .ask (.getPod namespaceName (generationName t.nameAny id))
      (t.judge st (generationName t.nameAny id)) := by
  have hid : t.testId? = some id := by rw [testId?, hs, Option.bind_some, hi]
  rw [evaluate, Step.run_bind, Step.run_lift, hn, orFault, Program.bind_done, Step.andThen, hid]
  dsimp only
  rw [Step.run_bind, Step.run_getPod, Program.bind_ask]
  congr 1
  funext answer
  rw [Program.bind_done]
  rcases answer with f | _ | pod
  · rfl
  · exact run_some_finish hs _ _
  · rw [Step.andThen, judge]
    dsimp only
    cases pod.outcome with
    | inProgress => rfl
    | succeeded => exact run_some_finish hs _ _
    | failed => exact run_some_finish hs _ _

theorem judge_of_succeeded {name : String} {pod : Pod} (h : pod.phase? = some "Succeeded") :
    t.judge st name (.ok (some pod)) = t.ending st .passed (pod.collect .succeeded) := by
  rw [judge, Pod.outcome_eq_succeeded_iff.2 h]

theorem judge_of_failed {name : String} {pod : Pod} (h : pod.phase? = some "Failed") :
    t.judge st name (.ok (some pod)) = t.ending st .failed (pod.collect .failed) := by
  rw [judge, Pod.outcome_eq_failed_iff.2 h]

/-- Pods with one phase and one message are judged alike. -/
theorem judge_congr {name : String} {p q : Pod} (hp : p.phase? = q.phase?)
    (hm : p.message? = q.message?) :
    t.judge st name (.ok (some p)) = t.judge st name (.ok (some q)) := by
  rw [judge, judge, Pod.outcome_congr hp, Pod.collect_congr hm]

/-- How a run is judged. A Test without an id goes to `Error` and no Pod is read. Else the Pod of
the generation is all that is asked for. If the store fails, then so does the judgement; if there is
no Pod, the Test goes to `Error` and its name is told; while the Pod has neither succeeded nor
failed, nothing happens; and if it has, the Test goes to `Passed` or `Failed`, whatever the Pod says
besides. Nothing about the Test is changed but what `judged` names. And Pods with the same phase and
the same message of the test's container are judged alike, whatever else is true of them. -/
theorem verdict_of_pod {t : Test} {st : Status} {namespaceName : String} (config : Config)
    (hn : t.metadata.namespaceName = some namespaceName) (hs : t.status = some st) :
    (st.testId = none →
      (Action.evaluate.handle config t).run = .ask .clock fun now => .done (.ok (some
        (t.judged st .error none ["test is running without a TestID"] now)))) ∧
    ∀ id, st.testId = some id → ∃ next : Except Fault (Option Pod) → Program _,
      (Action.evaluate.handle config t).run =
        .ask (.getPod namespaceName (generationName t.nameAny id)) next ∧
      (∀ f, next (.error f) = .done (.error f)) ∧
      (next (.ok none) = .ask .clock fun now => .done (.ok (some (t.judged st .error none
        ["test pod " ++ generationName t.nameAny id ++ " not found"] now)))) ∧
      (∀ pod, pod.phase? ≠ some "Succeeded" → pod.phase? ≠ some "Failed" →
        next (.ok (some pod)) = .done (.ok none)) ∧
      (∀ pod, pod.phase? = some "Succeeded" → ∃ results errors,
        next (.ok (some pod)) = .ask .clock fun now =>
          .done (.ok (some (t.judged st .passed results errors now)))) ∧
      (∀ pod, pod.phase? = some "Failed" → ∃ results errors,
        next (.ok (some pod)) = .ask .clock fun now =>
          .done (.ok (some (t.judged st .failed results errors now)))) ∧
      ∀ pod pod', pod.phase? = pod'.phase? → pod.message? = pod'.message? →
        next (.ok (some pod)) = next (.ok (some pod')) := by
  refine ⟨run_evaluate_of_testId_none hn hs, fun id hi => ?_⟩
  refine ⟨t.judge st (generationName t.nameAny id), run_evaluate hn hs hi, fun f => rfl, rfl,
    fun pod hsucceeded hfailed => ?_, fun pod hp => ⟨_, _, judge_of_succeeded hp⟩,
    fun pod hp => ⟨_, _, judge_of_failed hp⟩, fun pod pod' => judge_congr⟩
  rw [judge, Pod.outcome_eq_inProgress hsucceeded hfailed]

/-- A Test that is running. -/
def underway : Test :=
  { metadata := { name := some "hello", namespaceName := some "default", uid := some "uid" }
    spec := { source := { name := "hello.feature", content := "Feature: hello" } }
    status := some { phase := .running, testId := some "1" } }

/-- A container with a message, of a name. -/
def spoke (name message : String) (exitCode : Int) : ContainerStatus :=
  { name, state := some { terminated := some { exitCode, message := some message } } }

/-- A Pod of a phase with containers. -/
def podOf (phase : String) (containers : List ContainerStatus) : Pod :=
  { status := some { phase := some phase, containerStatuses := some containers } }

/-- A container beside that of the test, and how the test's container ended, do not matter. -/
theorem underway_judged_alike :
    underway.metadata.namespaceName = some "default" ∧
    (∃ st, underway.status = some st ∧ st.testId = some "1" ∧ st.phase = .running) ∧
    ∃ next : Except Fault (Option Pod) → Program _,
      (Action.evaluate.handle {} underway).run = .ask (.getPod "default" "test-hello-1") next ∧
      next (.ok (some (podOf "Failed" [spoke "proxy" "bye" 0, spoke "test" "boom" 2]))) =
        next (.ok (some (podOf "Failed" [spoke "test" "boom" 1]))) ∧
      ∃ results errors, next (.ok (some (podOf "Failed" [spoke "test" "boom" 1]))) =
        .ask .clock fun now => .done (.ok (some
          (underway.judged { phase := .running, testId := some "1" } .failed results errors now))) := by
  refine ⟨rfl, ⟨_, rfl, rfl, rfl⟩, ?_⟩
  obtain ⟨next, hrun, -, -, -, -, hfailed, halike⟩ :=
    (verdict_of_pod (t := underway) {} rfl rfl).2 "1" rfl
  exact ⟨next, hrun, halike _ _ rfl (by decide), hfailed _ rfl⟩

end Test

end Proctor
