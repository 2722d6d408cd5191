import Proctor.Lifecycle.Steps
import Proctor.Proofs.Lifecycle.Exchange

/-!
# What an action computes

`Computes config t a es u` says, without the program of the action, that the action `a` computes
from the Test `t` the Test `u` after the exchanges `es`. `handle_ends_iff` ties it to the program:
these are just the Tests that the action wants to be stored. So a case of `Computes` is all that a
proof about an action has to look at.
-/

namespace Proctor

/-- How the run of a Test is judged, after some exchanges. -/
inductive Verdict (t : Test) (namespaceName : String) :
    List Exchange → Phase → Collected → Prop where
  /-- Without an id no Pod is asked. -/
  | unnamed (h : t.testId? = none) :
    Verdict t namespaceName [] .error { errors := ["test is running without a TestID"] }
  /-- The Pod is not there. -/
  | lost {id : String} (h : t.testId? = some id) :
    Verdict t namespaceName [⟨.getPod namespaceName (generationName t.nameAny id), .ok none⟩] .error
      { errors := ["test pod " ++ generationName t.nameAny id ++ " not found"] }
  /-- The Pod succeeded. -/
  | succeeded {id : String} {pod : Pod} (h : t.testId? = some id) (ho : pod.outcome = .succeeded) :
    Verdict t namespaceName
      [⟨.getPod namespaceName (generationName t.nameAny id), .ok (some pod)⟩] .passed
      (pod.collect .succeeded)
  /-- The Pod failed. -/
  | failed {id : String} {pod : Pod} (h : t.testId? = some id) (ho : pod.outcome = .failed) :
    Verdict t namespaceName
      [⟨.getPod namespaceName (generationName t.nameAny id), .ok (some pod)⟩] .failed
      (pod.collect .failed)

/-- What an action computes from a Test after some exchanges. -/
inductive Computes (config : Config) (t : Test) : Action → List Exchange → Test → Prop where
  /-- A generation begins. -/
  | begun (id : String) (h : t.check = .ok ()) :
    Computes config t .initiate [⟨.freshId, id⟩]
      { t with status := some (.begun id (t.spec.source.digest config.version) config.version) }
  /-- A generation is refused. -/
  | refused (id : String) (now : Instant) {f : Fault} (h : t.check = .error f) :
    Computes config t .initiate [⟨.freshId, id⟩, ⟨.clock, now⟩]
      { t with
        status := some ((Status.begun id (t.spec.source.digest config.version)
          config.version).refused f now) }
  /-- The workload is applied. -/
  | started {namespaceName : String} {w : Workload} (now : Instant)
      (hn : t.metadata.namespaceName = some namespaceName) (hw : t.workload config = .ok w) :
    Computes config t .start
      ((w.manifests namespaceName).map (fun m => ⟨.apply m, .ok ()⟩) ++ [⟨.clock, now⟩])
      (t.withStatus fun s => { s with phase := .running, startedAt := some now })
  /-- The run is judged. -/
  | judged {namespaceName : String} {es : List Exchange} {phase : Phase} {kept : Collected}
      (now : Instant) (hn : t.metadata.namespaceName = some namespaceName)
      (hv : Verdict t namespaceName es phase kept) :
    Computes config t .evaluate (es ++ [⟨.clock, now⟩])
      (t.withStatus fun s => s.finished phase kept now)
  /-- The Test is to run again. -/
  | restarted (h : t.status.bind Status.digest ≠ some (t.spec.source.digest config.version)) :
    Computes config t .monitor [] (t.withStatus fun s => { s with phase := .new })

/-! ### Each action by itself -/

theorem orFault_eq_ok_iff {α : Type} {f : Fault} {o : Option α} {a : α} :
    orFault f o = .ok a ↔ o = some a := by
  cases o <;> simp [orFault]

namespace Step

theorem ends_freshId_iff {es : List Exchange} {id : String} :
    freshId.run.Ends es (.ok id) ↔ es = [⟨.freshId, id⟩] := by
  rw [run_freshId, Program.ends_ask_done_iff]
  constructor
  · rintro ⟨x, rfl, h⟩
    cases h
    rfl
  · rintro rfl
    exact ⟨id, rfl, rfl⟩

theorem ends_clock_iff {es : List Exchange} {now : Instant} :
    clock.run.Ends es (.ok now) ↔ es = [⟨.clock, now⟩] := by
  rw [run_clock, Program.ends_ask_done_iff]
  constructor
  · rintro ⟨x, rfl, h⟩
    cases h
    rfl
  · rintro rfl
    exact ⟨now, rfl, rfl⟩

theorem ends_getPod_iff {namespaceName name : String} {es : List Exchange} {pod : Option Pod} :
    (getPod namespaceName name).run.Ends es (.ok pod) ↔
      es = [⟨.getPod namespaceName name, .ok pod⟩] := by
  rw [run_getPod, Program.ends_ask_done_iff]
  constructor
  · rintro ⟨x, rfl, rfl⟩
    rfl
  · rintro rfl
    exact ⟨_, rfl, rfl⟩

theorem ends_apply_iff {m : Manifest} {es : List Exchange} {u : Unit} :
    (apply m).run.Ends es (.ok u) ↔ es = [⟨.apply m, .ok u⟩] := by
  rw [run_apply, Program.ends_ask_done_iff]
  constructor
  · rintro ⟨x, rfl, rfl⟩
    rfl
  · rintro rfl
    exact ⟨_, rfl, rfl⟩

theorem ends_lift_iff {α : Type} {r : Except Fault α} {es : List Exchange} {a : α} :
    (Step.lift r).run.Ends es (.ok a) ↔ es = [] ∧ r = .ok a := by
  simp [eq_comm]

theorem ends_applyAll_iff {ms : List Manifest} {es : List Exchange} {u : Unit} :
    (applyAll ms).run.Ends es (.ok u) ↔ es = ms.map fun m => ⟨.apply m, .ok ()⟩ := by
  induction ms generalizing es with
  | nil => simp [applyAll]
  | cons m rest ih =>
    rw [applyAll, ends_bind_ok_iff]
    simp only [ih, ends_apply_iff, List.map_cons]
    constructor
    · rintro ⟨_, _, _, rfl, rfl, rfl⟩
      rfl
    · rintro rfl
      exact ⟨_, _, (), rfl, rfl, rfl⟩

/-- Objects are applied up to the first that is refused. -/
theorem ends_applyAll_error_iff {ms : List Manifest} {es : List Exchange} {f : Fault} :
    (applyAll ms).run.Ends es (.error f) ↔
      ∃ before m after, ms = before ++ m :: after ∧
        es = before.map (fun m => ⟨.apply m, .ok ()⟩) ++ [⟨.apply m, .error f⟩] := by
  induction ms generalizing es with
  | nil => simp [applyAll]
  | cons m rest ih =>
    rw [applyAll, run_bind, run_apply, Program.bind_ask, Program.ends_ask_iff]
    constructor
    · rintro ⟨x, es, rfl, h⟩
      rcases x with g | u
      · obtain ⟨rfl, hd⟩ := Program.walk_done_iff.1 h
        cases hd
        exact ⟨[], m, rest, rfl, rfl⟩
      · obtain ⟨before, m', after, rfl, rfl⟩ := ih.1 h
        exact ⟨m :: before, m', after, rfl, rfl⟩
    · rintro ⟨before, m', after, hms, rfl⟩
      cases before with
      | nil =>
        obtain ⟨rfl, rfl⟩ := List.cons.inj hms
        exact ⟨.error f, [], rfl, .nil _⟩
      | cons b before =>
        obtain ⟨rfl, rfl⟩ := List.cons.inj hms
        exact ⟨.ok (), _, rfl, ih.2 ⟨before, m', after, rfl, rfl⟩⟩

end Step

namespace Test

theorem initiate_ends_iff {t u : Test} {config : Config} {es : List Exchange} :
    (t.initiate config).run.Ends es (.ok u) ↔ Computes config t .initiate es u := by
  rw [initiate, Step.ends_bind_ok_iff]
  simp only [Step.ends_freshId_iff]
  constructor
  · rintro ⟨_, es₂, id, rfl, rfl, h⟩
    cases hc : t.check with
    | ok _ =>
      simp only [hc, ExceptT.run_pure, Program.pure_eq_done, Program.walk_done_iff] at h
      obtain ⟨rfl, h⟩ := h
      cases h
      exact .begun id hc
    | error f =>
      simp only [hc, Step.ends_bind_ok_iff, Step.ends_clock_iff] at h
      obtain ⟨_, es₃, now, rfl, rfl, h⟩ := h
      simp only [ExceptT.run_pure, Program.pure_eq_done, Program.walk_done_iff] at h
      obtain ⟨rfl, h⟩ := h
      cases h
      exact .refused id now hc
  · intro h
    cases h with
    | begun id hc => exact ⟨_, [], id, rfl, rfl, by simp [hc]⟩
    | refused id now hc =>
      refine ⟨_, [⟨.clock, now⟩], id, rfl, rfl, ?_⟩
      simp only [hc, Step.ends_bind_ok_iff, Step.ends_clock_iff]
      exact ⟨_, [], now, rfl, rfl, by simp⟩

theorem start_ends_iff {t u : Test} {config : Config} {es : List Exchange} :
    (t.start config).run.Ends es (.ok u) ↔ Computes config t .start es u := by
  simp only [start, Step.ends_bind_ok_iff, Step.ends_lift_iff, orFault_eq_ok_iff,
    Step.ends_applyAll_iff, Step.ends_clock_iff, ExceptT.run_pure, Program.pure_eq_done,
    Program.walk_done_iff]
  constructor
  · rintro ⟨_, _, namespaceName, rfl, ⟨rfl, hn⟩, _, _, w, rfl, ⟨rfl, hw⟩, _, _, -, rfl, rfl, _, _,
      now, rfl, rfl, rfl, h⟩
    cases h
    exact .started now hn hw
  · intro h
    cases h with
    | @started namespaceName w now hn hw =>
      exact ⟨[], _, namespaceName, rfl, ⟨rfl, hn⟩, [], _, w, rfl, ⟨rfl, hw⟩, _, _, (), rfl, rfl,
        _, [], now, rfl, rfl, rfl, rfl⟩

/-- A Test once its workload is applied. -/
def started (t : Test) (now : Instant) : Test :=
  t.withStatus fun s => { s with phase := .running, startedAt := some now }

theorem run_start {t : Test} {config : Config} {namespaceName : String} {w : Workload}
    (hn : t.metadata.namespaceName = some namespaceName) (hw : t.workload config = .ok w) :
    (t.start config).run = (Step.applyAll (w.manifests namespaceName)).run.bind fun
      | .error f => .done (.error f)
      | .ok _ => .ask .clock fun now => .done (.ok (t.started now)) := by
  rw [start, Step.run_bind, Step.run_lift, hn, orFault, Program.bind_done, Step.andThen,
    Step.run_bind, Step.run_lift, hw, Program.bind_done, Step.andThen, Step.run_bind]
  congr 1
  funext r
  cases r <;> rfl

theorem some_finish_ends_iff {t u : Test} {phase : Phase} {kept : Collected}
    {es : List Exchange} :
    (some <$> t.finish phase kept : Step (Option Test)).run.Ends es (.ok (some u)) ↔
      ∃ now, es = [⟨.clock, now⟩] ∧ u = t.withStatus fun s => s.finished phase kept now := by
  simp only [finish, Step.ends_map_ok_iff, Step.ends_bind_ok_iff, Step.ends_clock_iff,
    ExceptT.run_pure, Program.pure_eq_done, Program.walk_done_iff]
  constructor
  · rintro ⟨_, ⟨_, _, now, rfl, rfl, rfl, h⟩, hu⟩
    cases h
    cases hu
    exact ⟨now, rfl, rfl⟩
  · rintro ⟨now, rfl, rfl⟩
    exact ⟨_, ⟨_, [], now, rfl, rfl, rfl, rfl⟩, rfl⟩

theorem evaluate_ends_iff {t u : Test} {config : Config} {es : List Exchange} :
    t.evaluate.run.Ends es (.ok (some u)) ↔ Computes config t .evaluate es u := by
  rw [evaluate, Step.ends_bind_ok_iff]
  simp only [Step.ends_lift_iff, orFault_eq_ok_iff]
  constructor
  · rintro ⟨_, es₂, namespaceName, rfl, ⟨rfl, hn⟩, h⟩
    rw [List.nil_append]
    cases hi : t.testId? with
    | none =>
      simp only [hi, some_finish_ends_iff] at h
      obtain ⟨now, rfl, rfl⟩ := h
      exact .judged now hn (.unnamed hi)
    | some id =>
      simp only [hi, Step.ends_bind_ok_iff, Step.ends_getPod_iff] at h
      obtain ⟨_, es₃, pod?, rfl, rfl, h⟩ := h
      cases pod? with
      | none =>
        simp only [some_finish_ends_iff] at h
        obtain ⟨now, rfl, rfl⟩ := h
        exact .judged now hn (.lost hi)
      | some pod =>
        cases ho : pod.outcome with
        | inProgress => simp [ho] at h
        | succeeded =>
          simp only [ho, some_finish_ends_iff] at h
          obtain ⟨now, rfl, rfl⟩ := h
          exact .judged now hn (.succeeded hi ho)
        | failed =>
          simp only [ho, some_finish_ends_iff] at h
          obtain ⟨now, rfl, rfl⟩ := h
          exact .judged now hn (.failed hi ho)
  · intro h
    cases h with
    | @judged namespaceName es phase kept now hn hv =>
      refine ⟨[], _, namespaceName, rfl, ⟨rfl, hn⟩, ?_⟩
      cases hv with
      | unnamed hi =>
        simp only [hi, some_finish_ends_iff]
        exact ⟨now, rfl, rfl⟩
      | lost hi =>
        simp only [hi, Step.ends_bind_ok_iff, Step.ends_getPod_iff]
        refine ⟨_, _, none, rfl, rfl, ?_⟩
        simp only [some_finish_ends_iff]
        exact ⟨now, rfl, rfl⟩
      | @succeeded id pod hi ho =>
        simp only [hi, Step.ends_bind_ok_iff, Step.ends_getPod_iff]
        refine ⟨_, _, some pod, rfl, rfl, ?_⟩
        simp only [ho, some_finish_ends_iff]
        exact ⟨now, rfl, rfl⟩
      | @failed id pod hi ho =>
        simp only [hi, Step.ends_bind_ok_iff, Step.ends_getPod_iff]
        refine ⟨_, _, some pod, rfl, rfl, ?_⟩
        simp only [ho, some_finish_ends_iff]
        exact ⟨now, rfl, rfl⟩

theorem restart?_eq_some_iff {t u : Test} {config : Config} :
    t.restart? config = some u ↔ Computes config t .monitor [] u := by
  rw [restart?]
  constructor
  · intro h
    split at h
    · cases h
    · next hd =>
      cases h
      exact .restarted hd
  · intro h
    cases h with
    | restarted hd => rw [if_neg hd]

end Test

/-- The Tests that an action wants to be stored are those that it computes. -/
theorem Action.handle_ends_iff {a : Action} {config : Config} {t u : Test} {es : List Exchange} :
    (a.handle config t).run.Ends es (.ok (some u)) ↔ Computes config t a es u := by
  cases a with
  | initiate => simp [handle, Step.ends_map_ok_iff, Test.initiate_ends_iff]
  | start => simp [handle, Step.ends_map_ok_iff, Test.start_ends_iff]
  | evaluate => exact Test.evaluate_ends_iff
  | monitor =>
    rw [handle, ExceptT.run_pure, Program.pure_eq_done, Program.Ends, Program.walk_done_iff]
    constructor
    · rintro ⟨rfl, h⟩
      exact Test.restart?_eq_some_iff.1 (by simpa [eq_comm] using h)
    · intro h
      cases h with
      | restarted hd => simp [Test.restart?_eq_some_iff.2 (.restarted hd)]
  | noop =>
    rw [handle, ExceptT.run_pure, Program.pure_eq_done, Program.Ends, Program.walk_done_iff]
    constructor
    · rintro ⟨-, h⟩
      cases h
    · intro h
      cases h

/-! ### What an action keeps and records, and where it leads -/

/-- The moves from one phase to another that the controller makes. -/
def Phase.leadsTo : Phase → Phase → Bool
  | .unset, .pending | .unset, .error | .new, .pending | .new, .error => true
  | .pending, .running => true
  | .running, .passed | .running, .failed | .running, .error => true
  | .passed, .new | .failed, .new | .error, .new => true
  | _, _ => false

theorem Phase.leadsTo_pending (p : Phase) : p.leadsTo .pending = p.isInitial := by
  cases p <;> rfl

theorem Phase.leadsTo_error (p : Phase) : p.leadsTo .error = (p.isInitial || p == .running) := by
  cases p <;> rfl

theorem Phase.leadsTo_new (p : Phase) : p.leadsTo .new = p.isTerminal := by
  cases p <;> rfl

namespace Computes

variable {config : Config} {t u : Test} {a : Action} {es : List Exchange}

theorem metadata_eq (h : Computes config t a es u) : u.metadata = t.metadata := by
  cases h <;> rfl

theorem spec_eq (h : Computes config t a es u) : u.spec = t.spec := by
  cases h <;> rfl

/-- An action that is run on a phase of its own makes one of the moves. -/
theorem leadsTo (h : Computes config t a es u) (ha : Action.ofPhase t.phase = a) :
    t.phase.leadsTo u.phase = true := by
  have hp : a.handles t.phase = true := Action.handles_iff.2 ha
  cases h with
  | begun id hc => exact (Phase.leadsTo_pending _).trans hp
  | refused id now hc =>
    have hi : t.phase.isInitial = true := hp
    exact (Phase.leadsTo_error _).trans (by rw [hi, Bool.true_or])
  | started now hn hw =>
    rw [Action.handles, decide_eq_true_iff] at hp
    rw [hp]
    rfl
  | judged now hn hv =>
    rw [Action.handles, decide_eq_true_iff] at hp
    rw [hp]
    cases hv <;> rfl
  | restarted hd => exact (Phase.leadsTo_new _).trans hp

/-- A generation is recorded with the fingerprint of the source, and waits for its workload just if
the Test is valid. -/
theorem initiated (h : Computes config t .initiate es u) :
    u.status.bind Status.digest = some (t.spec.source.digest config.version) ∧
      (u.phase = .pending ∧ t.check = .ok () ∨
        u.phase = .error ∧ ∃ f, t.check = .error f ∧
          u.status.map Status.errors = some [f.message]) := by
  cases h with
  | begun id hc => exact ⟨rfl, Or.inl ⟨rfl, hc⟩⟩
  | @refused id now f hc => exact ⟨rfl, Or.inr ⟨rfl, f, hc, rfl⟩⟩

/-- The errors of a run are added to those of the Test. -/
theorem evaluated (h : Computes config t .evaluate es u) :
    ∃ namespaceName round now phase kept, es = round ++ [⟨.clock, now⟩] ∧
      Verdict t namespaceName round phase kept ∧ u.phase = phase ∧
      u.status.map Status.errors = some ((t.status.getD {}).errors ++ kept.errors) := by
  cases h with
  | @judged namespaceName round phase kept now hn hv =>
    exact ⟨namespaceName, round, now, phase, kept, rfl, hv, rfl, rfl⟩

end Computes

/-! ### What an action asks -/

/-- The questions that an action has about a Test: it neither reads nor writes a Test, a run is
judged by the Pod of its generation, and the start applies the objects of the workload. -/
def Action.Asks (a : Action) (config : Config) (t : Test) : Query → Prop
  | .getTest _ _ | .writeStatus _ => False
  | .freshId => a = .initiate
  | .clock => True
  | .getPod namespaceName name =>
    t.metadata.namespaceName = some namespaceName ∧
      ∃ id, t.testId? = some id ∧ name = generationName t.nameAny id
  | .apply m =>
    a = .start ∧ ∃ namespaceName w, t.metadata.namespaceName = some namespaceName ∧
      t.workload config = .ok w ∧ m ∈ w.manifests namespaceName

namespace Step

variable {α β : Type} {kind : Query → Prop}

theorem asksOnly_bind {x : Step α} {f : α → Step β} (hx : x.run.AsksOnly kind)
    (hf : ∀ a, (f a).run.AsksOnly kind) : (x >>= f).run.AsksOnly kind := by
  rw [run_bind]
  refine hx.bind fun r => ?_
  cases r with
  | ok a => exact hf a
  | error e => trivial

theorem asksOnly_lift_bind {r : Except Fault α} {f : α → Step β}
    (hf : ∀ a, r = .ok a → (f a).run.AsksOnly kind) : (lift r >>= f).run.AsksOnly kind := by
  rw [run_bind, run_lift, Program.bind_done]
  cases r with
  | ok a => exact hf a rfl
  | error e => trivial

theorem asksOnly_map {x : Step α} {g : α → β} (hx : x.run.AsksOnly kind) :
    (g <$> x).run.AsksOnly kind := by
  rw [run_map]
  exact hx.bind fun r => Program.asksOnly_done kind _

theorem asksOnly_applyAll {ms : List Manifest} (h : ∀ m ∈ ms, kind (.apply m)) :
    (applyAll ms).run.AsksOnly kind := by
  induction ms with
  | nil => trivial
  | cons m rest ih =>
    exact asksOnly_bind ⟨h m List.mem_cons_self, fun _ => trivial⟩ fun _ =>
      ih fun m' hm => h m' (List.mem_cons_of_mem m hm)

end Step

theorem Test.asksOnly_finish {kind : Query → Prop} (hk : kind .clock) {t : Test} {phase : Phase}
    {kept : Collected} :
    (some <$> t.finish phase kept : Step (Option Test)).run.AsksOnly kind :=
  Step.asksOnly_map (Step.asksOnly_bind ⟨hk, fun _ => trivial⟩ fun _ => trivial)

/-- An action asks only what it has to ask about its Test. -/
theorem Action.asks_handle (a : Action) (config : Config) (t : Test) :
    (a.handle config t).run.AsksOnly (a.Asks config t) := by
  cases a with
  | initiate =>
    refine Step.asksOnly_map (Step.asksOnly_bind ⟨rfl, fun _ => trivial⟩ fun id => ?_)
    cases h : t.check with
    | ok _ => trivial
    | error f =>
      exact Step.asksOnly_bind ⟨trivial, fun _ => trivial⟩ fun _ => trivial
  | start =>
    refine Step.asksOnly_map (Step.asksOnly_lift_bind fun namespaceName hn =>
      Step.asksOnly_lift_bind fun w hw => Step.asksOnly_bind (Step.asksOnly_applyAll fun m hm => ?_)
        fun _ => Step.asksOnly_bind ⟨trivial, fun _ => trivial⟩ fun _ => trivial)
    exact ⟨rfl, namespaceName, w, orFault_eq_ok_iff.1 hn, hw, hm⟩
  | evaluate =>
    refine Step.asksOnly_lift_bind fun namespaceName hn => ?_
    cases h : t.testId? with
    | none => exact Test.asksOnly_finish trivial
    | some id =>
      refine Step.asksOnly_bind ⟨⟨orFault_eq_ok_iff.1 hn, id, h, rfl⟩, fun _ => trivial⟩
        fun pod? => ?_
      cases pod? with
      | none => exact Test.asksOnly_finish trivial
      | some pod =>
        cases ho : pod.outcome with
        | inProgress => simp [ho]
        | succeeded => simpa [ho] using Test.asksOnly_finish trivial
        | failed => simpa [ho] using Test.asksOnly_finish trivial
  | monitor => trivial
  | noop => trivial

/-- The questions of an action on any Test: it neither reads nor writes a Test, and only the start
applies objects. -/
def Action.mayAsk (a : Action) : Query → Prop
  | .getTest _ _ | .writeStatus _ => False
  | .apply _ => a = .start
  | .freshId | .clock | .getPod _ _ => True

theorem Action.asksOnly_handle (a : Action) (config : Config) (t : Test) :
    (a.handle config t).run.AsksOnly a.mayAsk :=
  (a.asks_handle config t).mono fun q hq => by
    cases q with
    | apply m => exact hq.1
    | getTest _ _ | writeStatus _ => exact hq
    | freshId | clock | getPod _ _ => trivial

end Proctor
