import Proctor.Proofs.Digest.Injective
import Proctor.Proofs.Lifecycle.Rounds

/-!
# When a finished Test runs again

A finished Test runs again when its fingerprint is another one, which covers the version of the
controller and the source, and of content and name only how they run together. So an edit that
moves text from the content to the name, or back, leaves the Test as it is
(`Test.finished_restarts_iff`), and so does any edit of the rest of the spec. A Test that was
refused for the names of its files, those of the settings and the resources among them, or for its
own name, is no exception: not every edit that mends it makes it run again
(`Test.refused_restarts_iff`).
-/

namespace Proctor

/-- The fingerprint tells that the source is another one. -/
def Source.Changed (s t : Source) : Prop :=
  s.language ≠ t.language ∨ s.content ++ s.name ≠ t.content ++ t.name

theorem Source.not_changed_iff {s t : Source} :
    ¬ s.Changed t ↔ s.language = t.language ∧ s.content ++ s.name = t.content ++ t.name := by
  simp [Changed]

namespace Test

variable {config : Config} {t u v : Test} {es : List Exchange}

theorem restart?_eq_none_iff :
    t.restart? config = none ↔
      t.status.bind Status.digest = some (t.spec.source.digest config.version) := by
  simp [restart?]

theorem run_handle_monitor (t : Test) (config : Config) :
    (Action.monitor.handle config t).run = .done (.ok (t.restart? config)) := rfl

/-- A reconciliation asks nothing about a finished Test that is not to run again. -/
theorem reconcile_of_restart?_eq_none (ht : t.phase.isTerminal = true)
    (hr : t.restart? config = none) : ∃ r, t.reconcile config = .done r := by
  have ha : Action.ofPhase t.phase = .monitor := Action.handles_iff.1 ht
  rw [reconcile_eq, ha, Action.run_runOn]
  cases t.metadata.namespaceName with
  | none => exact ⟨_, rfl⟩
  | some namespaceName =>
    obtain ⟨left, hl⟩ := Nat.exists_eq_succ_of_ne_zero (Nat.ne_of_gt config.attempts_pos)
    have hd : (Action.monitor.rounds config namespaceName t.nameAny t.phase config.attempts t).run =
        .done (.ok none) := by
      rw [hl, Action.run_rounds_succ, run_handle_monitor, hr]
      rfl
    simp only [hd, Program.bind_done]
    exact ⟨_, rfl⟩

/-- A Test is put back to `New`, and nothing else about it changes, just if the text that is hashed
of its source is not the one that its fingerprint was taken of; else it stays as it is. That tells
every edit of the source and the version, but for text that moves between content and name or that
passes from the version to what comes behind it. -/
theorem finished_restarts_iff {st : Status} {s : Source} {version : String}
    (hs : t.status = some st) (hd : st.digest = some (s.digest version))
    (hsha : ¬ Sha256.Collide (s.hashedBytes version)
      (t.spec.source.hashedBytes config.version)) :
    (Action.monitor.handle config t).run = .done (.ok
      (if s.hashedText version = t.spec.source.hashedText config.version then none
        else some { t with status := some { st with phase := .new } })) ∧
    (version = config.version →
      (s.hashedText version = t.spec.source.hashedText config.version ↔
        ¬ s.Changed t.spec.source)) ∧
    (version = config.version ∧
        (s.name = t.spec.source.name ∨ s.content = t.spec.source.content) ∨ s = t.spec.source →
      (s.hashedText version = t.spec.source.hashedText config.version ↔
        s = t.spec.source ∧ version = config.version)) := by
  refine ⟨?_, ?_, Source.hashedText_eq_iff_of_eq⟩
  · have hdigest : t.status.bind Status.digest = some (t.spec.source.digest config.version) ↔
        s.hashedText version = t.spec.source.hashedText config.version := by
      rw [hs, Option.bind_some, hd, Option.some.injEq, Source.digest_eq_iff_hashedText_eq hsha]
    have hnew : (t.withStatus fun s => { s with phase := .new }) =
        { t with status := some { st with phase := .new } } := by
      rw [withStatus, hs]
      rfl
    rw [run_handle_monitor, restart?, hnew]
    simp only [hdigest]
  · rintro rfl
    rw [Source.hashedText_eq_iff, Source.not_changed_iff]

/-- A source. -/
def welcome : Source := { name := "hello.feature", content := "Feature: hello" }

/-- A source with another text. -/
def farewell : Source := { welcome with content := "Feature: goodbye" }

/-- The first three letters of the name have moved to the content. -/
def shifted : Source := { name := "lo.feature", content := "Feature: hellohel" }

/-- A Test that passed with the first source and now has the given one. -/
def welcomed (source : Source) : Test :=
  { metadata := { name := some "hello", namespaceName := some "default" }
    spec := { source }
    status := some
      { phase := .passed, testId := some "1", version := some controllerVersion
        digest := some (welcome.digest controllerVersion) } }

theorem farewell_restarts :
    (welcomed farewell).status.bind Status.digest = some (welcome.digest controllerVersion) ∧
    ¬ Sha256.Collide (welcome.hashedBytes controllerVersion)
      ((welcomed farewell).spec.source.hashedBytes controllerVersion) ∧
    ∃ u, (Action.monitor.handle {} (welcomed farewell)).run = .done (.ok (some u)) ∧
      u.phase = .new := by
  have hsha : ¬ Sha256.Collide (welcome.hashedBytes controllerVersion)
      ((welcomed farewell).spec.source.hashedBytes controllerVersion) :=
    fun h => absurd h.2 (by decide +kernel)
  obtain ⟨hrun, hedit, -⟩ :=
    @finished_restarts_iff {} (welcomed farewell) _ welcome controllerVersion rfl rfl hsha
  have hne : welcome.hashedText controllerVersion ≠
      (welcomed farewell).spec.source.hashedText controllerVersion :=
    fun h => (hedit rfl).1 h (Or.inr (by decide))
  exact ⟨rfl, hsha, _, hrun.trans (by rw [if_neg hne]), rfl⟩

/-- The Test stays as it is when text moves from the name to the content. -/
theorem shifted_stays :
    (welcomed shifted).phase = .passed ∧
    (welcomed shifted).status.bind Status.digest = some (welcome.digest controllerVersion) ∧
    ¬ Sha256.Collide (welcome.hashedBytes controllerVersion)
      ((welcomed shifted).spec.source.hashedBytes controllerVersion) ∧
    welcome.name ≠ (welcomed shifted).spec.source.name ∧
    welcome.content ≠ (welcomed shifted).spec.source.content ∧
    (Action.monitor.handle {} (welcomed shifted)).run = .done (.ok none) := by
  have hbytes : welcome.hashedBytes controllerVersion = shifted.hashedBytes controllerVersion := by
    rw [Source.hashedBytes_eq, Source.hashedBytes_eq]
    exact congrArg Text.bytes (by decide)
  refine ⟨rfl, rfl, fun h => h.1 hbytes, by decide, by decide, ?_⟩
  rw [run_handle_monitor, restart?_eq_none_iff.2]
  exact congrArg some (Source.digest_eq_iff.2 (congrArg Sha256.hash hbytes))

/-- A refused Test that was mended runs again just if the language, or the concatenation of content
and name, is another one: then it is put back to `New` and its next generation is not refused; else
no reconciliation asks anything about it, and it stays in `Error`. -/
theorem refused_restarts_iff {config' : Config}
    (hi : (Action.initiate.handle config t).run.Ends es (.ok (some u))) (he : u.phase = .error)
    (hs : v.status = u.status) (hv : v.check = .ok ()) (hc : config'.version = config.version)
    (hsha : ¬ Sha256.Collide (t.spec.source.hashedBytes config.version)
      (v.spec.source.hashedBytes config.version)) :
    (t.spec.source.Changed v.spec.source →
      ∃ w, (Action.monitor.handle config' v).run = .done (.ok (some w)) ∧
        w.phase = .new ∧ w.spec = v.spec ∧
        ∀ id, ∃ x, (Action.initiate.handle config' w).run.Ends [⟨.freshId, id⟩] (.ok (some x)) ∧
          x.phase = .pending) ∧
    (¬ t.spec.source.Changed v.spec.source →
      (Action.monitor.handle config' v).run = .done (.ok none) ∧
        ∃ r, v.reconcile config' = .done r) := by
  obtain ⟨hdig, -⟩ := (Action.handle_ends_iff.1 hi).initiated
  have hd : v.restart? config' = none ↔ ¬ t.spec.source.Changed v.spec.source := by
    rw [restart?_eq_none_iff, hs, hdig, hc, Option.some.injEq,
      Source.digest_eq_iff_of_not_collide hsha, Source.not_changed_iff]
  constructor
  · intro hch
    cases hr : v.restart? config' with
    | none => exact absurd hch (hd.1 hr)
    | some w =>
      cases restart?_eq_some_iff.1 hr with
      | restarted hne =>
        refine ⟨v.withStatus fun s => { s with phase := .new }, ?_, rfl, rfl, fun id => ?_⟩
        · rw [run_handle_monitor, hr]
        · exact ⟨_, Action.handle_ends_iff.2 (.begun id hv), rfl⟩
  · intro hch
    have hr := hd.2 hch
    have hp : v.phase = .error := by rw [Test.phase, hs]; exact he
    refine ⟨by rw [run_handle_monitor, hr], reconcile_of_restart?_eq_none ?_ hr⟩
    rw [hp]
    rfl

/-- A Test whose source is named in a directory. -/
def nested : Test :=
  { metadata := { name := some "hello", namespaceName := some "default" }
    spec := { source := { name := "nested/hello.feature" } } }

/-- The Test once it was refused. -/
def nestedRefused : Test :=
  let digest := nested.spec.source.digest controllerVersion
  let problem := Fault.invalid "hello" (.notPlain .source "nested/hello.feature")
  { nested with
    status := some ((Status.begun "1" digest controllerVersion).refused problem default) }

/-- The refused Test without the directory. -/
def unnested : Test := { nestedRefused with spec := { source := { name := "hello.feature" } } }

theorem unnested_restarts :
    (Action.initiate.handle {} nested).run.Ends [⟨.freshId, "1"⟩, ⟨.clock, default⟩]
      (.ok (some nestedRefused)) ∧
    unnested.check = .ok () ∧
    ∃ w, (Action.monitor.handle {} unnested).run = .done (.ok (some w)) ∧ w.phase = .new := by
  have hi : (Action.initiate.handle {} nested).run.Ends [⟨.freshId, "1"⟩, ⟨.clock, default⟩]
      (.ok (some nestedRefused)) := Action.handle_ends_iff.2 (.refused "1" default rfl)
  have hsha : ¬ Sha256.Collide (nested.spec.source.hashedBytes controllerVersion)
      (unnested.spec.source.hashedBytes controllerVersion) :=
    fun h => absurd h.2 (by decide +kernel)
  obtain ⟨w, hw, hp, -, -⟩ :=
    (refused_restarts_iff (v := unnested) hi rfl rfl rfl rfl hsha).1 (Or.inr (by decide))
  exact ⟨hi, rfl, w, hw, hp⟩

/-- A Test whose settings would take the place of its source. -/
def clashing : Test :=
  { metadata := { name := some "hello", namespaceName := some "default" }
    spec :=
      { source := { name := "hello.feature" }, settings := some { name := some "hello.feature" } } }

/-- Without its settings the Test is valid, and yet it is not put back to `New`. -/
theorem clashing_mended_stays : ∃ u v es,
    (Action.initiate.handle {} clashing).run.Ends es (.ok (some u)) ∧ u.phase = .error ∧
    v = { u with spec := { u.spec with settings := none } } ∧ v.check = .ok () ∧
    ¬ Sha256.Collide (clashing.spec.source.hashedBytes controllerVersion)
      (v.spec.source.hashedBytes controllerVersion) ∧
    (Action.monitor.handle {} v).run = .done (.ok none) := by
  have hi := Action.handle_ends_iff.2 (@Computes.refused {} clashing "1" default _ rfl)
  refine ⟨_, _, _, hi, rfl, rfl, rfl, fun h => h.1 rfl, ?_⟩
  rw [run_handle_monitor, restart?_eq_none_iff.2 rfl]

end Test

end Proctor
