import Proctor.Proofs.Concurrency.Edges
import Proctor.Proofs.Concurrency.Solo
import Proctor.Proofs.Lifecycle.Restart

/-!
# Which source a verdict is about

A finished Test that is left alone has the fingerprint of its source, which was taken when the
generation was begun. What was run is the source that was stored when the generation was started. An
edit between the two that is taken back later goes unnoticed, and so does one that moves text
between the content and the name. So a verdict is about the source that it is shown with just if
that source was stored when the generation was started.

## What is left out

A run reads its files from the ConfigMap of its generation, and this is what is known of a run here:
when the Pod reads them, and what it does with them, is not told.
-/

namespace Proctor.System

variable {p : Place} {config : Config} {s : System}

/-- A Test has passed or failed, and is left alone. Then the ConfigMap of its generation holds the
files of the spec that the last start was accepted over, so it shows the source of the Test under
its name just if one of those files had this name and this content; for a valid Test, just if the
source did. The fingerprint only tells that the source that the generation was begun with has the
language of the Test, and its content and name run together. -/
theorem verdict_source_iff (h : Reaches (Solo p config) s) {t : Test}
    (ht : s.store.tests.get? p = some t) (hp : t.phase = .passed ∨ t.phase = .failed)
    (hm : t.restart? config = none)
    (hsha : ∀ u ∈ s.past, ∀ v ∈ s.past,
      ¬ Sha256.Collide (u.spec.source.hashedBytes config.version)
        (v.spec.source.hashedBytes config.version)) :
    ∃ begun started id m,
      s.writes.find? (·.after.phase = .pending) = some begun ∧
      s.writes.find? (·.after.phase = .running) = some started ∧
      ¬ begun.before.spec.source.Changed t.spec.source ∧
      t.testId? = some id ∧
      s.store.configMaps.get? ⟨p.namespaceName, generationName t.nameAny id⟩ = some m ∧
      (m.data.bind (·.get? t.spec.source.name) = some t.spec.source.content ↔
        ∃ f ∈ started.before.spec.files,
          f.name = t.spec.source.name ∧ f.content = t.spec.source.content) ∧
      (t.check = .ok () →
        (m.data.bind (·.get? t.spec.source.name) = some t.spec.source.content ↔
          started.before.spec.source.name = t.spec.source.name ∧
            started.before.spec.source.content = t.spec.source.content)) := by
  obtain ⟨hs, hl⟩ := h.solo
  have hg := hl.generation t ht
  have hmem := hs.history.mem_of_get? ht
  obtain ⟨begun, hb, hd⟩ := hg.begun (by rcases hp with hp | hp <;> rw [hp] <;> rfl)
  obtain ⟨started, id, m, hst, hcheck, hid, hc, hdata⟩ :=
    hg.started (by rcases hp with hp | hp <;> rw [hp] <;> rfl)
  have hbm := (hs.writes begun (List.mem_of_find?_eq_some hb)).before
  have hsm := (hs.writes started (List.mem_of_find?_eq_some hst)).before
  have hns : t.metadata.namespaceName.getD "" = p.namespaceName :=
    congrArg Place.namespaceName (hl.placed t hmem)
  have hdig : begun.before.spec.source.digest config.version =
      t.spec.source.digest config.version :=
    Option.some.inj (hd.symm.trans (Test.restart?_eq_none_iff.1 hm))
  have hsp := Test.problem?_spec_of_check hcheck
  refine ⟨begun, started, id, m, hb, hst, ?_, hid, hns ▸ hc, ?_, fun hv => ?_⟩
  · rw [Source.not_changed_iff,
      ← Source.digest_eq_iff_of_not_collide (hsha _ hbm _ hmem), hdig]
  · rw [hdata]
    exact Workload.get?_configData_iff hsp
  · rw [hdata]
    exact Workload.get?_configData_source_iff hsp (Test.problem?_spec_of_check hv)
      (Test.others_of_fixed (hl.fixed _ hsm _ hmem))

/-! ### An edit that is taken back -/

/-- The controller sets out with the Test as it is stored, and hears so many answers. -/
def round (p : Place) (config : Config) (f : Fate) (n : Nat) (s : System) : System :=
  match s.store.tests.get? p with
  | none => s
  | some t =>
    (s.step (.launch (.reconcile config t))).run (List.replicate n (.answer s.tasks.length f))

/-- The source of the Test is edited. -/
def setSource (p : Place) (source : Source) (s : System) : System :=
  match s.store.tests.get? p with
  | none => s
  | some t => s.step (.edit (.setSpec p (some { t.spec with source })))

theorem Reaches.round (h : Reaches (Solo p config) s) (f : Fate) (n : Nat)
    (hf : ∀ t ∈ s.tasks, t.Finished) : Reaches (Solo p config) (s.round p config f n) := by
  rw [System.round]
  split
  · exact h
  · next t ht => exact (h.step (.launched hf ht)).run (.replicate (fun _ => .answered _ f) n _)

theorem Reaches.setSource (h : Reaches (Solo p config) s) (source : Source) :
    Reaches (Solo p config) (s.setSource p source) := by
  rw [System.setSource]
  split
  · exact h
  · next t ht => exact h.step (.edited source ht)

/-- The place of the Test that greets. -/
def greeted : Place := ⟨"default", "hello"⟩

/-- A source that greets. -/
def greeting : Source := { name := "hello.feature", content := "Feature: hello" }

/-- Another source for the same file. -/
def parting : Source := { name := "hello.feature", content := "Feature: goodbye" }

/-- A Test that greets. -/
def greeter : Test :=
  { metadata := { name := some "hello", namespaceName := some "default", uid := some "uid" }
    spec := { source := greeting } }

/-- Its first generation is begun. -/
def begun : System := (step {} (.edit (.putTest (some greeter)))).round greeted {} plainFate 2

/-- The Pod of the generation succeeds. -/
def success : Rehearsal.Edit :=
  .podStatus ⟨"default", "test-hello-2"⟩ (some (some { phase := some "Succeeded" }))

/-- The generation is started, its Pod succeeds, and the run is judged. -/
def finish (s : System) : System :=
  ((s.round greeted {} plainFate 7).step (.edit success)).round greeted {} plainFate 3

theorem reaches_begun : Reaches (Solo greeted {}) begun :=
  (Reaches.empty.step (.made rfl rfl (t := greeter) rfl)).round _ _ (by decide)

theorem Reaches.finish (h : Reaches (Solo greeted {}) s) (hs : ∀ t ∈ s.tasks, t.Finished)
    (hr : ∀ t ∈ (s.round greeted {} plainFate 7).tasks, t.Finished) :
    Reaches (Solo greeted {}) s.finish :=
  ((h.round _ _ hs).step (.progressed rfl)).round _ _ hr

theorem verdict_about_greeting : Reaches (Solo greeted {}) begun.finish ∧
    ∃ t id m, begun.finish.store.tests.get? greeted = some t ∧ t.phase = .passed ∧
      begun.finish.store.configMaps.get?
        ⟨greeted.namespaceName, generationName t.nameAny id⟩ = some m ∧
      m.data.bind (·.get? t.spec.source.name) = some t.spec.source.content := by
  have h : Reaches (Solo greeted {}) begun.finish :=
    reaches_begun.finish (by decide) (by decide)
  have hsrc : ∀ u ∈ begun.finish.past, u.spec.source = greeting := by decide
  have hspec : (begun.finish.writes.find? (·.after.phase = .running)).map
      (·.before.spec.source) = some greeting := by decide
  obtain ⟨_, started, id, m, -, hst, -, -, hm, -, hiff⟩ :=
    verdict_source_iff h rfl (Or.inl rfl) (Test.restart?_eq_none_iff.2 rfl) fun u hu v hv hc =>
      hc.1 (by rw [hsrc u hu, hsrc v hv])
  rw [hst] at hspec
  have hs : started.before.spec.source = greeting := Option.some.inj hspec
  exact ⟨h, _, id, m, rfl, rfl, hm, (hiff rfl).2 (by rw [hs]; exact ⟨rfl, rfl⟩)⟩

/-- The source is edited before the start, and the edit is taken back after the verdict. -/
def reverted : System := ((begun.setSource greeted parting).finish).setSource greeted greeting

/-- The run that is judged was one of the other source, and yet the Test is left alone. -/
theorem verdict_about_parting : Reaches (Solo greeted {}) reverted ∧
    (∀ u ∈ reverted.past, ∀ v ∈ reverted.past,
      ¬ Sha256.Collide (u.spec.source.hashedBytes controllerVersion)
        (v.spec.source.hashedBytes controllerVersion)) ∧
    ∃ t id m, reverted.store.tests.get? greeted = some t ∧ t.phase = .passed ∧
      t.restart? {} = none ∧ t.testId? = some id ∧
      reverted.store.configMaps.get?
        ⟨greeted.namespaceName, generationName t.nameAny id⟩ = some m ∧
      m.data.bind (·.get? t.spec.source.name) ≠ some t.spec.source.content := by
  have h : Reaches (Solo greeted {}) reverted :=
    ((reaches_begun.setSource parting).finish (by decide) (by decide)).setSource greeting
  have hsrc : ∀ u ∈ reverted.past, u.spec.source = greeting ∨ u.spec.source = parting := by decide
  have hne : Sha256.hash (greeting.hashedBytes controllerVersion) ≠
      Sha256.hash (parting.hashedBytes controllerVersion) := by decide +kernel
  refine ⟨h, fun u hu v hv hc => ?_, _, _, _, rfl, rfl, Test.restart?_eq_none_iff.2 rfl, rfl, rfl,
    by decide⟩
  rcases hsrc u hu with hu | hu <;> rcases hsrc v hv with hv | hv <;> rw [hu, hv] at hc
  · exact hc.1 rfl
  · exact hne hc.2
  · exact hne hc.2.symm
  · exact hc.1 rfl

end Proctor.System
