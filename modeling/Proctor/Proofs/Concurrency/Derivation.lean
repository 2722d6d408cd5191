import Proctor.Proofs.Concurrency.Edges

/-!
# Stored statuses derive from stored specs

When a controller is told that its write was accepted, what was stored is what one run of its action
computes from the Test that was stored until then. So the fingerprint of a generation is that of the
source it is stored next to, the decision to refuse it is made on the spec it is stored next to, the
errors of a run are added to those that are stored, once, and no edit of anyone is lost. It does not
matter how old the copy was that the controller set out with, nor how often its write met a conflict
before.
-/

namespace Proctor

theorem Test.check_numbered (t : Test) (status : Option Status) (n : Nat) :
    (({ t with status } : Test).numbered n).check = t.check := rfl

namespace System

variable {s : System} {a : Action} {config : Config} {observed p : Test} {heard : List Exchange}

/-- What a controller returns was stored by a write that was accepted, over a Test from which one
run of the action computes the status that was stored; all else is kept from that Test. -/
theorem act_returned (h : Reaches Known s)
    {walk : (Job.act a config observed).program.Walk heard (.done (.ok (some p)))}
    (ht : ⟨.act a config observed, heard, .done (.ok (some p)), walk⟩ ∈ s.tasks) :
    ∃ w ∈ s.writes, ∃ earlier round n,
      w.job = .act a config observed ∧ w.after = p ∧
      heard = earlier ++ round ++ [⟨.writeStatus w.copy, .ok p⟩] ∧
      (a.handle config w.before).run.Ends round (.ok (some w.copy)) ∧
      p = ({ w.before with status := w.copy.status } : Test).numbered n ∧
      (a = .initiate →
        p.status.bind Status.digest = some (p.spec.source.digest config.version) ∧
          (p.phase = .pending ∧ p.check = .ok () ∨
            p.phase = .error ∧ ∃ f, p.check = .error f ∧
              p.status.map Status.errors = some [f.message])) ∧
      (a = .evaluate → ∃ namespaceName pods now phase kept,
        round = pods ++ [⟨.clock, now⟩] ∧ Verdict w.before namespaceName pods phase kept ∧
          p.phase = phase ∧
          p.status.map Status.errors =
            some ((w.before.status.getD {}).errors ++ kept.errors)) := by
  have hs := h.sound fun _ _ => id
  obtain ⟨_, _, earlier, round, _, u, -, -, hh, -, -⟩ := Action.runOn_ends_some walk
  obtain ⟨w, hw, hj, hwh, rfl, rfl⟩ := hs.told _ ht (earlier ++ round) u p [] hh
  obtain ⟨namespaceName, k, earlier', round', -, -, hh', hr, hc⟩ :=
    (hs.writes w hw).computed hs.history.unique
  obtain ⟨n, ha⟩ := (hs.writes w hw).after
  rw [hj] at hc
  refine ⟨w, hw, earlier', round', n, hj, rfl, ?_, Action.handle_ends_iff.2 hc, ha, ?_, ?_⟩
  · rw [hh, ← hwh, hh']
  · rintro rfl
    have hi := hc.initiated
    rw [ha, Test.check_numbered]
    exact hi
  · rintro rfl
    have he := hc.evaluated
    rw [ha]
    exact he

/-- Another spec for the Test whose Pod is gone. -/
def mended : Spec :=
  { orphan.spec with source := { name := "hello.feature", content := "Feature: hello" } }

/-- A controller judges a run, and the spec is edited before it writes. -/
def conflict : List Move :=
  [.edit (.putTest (some orphan)), .launch (.act .evaluate {} (orphan.numbered 1)),
    .answer 0 plainFate, .answer 0 plainFate, .edit (.setSpec ⟨"default", "hello"⟩ (some mended)),
    .answer 0 plainFate, .answer 0 plainFate, .answer 0 plainFate, .answer 0 plainFate,
    .answer 0 plainFate]

theorem reaches_conflict : Reaches Known (run {} conflict) :=
  .run .empty ⟨trivial, .head _, trivial, trivial, trivial, trivial, trivial, trivial, trivial,
    trivial, trivial⟩

theorem conflict_resolved : Reaches Known (run {} conflict) ∧
    ∃ heard p walk,
      ⟨.act .evaluate {} (orphan.numbered 1), heard, .done (.ok (some p)), walk⟩ ∈
        (run {} conflict).tasks ∧
      p.spec = mended ∧ p.status.map Status.errors = some ["test pod test-hello-1 not found"] ∧
      ∃ w ∈ (run {} conflict).writes, w.after = p := by
  refine ⟨reaches_conflict, _, _, _, .head _, rfl, rfl, ?_⟩
  obtain ⟨w, hw, _, _, _, -, ha, -⟩ := act_returned reaches_conflict (.head _)
  exact ⟨w, hw, ha⟩

end System

end Proctor
