import Proctor.Api.Client
import Proctor.Proofs.Lifecycle.Rounds
import Proctor.Proofs.Test.Validation
import Proctor.Proofs.Workload.Generations
import Proctor.Rehearsal.World

/-!
# Tests that are accepted

A Test is accepted twice. Its initialization only looks whether it is valid; its start, at another
time, computes its workload and hands the objects to a client that wants each of them to have a name
and a namespace. A Test that is accepted by the one and refused by the other would stay `Pending`
for ever. What the start needs beyond a valid Test is what a stored Test has, and an id, which the
initialization gives; and a workload is made of objects that have what the client wants. So the two
accept the same Tests (`Test.accepted_alike`), and a start fails only with what the API server is
asked for.
-/

namespace Proctor

/-! ### What the client wants of an object -/

namespace Client

theorem lift_eq_error {α : Type} {talk : Talk α} {c : Channel} {f : Fault}
    (h : (lift talk c).1 = .error f) : ∃ g, f = .api g := by
  rw [lift] at h
  split at h
  · cases h
  · cases h
    exact ⟨_, rfl⟩

/-- The client finds no fault of its own with an object that has a name and a namespace. -/
theorem apply_eq_error {m : Manifest} {c : Channel} {f : Fault} (hn : m.metadata.name ≠ none)
    (hp : m.metadata.namespaceName ≠ none) (h : (apply m c).1 = .error f) : ∃ g, f = .api g := by
  obtain ⟨name, hname⟩ := Option.ne_none_iff_exists'.1 hn
  obtain ⟨namespaceName, hplace⟩ := Option.ne_none_iff_exists'.1 hp
  rw [apply, hname, hplace] at h
  exact lift_eq_error h

end Client

/-- The objects of a workload have a name, and the namespace of the Test. -/
theorem Workload.addressed_of_mem_manifests {t : Test} {config : Config} {w : Workload}
    {namespaceName : String} {m : Manifest} (hn : t.metadata.namespaceName = some namespaceName)
    (hw : t.workload config = .ok w) (hm : m ∈ w.manifests namespaceName) :
    m.metadata.name ≠ none ∧ m.metadata.namespaceName = some namespaceName := by
  rcases metadata_of_mem_manifests hn hw hm with hv | ⟨-, id, owner, -, -, hmeta⟩
  · simp only [List.mem_cons, List.not_mem_nil, or_false] at hv
    rcases hv with rfl | rfl | rfl <;> exact ⟨Option.some_ne_none _, rfl⟩
  · rw [hmeta]
    exact ⟨Option.some_ne_none _, rfl⟩

/-- Whatever was answered before, an object that an action is about to apply has a name and a
namespace. -/
theorem Action.runOn_walk_addressed {a : Action} {config : Config} {t : Test} {m : Manifest}
    {es : List Exchange} {next : Except Fault Unit → Program (Except Fault (Option Test))}
    (h : (a.runOn config t).run.Walk es (.ask (.apply m) next)) :
    m.metadata.name ≠ none ∧ m.metadata.namespaceName ≠ none := by
  obtain ⟨_, _, _, _, t', -, -, -, -, namespaceName, w, hn, hw, hm⟩ := runOn_walk_manifest h
  obtain ⟨hname, hplace⟩ := Workload.addressed_of_mem_manifests hn hw hm
  exact ⟨hname, by simp [hplace]⟩

/-! ### How a start ends -/

namespace Test

variable {t u v : Test} {config : Config} {es : List Exchange}

/-- The start of a Test that has a workload makes it `Running`, or ends with the fault with which
one of the objects was refused. -/
theorem start_ends_cases {namespaceName : String} {w : Workload} {r : Except Fault (Option Test)}
    (hn : t.metadata.namespaceName = some namespaceName) (hw : t.workload config = .ok w)
    (h : (Action.start.handle config t).run.Ends es r) :
    (∃ now, r = .ok (some (t.started now))) ∨
      ∃ f, ∃ m ∈ w.manifests namespaceName, r = .error f ∧ ⟨.apply m, .error f⟩ ∈ es := by
  rw [Action.handle, Step.run_map, run_start hn hw, Program.bind_assoc, Program.ends_bind_iff] at h
  obtain ⟨es₁, es₂, o, rfl, happly, h⟩ := h
  rcases o with f | ⟨⟩
  · obtain ⟨-, hd⟩ := Program.walk_done_iff.1 h
    obtain ⟨before, m, after, hms, rfl⟩ := Step.ends_applyAll_error_iff.1 happly
    cases hd
    exact Or.inr ⟨f, m, by simp [hms], rfl, by simp⟩
  · obtain ⟨now, _, -, h⟩ := Program.ends_ask_iff.1 h
    obtain ⟨-, hd⟩ := Program.walk_done_iff.1 h
    cases hd
    exact Or.inl ⟨now, rfl⟩

/-! ### How an initialization ends -/

/-- The Test has what every stored Test has: a name, a namespace and an identity. -/
def Registered (t : Test) : Prop :=
  t.metadata.name ≠ none ∧ t.metadata.namespaceName ≠ none ∧ t.metadata.uid ≠ none

/-- One Test is still as the other one was, in all that its workload is made of. -/
structure Unedited (v u : Test) : Prop where
  /-- It has the same name. -/
  name_eq : v.metadata.name = u.metadata.name
  /-- It is in the same namespace. -/
  namespaceName_eq : v.metadata.namespaceName = u.metadata.namespaceName
  /-- It has the same identity. -/
  uid_eq : v.metadata.uid = u.metadata.uid
  /-- It has the same spec. -/
  spec_eq : v.spec = u.spec
  /-- It has the same status. -/
  status_eq : v.status = u.status

theorem Unedited.exists_workload_iff (h : v.Unedited u) (config config' : Config) :
    (∃ w, v.workload config = .ok w) ↔ ∃ w, u.workload config' = .ok w := by
  rw [Test.exists_workload_iff, Test.exists_workload_iff, check_congr h.name_eq h.spec_eq,
    testId?, testId?, h.name_eq, h.namespaceName_eq, h.uid_eq, h.status_eq]

theorem run_initiate (t : Test) (config : Config) :
    (t.initiate config).run = .ask .freshId fun id =>
      let begun := Status.begun id (t.spec.source.digest config.version) config.version
      match t.check with
      | .ok _ => .done (.ok { t with status := some begun })
      | .error f => .ask .clock fun now =>
        .done (.ok { t with status := some (begun.refused f now) }) := rfl

/-- Whatever is answered, an initialization ends well. -/
theorem initiate_ends {r : Except Fault (Option Test)}
    (h : (Action.initiate.handle config t).run.Ends es r) :
    ∃ u, r = .ok (some u) ∧ Computes config t .initiate es u := by
  have hr : ∃ u, r = .ok (some u) := by
    rw [Action.handle, Step.run_map, run_initiate, Program.bind_ask, Program.ends_ask_iff] at h
    obtain ⟨id, es, -, h⟩ := h
    cases hc : t.check with
    | ok _ =>
      rw [hc] at h
      cases (Program.walk_done_iff.1 h).2
      exact ⟨_, rfl⟩
    | error f =>
      rw [hc] at h
      obtain ⟨now, es, -, h⟩ := Program.ends_ask_iff.1 h
      cases (Program.walk_done_iff.1 h).2
      exact ⟨_, rfl⟩
  obtain ⟨u, rfl⟩ := hr
  exact ⟨u, rfl, Action.handle_ends_iff.1 h⟩

/-- An initialization gives an id, and all that it leaves to be seen to is whether the Test is
valid. So a registered Test is `Pending` then just if it has a workload. -/
theorem pending_iff_exists_workload (hr : t.Registered) (h : Computes config t .initiate es u)
    (config' : Config) :
    u.phase = .pending ↔ ∃ w, u.workload config' = .ok w := by
  obtain ⟨hname, hplace, huid⟩ := hr
  have hid : u.testId? ≠ none := by cases h <;> exact Option.some_ne_none _
  have hcheck : u.check = t.check := check_congr (congrArg _ h.metadata_eq) h.spec_eq
  rw [exists_workload_iff, h.metadata_eq, hcheck]
  constructor
  · intro hp
    rcases h.initiated.2 with ⟨-, hc⟩ | ⟨he, -⟩
    · exact ⟨hc, hplace, hid, hname, huid⟩
    · rw [hp] at he
      cases he
  · rintro ⟨hc, -⟩
    rcases h.initiated.2 with ⟨hp, -⟩ | ⟨-, f, hf, -⟩
    · exact hp
    · rw [hc] at hf
      cases hf

/-! ### Both together -/

/-- The start accepts the Tests that the initialization accepts. There is a workload of a Test just
if the Test is valid and has a namespace, an id and an identity, and else the first of these that is
missing is told. All objects of a workload have a name, and the namespace of the Test, so whatever
is applied, and whatever was answered before, the client finds no fault of its own with it. If a
Test has a name, a namespace and a uid, then its initialization makes it `Pending` just if it has a
workload then; and if nobody edits it, its start makes it `Running`, or ends with the fault with
which an object was refused. -/
theorem accepted_alike (t : Test) (config : Config) :
    ((∃ w, t.workload config = .ok w) ↔
      t.check = .ok () ∧ t.metadata.namespaceName ≠ none ∧ t.testId? ≠ none ∧
        t.metadata.name ≠ none ∧ t.metadata.uid ≠ none) ∧
    (∀ f, t.workload config = .error f ↔ t.Lacks f) ∧
    (∀ w namespaceName, t.workload config = .ok w →
      t.metadata.namespaceName = some namespaceName →
      ∀ m ∈ w.manifests namespaceName,
        m.metadata.name ≠ none ∧ m.metadata.namespaceName = some namespaceName) ∧
    (∀ (a : Action) es m next, (a.runOn config t).run.Walk es (.ask (.apply m) next) →
      ∀ c f, (Client.apply m c).1 = .error f → ∃ g, f = .api g) ∧
    (t.Registered → ∀ {σ : Type} (world : (q : Query) → σ → q.Answer × σ) (s : σ),
      ∃ u, ((Action.initiate.handle config t).run.run world s).1 = .ok (some u) ∧
        (∀ config', u.phase = .pending ↔ ∃ w, u.workload config' = .ok w) ∧
        (u.phase = .pending → ∀ v : Test, v.Unedited u → ∀ (config' : Config) {σ' : Type}
          (world' : (q : Query) → σ' → q.Answer × σ') (s' : σ'),
          let start := (Action.start.handle config' v).run
          (∃ x, (start.run world' s').1 = .ok (some x) ∧ x.phase = .running) ∨
            ∃ f m, (start.run world' s').1 = .error f ∧
              ⟨.apply m, .error f⟩ ∈ start.exchanges world' s' ∧
              ∀ c, (Client.apply m c).1 = .error f → ∃ g, f = .api g)) := by
  refine ⟨exists_workload_iff, fun f => workload_eq_error_iff, fun w namespaceName hw hn m hm =>
    Workload.addressed_of_mem_manifests hn hw hm, fun a es m next h c f hf => ?_,
    fun hr σ world s => ?_⟩
  · obtain ⟨hname, hplace⟩ := Action.runOn_walk_addressed h
    exact Client.apply_eq_error hname hplace hf
  · obtain ⟨u, hu, hc⟩ := initiate_ends (Program.ends_exchanges world _ s)
    refine ⟨u, hu, pending_iff_exists_workload hr hc, fun hp v hv config' σ' world' s' => ?_⟩
    obtain ⟨w, hw⟩ := (hv.exists_workload_iff config' config').2
      ((pending_iff_exists_workload hr hc config').1 hp)
    obtain ⟨namespaceName, hn⟩ := Option.ne_none_iff_exists'.1 (exists_workload_iff.1 ⟨w, hw⟩).2.1
    rcases start_ends_cases hn hw (Program.ends_exchanges world' _ s') with
      ⟨now, hx⟩ | ⟨f, m, hm, hf, he⟩
    · exact Or.inl ⟨_, hx, rfl⟩
    · obtain ⟨hname, hplace⟩ := Workload.addressed_of_mem_manifests hn hw hm
      exact Or.inr ⟨f, m, hf, he, fun c => Client.apply_eq_error hname (by simp [hplace])⟩

/-- A Test that was just stored. -/
def newcomer : Test :=
  { metadata := { name := some "hello", namespaceName := some "default", uid := some "uid" }
    spec := { source := { name := "hello.feature", content := "Feature: hello" } } }

/-- A world in which the Pods that are applied are refused so many times. -/
def refusing (times : Nat) : Rehearsal.World :=
  { idText := toString, now := default
    disturbances := List.replicate times (.applyPod, { fault := some (.api .unusable) }) }

theorem newcomer_accepted : newcomer.Registered ∧
    ∃ u, ((Action.initiate.handle {} newcomer).run.run Rehearsal.World.answer (refusing 0)).1 =
        .ok (some u) ∧ u.phase = .pending ∧ (∃ w, u.workload {} = .ok w) ∧
      (∃ x, ((Action.start.handle {} u).run.run Rehearsal.World.answer (refusing 0)).1 =
        .ok (some x) ∧ x.phase = .running) ∧
      ((Action.start.handle {} u).run.run Rehearsal.World.answer (refusing 1)).1 =
        .error (.api .unusable) := by
  have hr : newcomer.Registered := ⟨by decide, by decide, by decide⟩
  obtain ⟨-, -, -, -, h⟩ := accepted_alike newcomer {}
  obtain ⟨u, hu, hp, hstart⟩ := h hr Rehearsal.World.answer (refusing 0)
  have hpending : u.phase = .pending := by
    cases hu
    rfl
  refine ⟨hr, u, hu, hpending, (hp {}).1 hpending, ?_, ?_⟩
  · rcases hstart hpending u ⟨rfl, rfl, rfl, rfl, rfl⟩ {} Rehearsal.World.answer (refusing 0) with
      hx | ⟨f, m, hf, -, -⟩
    · exact hx
    · cases hu
      cases hf
  · cases hu
    rfl

end Test

end Proctor
