import Proctor.Proofs.Cluster.Merge
import Proctor.Proofs.Lifecycle.Rounds

/-!
# What a run of an action touches

An action that is run on a copy of a Test asks only about that Test and what belongs to it, as long
as every copy that it reads on the way is kept at the same place (`Action.runOn_within`). A round is
at most eight questions: a start applies five objects and looks at the clock, then the status is
written, and the Test is read again if the write met a conflict. So a run of an action is over after
eight times its attempts (`Action.runOn_atMost`).
-/

namespace Proctor

/-! ### Questions about one Test -/

/-- The Test is kept at that place, and if it has an id, that is as long as ids are. -/
structure Test.Resides (t : Test) (p : Place) : Prop where
  /-- The place. -/
  home : t.home = p
  /-- The length of the id. -/
  id : ∀ id, t.testId? = some id → id.length = 36

/-- The question is about the Test at that place, or about what may be kept on its behalf. -/
def Query.Within (p : Place) : Query → Prop
  | .freshId | .clock => True
  | .getTest namespaceName name => p = ⟨namespaceName, name⟩
  | .writeStatus t => t.home = p
  | .getPod namespaceName name => p.Generates ⟨namespaceName, name⟩
  | .apply m => p.MayFill m.slot (.manifest m)

theorem Test.home_eq {t : Test} {namespaceName : String}
    (h : t.metadata.namespaceName = some namespaceName) : t.home = ⟨namespaceName, t.nameAny⟩ := by
  rw [home, h, Option.getD_some]

/-- The objects that a start applies may be kept on behalf of its Test. -/
theorem Workload.mayFill {t : Test} {config : Config} {w : Workload} {namespaceName : String}
    {m : Manifest} {p : Place} (ht : t.Resides p)
    (hn : t.metadata.namespaceName = some namespaceName) (hw : t.workload config = .ok w)
    (hm : m ∈ w.manifests namespaceName) : p.MayFill m.slot (.manifest m) := by
  obtain rfl := ht.home
  rw [Test.home_eq hn]
  rcases metadata_of_mem_manifests hn hw hm with hv | ⟨hk, id, owner, hid, -, hmeta⟩
  · refine Or.inr ⟨m, ?_, rfl⟩
    simp only [List.mem_cons, List.not_mem_nil, or_false] at hv
    rcases hv with rfl | rfl | rfl <;> rfl
  · have hgen : Place.Generates ⟨namespaceName, t.nameAny⟩ m.metadata.place :=
      ⟨id, ht.id id hid, by rw [hmeta, place_metadata]⟩
    refine Or.inl ?_
    rcases hk with rfl | rfl <;> exact hgen

namespace Action

variable {a : Action} {config : Config} {t : Test} {p : Place} {es : List Exchange}

theorem Asks.within {q : Query} (h : a.Asks config t q) (ht : t.Resides p) : q.Within p := by
  cases q with
  | freshId | clock => trivial
  | getTest _ _ | writeStatus _ => exact h.elim
  | getPod namespaceName name =>
    obtain ⟨hn, id, hid, rfl⟩ := h
    exact ⟨id, ht.id id hid, by rw [← ht.home, Test.home_eq hn]; rfl⟩
  | apply m =>
    obtain ⟨-, n, w, hn, hw, hm⟩ := h
    exact Workload.mayFill ht hn hw hm

/-- The copy after some rounds is kept where the copies are that were read. -/
theorem Retries.resides {namespaceName name : String} {phase : Phase} {n : Nat} {t' : Test}
    (h : a.Retries config namespaceName name phase n t es t') (ht : t.Resides p)
    (hr : ∀ m k u, ⟨.getTest m k, .ok (some u)⟩ ∈ es → u.Resides p) : t'.Resides p := by
  rcases h.eq_or_mem with ⟨rfl, -⟩ | ⟨-, hm⟩
  · exact ht
  · exact hr _ _ _ hm

/-- A run of an action asks only about its Test, if the Tests that it reads are this one. -/
theorem runOn_within {q : Query} {next : q.Answer → Program (Except Fault (Option Test))}
    (ht : t.Resides p) (hr : ∀ m k u, ⟨.getTest m k, .ok (some u)⟩ ∈ es → u.Resides p)
    (h : (a.runOn config t).run.Walk es (.ask q next)) : q.Within p := by
  rw [run_runOn] at h
  cases hn : t.metadata.namespaceName with
  | none => simp [hn] at h
  | some namespaceName =>
    simp only [hn] at h
    by_cases hw : ∃ u, q = .writeStatus u
    · obtain ⟨u, rfl⟩ := hw
      obtain ⟨-, k, earlier, round, t', -, rfl, hret, hc⟩ := rounds_walk_write h
      have ht' : t'.Resides p :=
        hret.resides ht fun m k u hu => hr m k u (List.mem_append_left _ hu)
      exact (Test.home_congr hc.metadata_eq).trans ht'.home
    by_cases hg : q = .getTest namespaceName t.nameAny
    · subst hg
      exact ht.home.symm.trans (Test.home_eq hn)
    · obtain ⟨k, earlier, round, t', next', rfl, hret, hwalk⟩ :=
        rounds_walk_own (fun u hq => hw ⟨u, hq⟩) hg h
      have ht' : t'.Resides p :=
        hret.resides ht fun m k u hu => hr m k u (List.mem_append_left _ hu)
      exact Asks.within ((a.asks_handle config t').walk hwalk).1 ht'

end Action

/-! ### How many questions there are -/

variable {α β : Type}

namespace Program

/-- Whatever is answered, the program asks at most so many questions. -/
def AtMost : Program α → Nat → Prop
  | .done _, _ => True
  | .ask _ _, 0 => False
  | .ask _ next, n + 1 => ∀ x, (next x).AtMost n

@[simp] theorem atMost_done (a : α) (n : Nat) : (done a).AtMost n := trivial

theorem AtMost.mono {p : Program α} {m n : Nat} (h : p.AtMost m) (hmn : m ≤ n) : p.AtMost n := by
  induction p generalizing m n with
  | done a => trivial
  | ask q next ih =>
    cases m with
    | zero => exact h.elim
    | succ m =>
      cases n with
      | zero => exact absurd hmn (Nat.not_succ_le_zero m)
      | succ n => exact fun x => ih x (h x) (Nat.le_of_succ_le_succ hmn)

theorem AtMost.bind {p : Program α} {f : α → Program β} {m n : Nat} (h : p.AtMost m)
    (hf : ∀ a, (f a).AtMost n) : (p.bind f).AtMost (m + n) := by
  induction p generalizing m with
  | done a => exact (hf a).mono (Nat.le_add_left n m)
  | ask q next ih =>
    cases m with
    | zero => exact h.elim
    | succ m =>
      rw [bind_ask, Nat.succ_add]
      exact fun x => ih x (h x)

end Program

namespace Step

variable {m n : Nat}

theorem atMost_bind {x : Step α} {f : α → Step β} (hx : x.run.AtMost m)
    (hf : ∀ a, (f a).run.AtMost n) : (x >>= f).run.AtMost (m + n) := by
  rw [run_bind]
  refine hx.bind fun r => ?_
  cases r with
  | ok a => exact hf a
  | error e => trivial

theorem atMost_lift_bind {r : Except Fault α} {f : α → Step β} (hf : ∀ a, (f a).run.AtMost n) :
    (lift r >>= f).run.AtMost n := by
  rw [← Nat.zero_add n]
  exact atMost_bind trivial hf

theorem atMost_map {x : Step α} {g : α → β} (hx : x.run.AtMost n) : (g <$> x).run.AtMost n := by
  rw [run_map]
  exact hx.bind (n := 0) fun r => Program.atMost_done _ 0

theorem atMost_applyAll (ms : List Manifest) : (applyAll ms).run.AtMost ms.length := by
  induction ms with
  | nil => trivial
  | cons m rest ih =>
    rw [List.length_cons, Nat.add_comm]
    exact atMost_bind (fun _ => trivial) fun _ => ih

end Step

theorem Test.atMost_finish (t : Test) (phase : Phase) (kept : Collected) :
    (some <$> t.finish phase kept : Step (Option Test)).run.AtMost 1 :=
  Step.atMost_map (Step.atMost_bind (m := 1) (n := 0) (fun _ => trivial) fun _ => trivial)

namespace Action

theorem handle_atMost (a : Action) (config : Config) (t : Test) :
    (a.handle config t).run.AtMost 6 := by
  cases a with
  | initiate =>
    refine Step.atMost_map (Step.atMost_bind (m := 1) (n := 5) (fun _ => trivial) fun id => ?_)
    cases h : t.check with
    | ok _ => simp
    | error f => exact Step.atMost_bind (m := 1) (n := 4) (fun _ => trivial) fun _ => trivial
  | start =>
    exact Step.atMost_map (Step.atMost_lift_bind fun n => Step.atMost_lift_bind fun w =>
      Step.atMost_bind (m := 5) (n := 1) (Step.atMost_applyAll (w.manifests n)) fun _ =>
        Step.atMost_bind (m := 1) (n := 0) (fun _ => trivial) fun _ => trivial)
  | evaluate =>
    refine Step.atMost_lift_bind fun n => ?_
    cases h : t.testId? with
    | none => exact (t.atMost_finish _ _).mono (by decide)
    | some id =>
      refine Step.atMost_bind (m := 1) (n := 5) (fun _ => trivial) fun pod? => ?_
      cases pod? with
      | none => exact (t.atMost_finish _ _).mono (by decide)
      | some pod =>
        cases ho : pod.outcome with
        | inProgress => simp [ho]
        | succeeded => simpa [ho] using (t.atMost_finish _ _).mono (by decide)
        | failed => simpa [ho] using (t.atMost_finish _ _).mono (by decide)
  | monitor | noop => trivial

theorem rounds_atMost (a : Action) (config : Config) (namespaceName name : String) (phase : Phase)
    (n : Nat) (t : Test) :
    (a.rounds config namespaceName name phase n t).run.AtMost (8 * n) := by
  induction n generalizing t with
  | zero => trivial
  | succ left ih =>
    rw [run_rounds_succ, Nat.mul_succ, Nat.add_comm]
    refine Program.AtMost.mono ((a.handle_atMost config t).bind (n := 8 * left + 2) fun r => ?_)
      (by omega)
    rcases r with f | _ | u
    · trivial
    · trivial
    · intro x
      rcases x with f | stored
      · show (afterWrite ..).AtMost _
        rw [afterWrite]
        split
        · intro y
          rcases y with f | _ | latest
          · trivial
          · trivial
          · show (afterRead ..).AtMost _
            rw [afterRead]
            split
            · exact ih latest
            · trivial
        · trivial
      · trivial

theorem runOn_atMost (a : Action) (config : Config) (t : Test) :
    (a.runOn config t).run.AtMost (8 * config.attempts) := by
  rw [run_runOn]
  cases t.metadata.namespaceName with
  | none => trivial
  | some namespaceName => exact a.rounds_atMost config namespaceName _ _ _ t

end Action

end Proctor
