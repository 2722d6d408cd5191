import Proctor.Lifecycle.Reconcile
import Proctor.Proofs.Lifecycle.Computation

/-!
# The rounds of a write

A round runs the action on a copy of the Test and writes what it computes. When the write meets a
conflict the Test is read again, and if it still stands in the phase that was observed the next
round runs on the copy that was read. `Retries` says how such rounds lead from one copy to another;
`rounds_walk_write` and `rounds_ends_some` say that every write, and every Test that is returned,
comes from one run of the action on the copy of the last round, whatever the rounds before it did.
-/

namespace Proctor

theorem Config.attempts_pos (config : Config) : 0 < config.attempts :=
  Nat.le_max_left 1 config.statusRetries.toNat

namespace Action

variable (a : Action) (config : Config) (namespaceName name : String) (phase : Phase)

/-! ### A round as a tree of questions -/

/-- How the rounds go on after the Test was read again. -/
def afterRead (left : Nat) : Except Fault (Option Test) → Program (Except Fault (Option Test))
  | .error f => .done (.error f)
  | .ok none => .done (.ok none)
  | .ok (some latest) =>
    if latest.phase = phase then (a.rounds config namespaceName name phase left latest).run
    else .done (.ok none)

/-- How the rounds go on after a write. -/
def afterWrite (left : Nat) : Except Fault Test → Program (Except Fault (Option Test))
  | .ok stored => .done (.ok (some stored))
  | .error f =>
    if f.isConflict then
      .ask (.getTest namespaceName name) (a.afterRead config namespaceName name phase left)
    else .done (.error f)

/-- How the rounds go on after the action was run. -/
def afterAction (left : Nat) :
    Except Fault (Option Test) → Program (Except Fault (Option Test))
  | .error f => .done (.error f)
  | .ok none => .done (.ok none)
  | .ok (some u) => .ask (.writeStatus u) (a.afterWrite config namespaceName name phase left)

theorem run_rounds_zero (t : Test) :
    (a.rounds config namespaceName name phase 0 t).run =
      .done (.error (.conflict name config.attempts)) := rfl

theorem run_rounds_succ (left : Nat) (t : Test) :
    (a.rounds config namespaceName name phase (left + 1) t).run =
      (a.handle config t).run.bind (a.afterAction config namespaceName name phase left) := by
  rw [rounds, Step.run_bind]
  congr 1
  funext r
  rcases r with f | _ | u
  · rfl
  · rfl
  · simp only [Step.andThen, Step.run_bind, Step.run_writeStatus, Program.bind_ask,
      Program.bind_done, afterAction]
    congr 1
    funext x
    rcases x with f | stored
    · simp only [afterWrite]
      split
      · simp only [Step.run_bind, Step.run_getTest, Program.bind_ask, Program.bind_done]
        congr 1
        funext y
        rcases y with f | _ | latest
        · rfl
        · rfl
        · by_cases hp : latest.phase = phase <;> simp [Step.andThen, afterRead, hp]
      · rfl
    · rfl

theorem run_runOn (t : Test) :
    (a.runOn config t).run = match t.metadata.namespaceName with
      | none => .done (.error .missingNamespace)
      | some namespaceName =>
        (a.rounds config namespaceName t.nameAny t.phase config.attempts t).run := by
  rw [runOn, Step.run_bind, Step.run_lift, Program.bind_done]
  cases t.metadata.namespaceName <;> rfl

/-! ### Rounds that met a conflict -/

/-- So many rounds that met a conflict lead from one copy of the Test to another. -/
inductive Retries : Nat → Test → List Exchange → Test → Prop where
  /-- No round was needed. -/
  | zero (t : Test) : Retries 0 t [] t
  /-- What the action computed met a conflict, and the Test was read again. -/
  | succ {n : Nat} {t u latest t' : Test} {round es : List Exchange} {f : Fault}
      (hc : Computes config t a round u) (hf : f.isConflict = true) (hp : latest.phase = phase)
      (h : Retries n latest es t') :
    Retries (n + 1) t
      (round ++ ⟨.writeStatus u, .error f⟩ ::
        ⟨.getTest namespaceName name, .ok (some latest)⟩ :: es) t'

variable {a config namespaceName name phase}

/-- The copy after some rounds is the one they began with, or it was read on the way. -/
theorem Retries.eq_or_mem {n : Nat} {t t' : Test} {es : List Exchange}
    (h : a.Retries config namespaceName name phase n t es t') :
    t' = t ∧ es = [] ∨
      t'.phase = phase ∧ ⟨.getTest namespaceName name, .ok (some t')⟩ ∈ es := by
  induction h with
  | zero t => exact Or.inl ⟨rfl, rfl⟩
  | succ hc hf hp h ih =>
    refine Or.inr ?_
    rcases ih with ⟨rfl, rfl⟩ | ⟨hp', hm⟩
    · exact ⟨hp, by simp⟩
    · exact ⟨hp', by simp [hm]⟩

/-- The copy after some rounds stands in the phase that was observed. -/
theorem Retries.phase_eq {n : Nat} {t t' : Test} {es : List Exchange}
    (h : a.Retries config namespaceName name phase n t es t') (ht : t.phase = phase) :
    t'.phase = phase := by
  rcases h.eq_or_mem with ⟨rfl, -⟩ | ⟨hp, -⟩
  · exact ht
  · exact hp

theorem not_mayAsk_writeStatus (a : Action) (u : Test) : ¬ a.mayAsk (.writeStatus u) := id

/-- A round gets to a question that is not the action's own only by a Test that was computed. -/
theorem walk_afterAction {left : Nat} {t : Test} {es : List Exchange}
    {q : Query} {next : q.Answer → Program (Except Fault (Option Test))} (hq : ¬ a.mayAsk q)
    (h : (a.rounds config namespaceName name phase (left + 1) t).run.Walk es (.ask q next)) :
    ∃ round es' u, es = round ++ es' ∧ Computes config t a round u ∧
      (Program.ask (.writeStatus u)
        (a.afterWrite config namespaceName name phase left)).Walk es' (.ask q next) := by
  rw [run_rounds_succ, Program.walk_bind_iff] at h
  rcases h with ⟨p', hp, hr⟩ | ⟨round, es', r, rfl, hp, hr⟩
  · have ho := (a.asksOnly_handle config t).walk hp
    cases p' with
    | ask q' next' =>
      cases hr
      exact absurd ho.1 hq
    | done r =>
      rcases r with f | _ | u
      · cases hr
      · cases hr
      · have hc := handle_ends_iff.1 hp
        exact ⟨es, [], u, (List.append_nil es).symm, hc, Program.walk_nil_iff.2 hr⟩
  · rcases r with f | _ | u
    · simp [afterAction] at hr
    · simp [afterAction] at hr
    · exact ⟨round, es', u, rfl, handle_ends_iff.1 hp, hr⟩

/-- After the Test was read again the rounds are over, with nothing stored, or the next one begins
on what was read. -/
theorem walk_afterRead {left : Nat} {y : Except Fault (Option Test)} {es : List Exchange}
    {r : Program (Except Fault (Option Test))}
    (h : (a.afterRead config namespaceName name phase left y).Walk es r) :
    (∃ o, r = .done o ∧ ∀ p, o ≠ .ok (some p)) ∨
      ∃ latest, y = .ok (some latest) ∧ latest.phase = phase ∧
        (a.rounds config namespaceName name phase left latest).run.Walk es r := by
  rcases y with f | _ | latest
  · exact Or.inl ⟨.error f, (Program.walk_done_iff.1 h).2, by simp⟩
  · exact Or.inl ⟨.ok none, (Program.walk_done_iff.1 h).2, by simp⟩
  · rw [afterRead] at h
    split at h
    · next hp => exact Or.inr ⟨latest, rfl, hp, h⟩
    · exact Or.inl ⟨.ok none, (Program.walk_done_iff.1 h).2, by simp⟩

/-- A refused write ends the rounds, or it met a conflict and the Test is read again. -/
theorem walk_afterWrite_error {left : Nat} {f : Fault} {es : List Exchange}
    {r : Program (Except Fault (Option Test))}
    (h : (a.afterWrite config namespaceName name phase left (.error f)).Walk es r) :
    (∃ o, r = .done o ∧ ∀ p, o ≠ .ok (some p)) ∨
      (∃ next, r = .ask (.getTest namespaceName name) next) ∨
      ∃ latest es', f.isConflict = true ∧ latest.phase = phase ∧
        es = ⟨.getTest namespaceName name, .ok (some latest)⟩ :: es' ∧
        (a.rounds config namespaceName name phase left latest).run.Walk es' r := by
  rw [afterWrite] at h
  split at h
  · next hf =>
    rcases Program.walk_ask_iff.1 h with ⟨-, rfl⟩ | ⟨y, es', rfl, hy⟩
    · exact Or.inr (Or.inl ⟨_, rfl⟩)
    · rcases walk_afterRead hy with hd | ⟨latest, rfl, hp, hw⟩
      · exact Or.inl hd
      · exact Or.inr (Or.inr ⟨latest, es', hf, hp, rfl, hw⟩)
  · exact Or.inl ⟨.error f, (Program.walk_done_iff.1 h).2, by simp⟩

/-! ### Where a write comes from -/

/-- What is about to be written was computed by one run of the action on the copy of the last
round. If the write is accepted, the rounds are over. -/
theorem rounds_walk_write {n : Nat} {t u : Test} {es : List Exchange}
    {next : Except Fault Test → Program (Except Fault (Option Test))}
    (h : (a.rounds config namespaceName name phase n t).run.Walk es
      (.ask (.writeStatus u) next)) :
    (∀ p, next (.ok p) = .done (.ok (some p))) ∧
    ∃ k earlier round t', k < n ∧ es = earlier ++ round ∧
      a.Retries config namespaceName name phase k t earlier t' ∧
      Computes config t' a round u := by
  induction n generalizing t es with
  | zero => simp [run_rounds_zero] at h
  | succ left ih =>
    obtain ⟨round, es', u', rfl, hc, hw⟩ := walk_afterAction (not_mayAsk_writeStatus a u) h
    rcases Program.walk_ask_iff.1 hw with ⟨rfl, hq⟩ | ⟨x, es', rfl, hx⟩
    · cases hq
      exact ⟨fun p => rfl, 0, [], round, t, Nat.succ_pos _, by simp, .zero t, hc⟩
    · rcases x with f | stored
      · rcases walk_afterWrite_error hx with
          ⟨o, hd, -⟩ | ⟨next', hd⟩ | ⟨latest, es', hf, hp, rfl, hn⟩
        · cases hd
        · cases hd
        · obtain ⟨hd, k, earlier, round', t', hk, rfl, ht, hc'⟩ := ih hn
          exact ⟨hd, k + 1, _, round', t', Nat.succ_lt_succ hk, by simp, .succ hc hf hp ht, hc'⟩
      · simp [afterWrite] at hx

/-- What is returned was stored by the write of what one run of the action on the copy of the last
round had computed. -/
theorem rounds_ends_some {n : Nat} {t p : Test} {es : List Exchange}
    (h : (a.rounds config namespaceName name phase n t).run.Ends es (.ok (some p))) :
    ∃ k earlier round t' u, k < n ∧ es = earlier ++ round ++ [⟨.writeStatus u, .ok p⟩] ∧
      a.Retries config namespaceName name phase k t earlier t' ∧
      Computes config t' a round u := by
  induction n generalizing t es with
  | zero => simp [run_rounds_zero] at h
  | succ left ih =>
    rw [run_rounds_succ, Program.ends_bind_iff] at h
    obtain ⟨round, es', r, rfl, hp, hr⟩ := h
    rcases r with f | _ | u
    · simp [afterAction] at hr
    · simp [afterAction] at hr
    · have hc := handle_ends_iff.1 hp
      obtain ⟨x, es', rfl, hx⟩ := Program.ends_ask_iff.1 hr
      rcases x with f | stored
      · rcases walk_afterWrite_error hx with
          ⟨o, hd, ho⟩ | ⟨next', hd⟩ | ⟨latest, es', hf, hp, rfl, hn⟩
        · cases hd
          exact absurd rfl (ho p)
        · cases hd
        · obtain ⟨k, earlier, round', t', u', hk, rfl, ht, hc'⟩ := ih hn
          exact ⟨k + 1, _, round', t', u', Nat.succ_lt_succ hk, by simp, .succ hc hf hp ht, hc'⟩
      · obtain ⟨rfl, hd⟩ := Program.walk_done_iff.1 hx
        cases hd
        exact ⟨0, [], round, t, u, Nat.succ_pos _, by simp, .zero t, hc⟩

/-! ### A whole run of an action -/

theorem runOn_walk_write {t u : Test} {es : List Exchange}
    {next : Except Fault Test → Program (Except Fault (Option Test))}
    (h : (a.runOn config t).run.Walk es (.ask (.writeStatus u) next)) :
    (∀ p, next (.ok p) = .done (.ok (some p))) ∧
    ∃ namespaceName k earlier round t', t.metadata.namespaceName = some namespaceName ∧
      k < config.attempts ∧ es = earlier ++ round ∧
      a.Retries config namespaceName t.nameAny t.phase k t earlier t' ∧
      Computes config t' a round u := by
  rw [run_runOn] at h
  cases hn : t.metadata.namespaceName with
  | none => simp [hn] at h
  | some namespaceName =>
    rw [hn] at h
    obtain ⟨hd, k, earlier, round, t', hk⟩ := rounds_walk_write h
    exact ⟨hd, namespaceName, k, earlier, round, t', rfl, hk⟩

theorem runOn_ends_some {t p : Test} {es : List Exchange}
    (h : (a.runOn config t).run.Ends es (.ok (some p))) :
    ∃ namespaceName k earlier round t' u, t.metadata.namespaceName = some namespaceName ∧
      k < config.attempts ∧ es = earlier ++ round ++ [⟨.writeStatus u, .ok p⟩] ∧
      a.Retries config namespaceName t.nameAny t.phase k t earlier t' ∧
      Computes config t' a round u := by
  rw [run_runOn] at h
  cases hn : t.metadata.namespaceName with
  | none => simp [hn] at h
  | some namespaceName =>
    rw [hn] at h
    obtain ⟨k, earlier, round, t', u, hk⟩ := rounds_ends_some h
    exact ⟨namespaceName, k, earlier, round, t', u, rfl, hk⟩

/-- A question that is the action's own is asked by one run of it, on the copy of the last round. -/
theorem rounds_walk_own {n : Nat} {t : Test} {es : List Exchange} {q : Query}
    {next : q.Answer → Program (Except Fault (Option Test))} (hw : ∀ u, q ≠ .writeStatus u)
    (hg : q ≠ .getTest namespaceName name)
    (h : (a.rounds config namespaceName name phase n t).run.Walk es (.ask q next)) :
    ∃ k earlier round t' next', es = earlier ++ round ∧
      a.Retries config namespaceName name phase k t earlier t' ∧
      (a.handle config t').run.Walk round (.ask q next') := by
  induction n generalizing t es with
  | zero => simp [run_rounds_zero] at h
  | succ left ih =>
    rw [run_rounds_succ, Program.walk_bind_iff] at h
    rcases h with ⟨p', hp, hr⟩ | ⟨round, es', r, rfl, hp, hr⟩
    · cases p' with
      | ask q' next' =>
        cases hr
        exact ⟨0, [], es, t, next', rfl, .zero t, hp⟩
      | done r =>
        rcases r with f | _ | u
        · cases hr
        · cases hr
        · exact absurd (Program.ask.inj hr).1 (hw u)
    · rcases r with f | _ | u
      · simp [afterAction] at hr
      · simp [afterAction] at hr
      · have hc := handle_ends_iff.1 hp
        rcases Program.walk_ask_iff.1 hr with ⟨-, hq⟩ | ⟨x, es', rfl, hx⟩
        · exact absurd (Program.ask.inj hq).1 (hw u)
        · rcases x with f | stored
          · rcases walk_afterWrite_error hx with
              ⟨o, hd, -⟩ | ⟨next', hd⟩ | ⟨latest, es', hf, hp, rfl, hn⟩
            · cases hd
            · exact absurd (Program.ask.inj hd).1 hg
            · obtain ⟨k, earlier, round', t', next', rfl, ht, hwalk⟩ := ih hn
              exact ⟨k + 1, _, round', t', next', by simp, .succ hc hf hp ht, hwalk⟩
          · simp [afterWrite] at hx

/-- An object that is about to be applied is one of the workload of the copy of the last round. -/
theorem runOn_walk_manifest {t : Test} {m : Manifest} {es : List Exchange}
    {next : Except Fault Unit → Program (Except Fault (Option Test))}
    (h : (a.runOn config t).run.Walk es (.ask (.apply m) next)) :
    ∃ namespaceName k earlier round t', t.metadata.namespaceName = some namespaceName ∧
      es = earlier ++ round ∧
      a.Retries config namespaceName t.nameAny t.phase k t earlier t' ∧
      a.Asks config t' (.apply m) := by
  rw [run_runOn] at h
  cases hn : t.metadata.namespaceName with
  | none => simp [hn] at h
  | some namespaceName =>
    rw [hn] at h
    obtain ⟨k, earlier, round, t', next', hes, hr, hw⟩ := rounds_walk_own (by simp) (by simp) h
    exact ⟨namespaceName, k, earlier, round, t', rfl, hes, hr,
      ((a.asks_handle config t').walk hw).1⟩

end Action

theorem Test.reconcile_eq (t : Test) (config : Config) :
    t.reconcile config =
      ((Action.ofPhase t.phase).runOn config t).run.bind fun r =>
        .done (.ofOutcome t.phase (Action.ofPhase t.phase) r) := rfl

end Proctor
