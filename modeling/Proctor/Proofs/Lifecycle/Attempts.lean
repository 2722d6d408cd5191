import Mathlib.Data.List.Chain
import Proctor.Cluster.Store
import Proctor.Proofs.Lifecycle.Faults
import Proctor.Proofs.Test.Validation
import Proctor.Proofs.Workload.Acceptance

/-!
# What comes of the attempts to write

A run of an action is a list of rounds. In each of them the action is run on one copy of the Test,
what it computes is written, and if the write meets another version the Test is read again. `Round`
is what one round did, with one ending for each way in which it can go, and `Succession` says how
rounds follow each other: those that met another version and found the Test in the phase that was
observed are followed by the next one, as long as attempts are left, and any other one is the last.
So what comes of a run is read off its rounds (`Action.outcome_of_attempts`). A fault that is told
by an answer ends the run there and then, unless it is a conflict that a write met
(`Action.haltsAtFault_runOn`).
-/

namespace Proctor

variable {α β : Type}

/-! ### Faults that end a run -/

/-- The server refused a request because of a conflict. -/
def Fault.IsStale (f : Fault) : Prop := ∃ r, f = .api (.refused r) ∧ r.code = 409

/-- A conflict is told by the server, or by attempts that were used up. -/
theorem Fault.isConflict_iff {f : Fault} :
    f.isConflict = true ↔ f.IsStale ∨ ∃ test n, f = .conflict test n := by
  constructor
  · intro h
    cases f with
    | api f =>
      cases f with
      | refused r => exact Or.inl ⟨r, rfl, by simpa [isConflict] using h⟩
      | emptyName | unaddressable _ | unusable => cases h
    | conflict test n => exact Or.inr ⟨test, n, rfl⟩
    | invalid _ _ | unreadable _ | internal _ | missingNamespace | missingTestId _ => cases h
  · rintro (⟨r, rfl, h⟩ | ⟨test, n, rfl⟩)
    · simpa [isConflict] using h
    · rfl

/-- The fault that an answer tells, unless it is a conflict that a write met. -/
def Exchange.fatal? : Exchange → Option Fault
  | ⟨.writeStatus _, x⟩ => (Fault.of? x).filter fun f => !f.isConflict
  | e => e.fault?

theorem Exchange.fatal?_eq_of_fault? {e : Exchange} {f : Fault} (h : e.fault? = some f)
    (hc : ∀ u, e.query = .writeStatus u → f.isConflict = false) : e.fatal? = some f := by
  obtain ⟨q, x⟩ := e
  cases q with
  | writeStatus u => exact Option.filter_eq_some_iff.2 ⟨h, by simp [hc u rfl]⟩
  | freshId | clock | getTest _ _ | getPod _ _ | apply _ => exact h

namespace Program

/-- The program ends with a fault as soon as an answer tells it. -/
def HaltsAtFault : Program (Except Fault α) → Prop
  | .done _ => True
  | .ask q next => ∀ x,
    (∀ f, (⟨q, x⟩ : Exchange).fatal? = some f → next x = .done (.error f)) ∧
      (next x).HaltsAtFault

theorem HaltsAtFault.bind {p : Program (Except Fault α)}
    {g : Except Fault α → Program (Except Fault β)} (h : p.HaltsAtFault)
    (he : ∀ f, g (.error f) = .done (.error f)) (hg : ∀ a, (g (.ok a)).HaltsAtFault) :
    (p.bind g).HaltsAtFault := by
  induction p with
  | done r =>
    cases r with
    | error f =>
      rw [bind_done, he]
      trivial
    | ok a => exact hg a
  | ask q next ih =>
    refine fun x => ⟨fun f hf => ?_, ih x (h x).2⟩
    show (next x).bind g = _
    rw [(h x).1 f hf, bind_done, he]

/-- After the fault nothing more is asked. -/
theorem HaltsAtFault.last {p : Program (Except Fault α)} {es fs : List Exchange} {e : Exchange}
    {r : Except Fault α} {f : Fault} (h : p.HaltsAtFault) (hp : p.Ends (es ++ e :: fs) r)
    (hf : e.fatal? = some f) : fs = [] ∧ r = .error f := by
  induction es generalizing p with
  | nil =>
    cases hp with
    | cons hp =>
      rw [(h _).1 f hf] at hp
      obtain ⟨rfl, hr⟩ := walk_done_iff.1 hp
      cases hr
      exact ⟨rfl, rfl⟩
  | cons e' es ih =>
    cases hp with
    | cons hp => exact ih (h _).2 hp

end Program

namespace Step

theorem haltsAtFault_bind {x : Step α} {f : α → Step β} (hx : x.run.HaltsAtFault)
    (hf : ∀ a, (f a).run.HaltsAtFault) : (x >>= f).run.HaltsAtFault := by
  rw [run_bind]
  exact hx.bind (fun _ => rfl) hf

theorem haltsAtFault_map {x : Step α} {g : α → β} (hx : x.run.HaltsAtFault) :
    (g <$> x).run.HaltsAtFault := by
  rw [run_map]
  exact hx.bind (fun _ => rfl) fun _ => trivial

theorem haltsAtFault_freshId : freshId.run.HaltsAtFault :=
  fun _ => ⟨fun _ hf => (by cases hf), trivial⟩

theorem haltsAtFault_clock : clock.run.HaltsAtFault :=
  fun _ => ⟨fun _ hf => (by cases hf), trivial⟩

theorem haltsAtFault_getPod (namespaceName name : String) :
    (getPod namespaceName name).run.HaltsAtFault :=
  fun _ => ⟨fun _ hf => congrArg _ (Fault.of?_eq_some_iff.1 hf), trivial⟩

theorem haltsAtFault_applyAll (ms : List Manifest) : (applyAll ms).run.HaltsAtFault := by
  induction ms with
  | nil => trivial
  | cons m rest ih =>
    refine haltsAtFault_bind (fun _ => ⟨fun _ hf => ?_, trivial⟩) fun _ => ih
    exact congrArg _ (Fault.of?_eq_some_iff.1 hf)

end Step

open Step

theorem Test.haltsAtFault_finish (t : Test) (phase : Phase) (kept : Collected) :
    (some <$> t.finish phase kept : Step (Option Test)).run.HaltsAtFault :=
  haltsAtFault_map (haltsAtFault_bind haltsAtFault_clock fun _ => trivial)

namespace Action

variable {a : Action} {config : Config} {namespaceName name : String} {phase : Phase}

theorem haltsAtFault_handle (a : Action) (config : Config) (t : Test) :
    (a.handle config t).run.HaltsAtFault := by
  cases a with
  | initiate =>
    refine haltsAtFault_map (haltsAtFault_bind haltsAtFault_freshId fun id => ?_)
    cases h : t.check with
    | ok _ => trivial
    | error f => exact haltsAtFault_bind haltsAtFault_clock fun _ => trivial
  | start =>
    exact haltsAtFault_map (haltsAtFault_bind trivial fun n => haltsAtFault_bind trivial fun w =>
      haltsAtFault_bind (haltsAtFault_applyAll (w.manifests n)) fun _ =>
        haltsAtFault_bind haltsAtFault_clock fun _ => trivial)
  | evaluate =>
    refine haltsAtFault_bind trivial fun n => ?_
    cases h : t.testId? with
    | none => exact t.haltsAtFault_finish _ _
    | some id =>
      refine haltsAtFault_bind (haltsAtFault_getPod _ _) fun pod? => ?_
      cases pod? with
      | none => exact t.haltsAtFault_finish _ _
      | some pod =>
        cases ho : pod.outcome with
        | inProgress => simp only [ho]; trivial
        | succeeded => simpa only [ho] using t.haltsAtFault_finish _ _
        | failed => simpa only [ho] using t.haltsAtFault_finish _ _
  | monitor | noop => trivial

theorem haltsAtFault_afterRead {left : Nat}
    (h : ∀ t, (a.rounds config namespaceName name phase left t).run.HaltsAtFault)
    (y : Except Fault (Option Test)) :
    (a.afterRead config namespaceName name phase left y).HaltsAtFault := by
  rcases y with f | _ | latest
  · trivial
  · trivial
  · rw [afterRead]
    split
    · exact h latest
    · trivial

theorem haltsAtFault_afterWrite {left : Nat}
    (h : ∀ t, (a.rounds config namespaceName name phase left t).run.HaltsAtFault)
    (x : Except Fault Test) :
    (a.afterWrite config namespaceName name phase left x).HaltsAtFault := by
  rcases x with f | stored
  · rw [afterWrite]
    split
    · refine fun y => ⟨fun g hg => ?_, haltsAtFault_afterRead h y⟩
      rw [Fault.of?_eq_some_iff.1 hg]
      rfl
    · trivial
  · trivial

theorem haltsAtFault_rounds (a : Action) (config : Config) (namespaceName name : String)
    (phase : Phase) (n : Nat) (t : Test) :
    (a.rounds config namespaceName name phase n t).run.HaltsAtFault := by
  induction n generalizing t with
  | zero => trivial
  | succ left ih =>
    rw [run_rounds_succ]
    refine (a.haltsAtFault_handle config t).bind (fun _ => rfl) fun o => ?_
    cases o with
    | none => trivial
    | some u =>
      refine fun x => ⟨fun f hf => ?_, haltsAtFault_afterWrite ih x⟩
      obtain ⟨hx, hc⟩ := Option.filter_eq_some_iff.1 hf
      rw [Fault.of?_eq_some_iff.1 hx, afterWrite, if_neg (by simpa using hc)]

/-- A run of an action ends with a fault as soon as an answer tells it, unless it is a conflict that
a write met. -/
theorem haltsAtFault_runOn (a : Action) (config : Config) (t : Test) :
    (a.runOn config t).run.HaltsAtFault := by
  rw [run_runOn]
  cases t.metadata.namespaceName with
  | none => trivial
  | some namespaceName => exact a.haltsAtFault_rounds config namespaceName _ _ _ t

end Action

/-! ### Rounds -/

/-- How a round goes on after the action was run, up to its end. -/
inductive Round.Ending where
  /-- The action ended with a fault. -/
  | failed (f : Fault)
  /-- The Test is to stay as it is. -/
  | unchanged
  /-- What the action computed was written, and no other version was in the way. -/
  | written (u : Test) (x : Except Fault Test)
  /-- What the action computed met another version, and the Test was read again. -/
  | reread (u : Test) (f : Fault) (y : Except Fault (Option Test))

/-- One round. -/
structure Round where
  /-- The copy that the action was run on. -/
  copy : Test
  /-- What the action asked, with the answers. -/
  asked : List Exchange
  /-- How it went on. -/
  ending : Round.Ending

namespace Round

namespace Ending

/-- What the action came to. -/
def computed : Ending → Except Fault (Option Test)
  | .failed f => .error f
  | .unchanged => .ok none
  | .written u _ | .reread u _ _ => .ok (some u)

/-- What was asked after the action was run: at most one write, and then at most one reading. -/
def exchanges (namespaceName name : String) : Ending → List Exchange
  | .failed _ | .unchanged => []
  | .written u x => [⟨.writeStatus u, x⟩]
  | .reread u f y => [⟨.writeStatus u, .error f⟩, ⟨.getTest namespaceName name, y⟩]

/-- The Test was read again just if the write met a conflict. -/
def Fits : Ending → Prop
  | .failed _ | .unchanged | .written _ (.ok _) => True
  | .written _ (.error f) => ¬ f.IsStale
  | .reread _ f _ => f.IsStale

/-- What comes of the rounds if this is how one of them ends; nothing if the Test was read again and
still stands in the phase that was observed. -/
def outcome? (phase : Phase) : Ending → Option (Except Fault (Option Test))
  | .failed f => some (.error f)
  | .unchanged => some (.ok none)
  | .written _ x => some (x.map some)
  | .reread _ _ (.error f) => some (.error f)
  | .reread _ _ (.ok none) => some (.ok none)
  | .reread _ _ (.ok (some latest)) => if latest.phase = phase then none else some (.ok none)

variable {e : Ending} {phase : Phase}

theorem outcome?_eq_none_iff :
    e.outcome? phase = none ↔
      ∃ u f latest, e = .reread u f (.ok (some latest)) ∧ latest.phase = phase := by
  constructor
  · intro h
    rcases e with f | _ | ⟨u, x⟩ | ⟨u, f, g | _ | latest⟩ <;> simp [outcome?] at h
    exact ⟨u, f, latest, rfl, h⟩
  · rintro ⟨u, f, latest, rfl, h⟩
    exact if_pos h

theorem outcome?_eq_stored_iff {p : Test} :
    e.outcome? phase = some (.ok (some p)) ↔ ∃ u, e = .written u (.ok p) := by
  rcases e with f | _ | ⟨u, f | q⟩ | ⟨u, f, g | _ | latest⟩ <;> simp [outcome?, Except.map]

theorem outcome?_eq_nothing_iff :
    e.outcome? phase = some (.ok none) ↔
      e = .unchanged ∨
        ∃ u f y, e = .reread u f (.ok y) ∧ ∀ latest, y = some latest → latest.phase ≠ phase := by
  constructor
  · intro h
    rcases e with f | _ | ⟨u, f | q⟩ | ⟨u, f, g | _ | latest⟩ <;>
      simp [outcome?, Except.map] at h
    · exact Or.inl rfl
    · exact Or.inr ⟨u, f, none, rfl, by simp⟩
    · exact Or.inr ⟨u, f, some latest, rfl, fun _ hl => Option.some.inj hl ▸ h⟩
  · rintro (rfl | ⟨u, f, y, rfl, hy⟩)
    · rfl
    · cases y with
      | none => rfl
      | some latest => exact if_neg (hy latest rfl)

theorem outcome?_eq_error_iff {f : Fault} :
    e.outcome? phase = some (.error f) ↔
      e = .failed f ∨ (∃ u, e = .written u (.error f)) ∨ ∃ u g, e = .reread u g (.error f) := by
  rcases e with f | _ | ⟨u, f | q⟩ | ⟨u, f, g | _ | latest⟩ <;> simp [outcome?, Except.map]

end Ending

/-- What was asked in a round. -/
def exchanges (namespaceName name : String) (r : Round) : List Exchange :=
  r.asked ++ r.ending.exchanges namespaceName name

/-- A round of an action on a Test that was observed in some phase. -/
structure Sound (a : Action) (config : Config) (phase : Phase) (r : Round) : Prop where
  /-- The copy stands in that phase. -/
  phase_eq : r.copy.phase = phase
  /-- The action was run on it, once. -/
  ran : (a.handle config r.copy).run.Ends r.asked r.ending.computed
  /-- The Test was read again just if the write met a conflict. -/
  fits : r.ending.Fits

end Round

theorem Test.workload_ne_conflict {t : Test} {config : Config} {test : String} {n : Nat} :
    t.workload config ≠ .error (.conflict test n) := by
  intro h
  cases workload_eq_error_iff.1 h with
  | validity hc =>
    obtain ⟨p, hp, -⟩ := check_eq_error_iff.1 hc
    cases hp

/-- No answer tells of attempts that were used up; those of the run itself are told by no one. -/
def Unspent (es : List Exchange) : Prop := ∀ e ∈ es, ∀ test n, e.fault? ≠ some (.conflict test n)

theorem Unspent.isConflict_iff {es : List Exchange} (h : Unspent es) {u : Test} {f : Fault}
    (hm : ⟨.writeStatus u, .error f⟩ ∈ es) : f.isConflict = true ↔ f.IsStale := by
  rw [Fault.isConflict_iff, or_iff_left]
  rintro ⟨test, n, rfl⟩
  exact h _ hm test n rfl

/-- A round whose answers do not tell of attempts that were used up does not end with that. -/
theorem Round.Sound.outcome?_ne_conflict {a : Action} {config : Config} {phase : Phase} {r : Round}
    (h : r.Sound a config phase) {namespaceName name : String}
    (hu : Unspent (r.exchanges namespaceName name)) (test : String) (n : Nat) :
    r.ending.outcome? phase ≠ some (.error (.conflict test n)) := by
  intro ho
  rcases Ending.outcome?_eq_error_iff.1 ho with he | ⟨u, he⟩ | ⟨u, g, he⟩
  · have hran := h.ran
    rw [he] at hran
    rcases a.handle_faults config r.copy _ _ hran with (⟨-, hf⟩ | ⟨-, hf⟩) | ⟨e, hm, hf⟩
    · cases hf
    · exact Test.workload_ne_conflict hf
    · exact hu e (List.mem_append_left _ hm) test n hf
  · exact hu ⟨.writeStatus u, .error (.conflict test n)⟩
      (List.mem_append_right _ (by simp [he, Ending.exchanges])) test n rfl
  · exact hu ⟨.getTest namespaceName name, .error (.conflict test n)⟩
      (List.mem_append_right _ (by simp [he, Ending.exchanges])) test n rfl

/-! ### How rounds follow each other -/

/-- The rounds that begin on a copy while so many attempts are left, and what comes of them. -/
inductive Succession (a : Action) (config : Config) (name : String) (phase : Phase) :
    Nat → Test → List Round → Except Fault (Option Test) → Prop where
  /-- No attempt is left. -/
  | spent (t : Test) :
    Succession a config name phase 0 t [] (.error (.conflict name config.attempts))
  /-- The round has an outcome, so it is the last one. -/
  | last {n : Nat} {r : Round} {o : Except Fault (Option Test)} (hs : r.Sound a config phase)
      (ho : r.ending.outcome? phase = some o) : Succession a config name phase (n + 1) r.copy [r] o
  /-- The next round begins on the copy that was read. -/
  | next {n : Nat} {r : Round} {u latest : Test} {f : Fault} {rs : List Round}
      {o : Except Fault (Option Test)} (hs : r.Sound a config phase)
      (he : r.ending = .reread u f (.ok (some latest))) (hp : latest.phase = phase)
      (h : Succession a config name phase n latest rs o) :
    Succession a config name phase (n + 1) r.copy (r :: rs) o

namespace Action

variable {a : Action} {config : Config} {namespaceName name : String} {phase : Phase}

/-- How a round goes on after the action was run, and what is left after it. -/
theorem afterAction_ends {left : Nat} {c o : Except Fault (Option Test)} {es : List Exchange}
    (hu : Unspent es) (h : (a.afterAction config namespaceName name phase left c).Ends es o) :
    ∃ (e : Round.Ending) (rest : List Exchange), e.computed = c ∧ e.Fits ∧
      es = e.exchanges namespaceName name ++ rest ∧
      (rest = [] ∧ e.outcome? phase = some o ∨
        ∃ u f latest, e = .reread u f (.ok (some latest)) ∧ latest.phase = phase ∧
          (a.rounds config namespaceName name phase left latest).run.Ends rest o) := by
  rcases c with f | _ | u
  · obtain ⟨rfl, hd⟩ := Program.walk_done_iff.1 h
    cases hd
    exact ⟨.failed f, [], rfl, trivial, rfl, Or.inl ⟨rfl, rfl⟩⟩
  · obtain ⟨rfl, hd⟩ := Program.walk_done_iff.1 h
    cases hd
    exact ⟨.unchanged, [], rfl, trivial, rfl, Or.inl ⟨rfl, rfl⟩⟩
  · obtain ⟨x, es, rfl, hx⟩ := Program.ends_ask_iff.1 h
    rcases x with f | stored
    · have hf := hu.isConflict_iff List.mem_cons_self
      rw [afterWrite] at hx
      split at hx
      · next hc =>
        obtain ⟨y, rest, rfl, hy⟩ := Program.ends_ask_iff.1 hx
        refine ⟨.reread u f y, rest, rfl, hf.1 hc, rfl, ?_⟩
        rcases y with g | _ | latest
        · obtain ⟨rfl, hd⟩ := Program.walk_done_iff.1 hy
          cases hd
          exact Or.inl ⟨rfl, rfl⟩
        · obtain ⟨rfl, hd⟩ := Program.walk_done_iff.1 hy
          cases hd
          exact Or.inl ⟨rfl, rfl⟩
        · rw [afterRead] at hy
          split at hy
          · next hp => exact Or.inr ⟨u, f, latest, rfl, hp, hy⟩
          · next hp =>
            obtain ⟨rfl, hd⟩ := Program.walk_done_iff.1 hy
            cases hd
            exact Or.inl ⟨rfl, if_neg hp⟩
      · next hc =>
        obtain ⟨rfl, hd⟩ := Program.walk_done_iff.1 hx
        cases hd
        exact ⟨.written u (.error f), [], rfl, fun hs => hc (hf.2 hs), rfl, Or.inl ⟨rfl, rfl⟩⟩
    · obtain ⟨rfl, hd⟩ := Program.walk_done_iff.1 hx
      cases hd
      exact ⟨.written u (.ok stored), [], rfl, trivial, rfl, Or.inl ⟨rfl, rfl⟩⟩

/-- The rounds of a run, which ask all that it asks. -/
theorem succession_of_rounds_ends {n : Nat} {t : Test} {es : List Exchange}
    {o : Except Fault (Option Test)} (ht : t.phase = phase) (hu : Unspent es)
    (h : (a.rounds config namespaceName name phase n t).run.Ends es o) :
    ∃ rs, Succession a config name phase n t rs o ∧
      es = rs.flatMap (Round.exchanges namespaceName name) := by
  induction n generalizing t es with
  | zero =>
    rw [run_rounds_zero] at h
    obtain ⟨rfl, hd⟩ := Program.walk_done_iff.1 h
    cases hd
    exact ⟨[], .spent t, rfl⟩
  | succ left ih =>
    rw [run_rounds_succ, Program.ends_bind_iff] at h
    obtain ⟨asked, es, c, rfl, hran, hc⟩ := h
    obtain ⟨e, rest, rfl, hfits, rfl, hgo⟩ :=
      afterAction_ends (fun x hx => hu x (List.mem_append_right _ hx)) hc
    have hs : Round.Sound a config phase ⟨t, asked, e⟩ := ⟨ht, hran, hfits⟩
    rcases hgo with ⟨rfl, ho⟩ | ⟨u, f, latest, he, hp, hrest⟩
    · exact ⟨[⟨t, asked, e⟩], .last hs ho, by simp [Round.exchanges]⟩
    · have hrestUnspent : Unspent rest := fun x hx =>
        hu x (List.mem_append_right _ (List.mem_append_right _ hx))
      obtain ⟨rs, hrounds, rfl⟩ := ih hp hrestUnspent hrest
      exact ⟨⟨t, asked, e⟩ :: rs, .next hs he hp hrounds, by simp [Round.exchanges]⟩

end Action

namespace Succession

variable {a : Action} {config : Config} {name : String} {phase : Phase} {n : Nat} {t : Test}
  {rs : List Round} {o : Except Fault (Option Test)}

theorem length_le (h : Succession a config name phase n t rs o) : rs.length ≤ n := by
  induction h with
  | spent => exact Nat.le_refl 0
  | last => exact Nat.succ_le_succ (Nat.zero_le _)
  | next _ _ _ _ ih => exact Nat.succ_le_succ ih

theorem sound (h : Succession a config name phase n t rs o) : ∀ r ∈ rs, r.Sound a config phase := by
  induction h with
  | spent => simp
  | last hs => simpa using hs
  | next hs _ _ _ ih => exact List.forall_mem_cons.2 ⟨hs, ih⟩

/-- The first round is on the copy that the rounds begin on. -/
theorem copy_eq_of_head? (h : Succession a config name phase n t rs o) :
    ∀ r, rs.head? = some r → r.copy = t := by
  intro r hr
  cases h with
  | spent => cases hr
  | last => rw [← Option.some.inj hr]
  | next => rw [← Option.some.inj hr]

/-- Each other round is on the copy that was read before it. -/
theorem isChain (h : Succession a config name phase n t rs o) :
    rs.IsChain fun r r' => ∃ u f, r.ending = .reread u f (.ok (some r'.copy)) := by
  induction h with
  | spent => exact .nil
  | last => exact .singleton _
  | next _ he _ h ih =>
    refine List.isChain_cons.2 ⟨fun r' hr' => ?_, ih⟩
    rw [h.copy_eq_of_head? r' hr']
    exact ⟨_, _, he⟩

/-- What comes of one round comes of all. -/
theorem outcome_eq (h : Succession a config name phase n t rs o) {r : Round}
    {o' : Except Fault (Option Test)} (hr : r ∈ rs) (ho : r.ending.outcome? phase = some o') :
    o = o' := by
  induction h with
  | spent => cases hr
  | last hs hl =>
    rw [List.mem_singleton.1 hr, hl] at ho
    exact Option.some.inj ho
  | next hs he hp _ ih =>
    rcases List.mem_cons.1 hr with rfl | hr
    · rw [Round.Ending.outcome?_eq_none_iff.2 ⟨_, _, _, he, hp⟩] at ho
      cases ho
    · exact ih hr

/-- Either all attempts were used up and no round has an outcome, or one of them has. -/
theorem spent_or (h : Succession a config name phase n t rs o) :
    (o = .error (.conflict name config.attempts) ∧ rs.length = n ∧
      ∀ r ∈ rs, r.ending.outcome? phase = none) ∨
    ∃ r ∈ rs, r.ending.outcome? phase = some o := by
  induction h with
  | spent t => exact Or.inl ⟨rfl, rfl, by simp⟩
  | last hs ho => exact Or.inr ⟨_, List.mem_singleton_self _, ho⟩
  | next hs he hp _ ih =>
    rcases ih with ⟨rfl, rfl, hnone⟩ | ⟨r, hr, ho⟩
    · refine Or.inl ⟨rfl, rfl, List.forall_mem_cons.2 ⟨?_, hnone⟩⟩
      exact Round.Ending.outcome?_eq_none_iff.2 ⟨_, _, _, he, hp⟩
    · exact Or.inr ⟨r, List.mem_cons_of_mem _ hr, ho⟩

end Succession

/-! ### A whole run of an action -/

/-- The rounds of a run of an action on a Test, what was asked in them, and what came of the run. -/
structure Attempts (a : Action) (config : Config) (namespaceName : String) (t : Test)
    (rounds : List Round) (es : List Exchange) (o : Except Fault (Option Test)) : Prop where
  /-- All that was asked was asked in the rounds. -/
  exchanges : es = rounds.flatMap (Round.exchanges namespaceName t.nameAny)
  /-- There are no more rounds than attempts. -/
  bounded : rounds.length ≤ config.attempts
  /-- In each of them the action is run once, on a copy in the phase that was observed, and itself
  neither reads nor writes a Test; then there is at most one write, and the Test is read again just
  if that met a conflict. -/
  sound : ∀ r ∈ rounds, r.Sound a config t.phase ∧ ∀ e ∈ r.asked, a.mayAsk e.query
  /-- The first round is on the Test that was observed. -/
  first : rounds.head?.map Round.copy = some t
  /-- Each other one is on the copy that was read before it. -/
  later : rounds.IsChain fun r r' => ∃ u f, r.ending = .reread u f (.ok (some r'.copy))
  /-- A write that is accepted is the last thing that is asked, so there is at most one. -/
  accepted : ∀ es' u p fs, es = es' ++ ⟨.writeStatus u, .ok p⟩ :: fs → fs = []
  /-- A Test is returned just if it is what a write was answered with. -/
  stored : ∀ p, o = .ok (some p) ↔ ∃ u, ⟨.writeStatus u, .ok p⟩ ∈ es
  /-- The attempts are used up just if there were as many rounds, and each of them met a conflict
  and found the Test in the phase that was observed. -/
  spent : o = .error (.conflict t.nameAny config.attempts) ↔
    rounds.length = config.attempts ∧ ∀ r ∈ rounds, ∃ u f latest,
      r.ending = .reread u f (.ok (some latest)) ∧ latest.phase = t.phase
  /-- Nothing is returned just if in some round the action wanted nothing to be stored, or the Test
  that was read again was gone or in another phase. -/
  nothing : o = .ok none ↔ ∃ r ∈ rounds, r.ending = .unchanged ∨
    ∃ u f y, r.ending = .reread u f (.ok y) ∧ ∀ latest, y = some latest → latest.phase ≠ t.phase
  /-- Any other fault is returned just if in some round the action ended with it, or the write, or
  the reading. -/
  failed : ∀ f, o = .error f ∧ f ≠ .conflict t.nameAny config.attempts ↔
    ∃ r ∈ rounds, r.ending = .failed f ∨ (∃ u, r.ending = .written u (.error f)) ∨
      ∃ u g, r.ending = .reread u g (.error f)
  /-- A fault that is told by an answer is returned at once, unless it is a conflict that a write
  met. -/
  atOnce : ∀ es' e fs f, es = es' ++ e :: fs → e.fault? = some f →
    (∀ u, e.query = .writeStatus u → ¬ f.IsStale) → fs = [] ∧ o = .error f

namespace Action

variable {a : Action} {config : Config}

/-- What a write is answered with is returned at once. -/
theorem runOn_ends_accepted {t u p : Test} {es fs : List Exchange} {o : Except Fault (Option Test)}
    (h : (a.runOn config t).run.Ends (es ++ ⟨.writeStatus u, .ok p⟩ :: fs) o) :
    fs = [] ∧ o = .ok (some p) := by
  obtain ⟨next, hw, hfs⟩ := Program.walk_append_cons_iff.1 h
  rw [(runOn_walk_write hw).1 p] at hfs
  obtain ⟨rfl, hd⟩ := Program.walk_done_iff.1 hfs
  cases hd
  exact ⟨rfl, rfl⟩

/-- The rounds of a run that is over. -/
theorem attempts_of_ends {t : Test} {namespaceName : String} {es : List Exchange}
    {o : Except Fault (Option Test)} (hn : t.metadata.namespaceName = some namespaceName)
    (hu : Unspent es) (h : (a.runOn config t).run.Ends es o) :
    ∃ rounds, Attempts a config namespaceName t rounds es o := by
  have hrounds := h
  rw [run_runOn, hn] at hrounds
  obtain ⟨rs, hc, hes⟩ := succession_of_rounds_ends rfl hu hrounds
  have hmem : ∀ r ∈ rs, ∀ e ∈ r.exchanges namespaceName t.nameAny, e ∈ es := by
    intro r hr e he
    rw [hes]
    exact List.mem_flatMap.2 ⟨r, hr, he⟩
  -- no round ends with attempts that were used up, so only the whole run does
  have hne : ∀ r ∈ rs, ∀ test n,
      r.ending.outcome? t.phase ≠ some (.error (.conflict test n)) :=
    fun r hr => (hc.sound r hr).outcome?_ne_conflict fun e he => hu e (hmem r hr e he)
  have houtcome : ∀ o', o' ≠ .error (.conflict t.nameAny config.attempts) →
      (o = o' ↔ ∃ r ∈ rs, r.ending.outcome? t.phase = some o') := by
    intro o' ho'
    constructor
    · rintro rfl
      rcases hc.spent_or with ⟨hspent, -⟩ | hfound
      · exact absurd hspent ho'
      · exact hfound
    · rintro ⟨r, hr, ho⟩
      exact hc.outcome_eq hr ho
  refine ⟨rs, hes, hc.length_le, fun r hr => ⟨hc.sound r hr, ?_⟩, ?_, hc.isChain, ?_, fun p => ?_,
    ?_, ?_, fun f => ?_, ?_⟩
  · exact (a.asksOnly_handle config r.copy).of_mem (hc.sound r hr).ran
  · obtain ⟨left, hleft⟩ := Nat.exists_eq_succ_of_ne_zero (Nat.ne_of_gt config.attempts_pos)
    rw [hleft] at hc
    cases hc <;> rfl
  · rintro es' u p fs rfl
    exact (runOn_ends_accepted h).1
  · constructor
    · intro ho
      obtain ⟨r, hr, hro⟩ := (houtcome _ (by simp)).1 ho
      obtain ⟨u, he⟩ := Round.Ending.outcome?_eq_stored_iff.1 hro
      refine ⟨u, hmem r hr _ (List.mem_append_right _ ?_)⟩
      rw [he]
      exact List.mem_singleton_self _
    · rintro ⟨u, hm⟩
      obtain ⟨es', fs, rfl⟩ := List.append_of_mem hm
      exact (runOn_ends_accepted h).2
  · refine Iff.trans ?_ (and_congr_right fun _ => forall₂_congr fun r _ =>
      Round.Ending.outcome?_eq_none_iff)
    constructor
    · intro ho
      rcases hc.spent_or with ⟨-, hspent⟩ | ⟨r, hr, hro⟩
      · exact hspent
      · exact absurd (ho ▸ hro) (hne r hr _ _)
    · rintro ⟨-, hnone⟩
      rcases hc.spent_or with ⟨ho, -⟩ | ⟨r, hr, hro⟩
      · exact ho
      · rw [hnone r hr] at hro
        cases hro
  · exact (houtcome _ (by simp)).trans (exists_congr fun r => and_congr_right fun _ =>
      Round.Ending.outcome?_eq_nothing_iff)
  · have herr : ∀ r : Round, r.ending.outcome? t.phase = some (.error f) ↔ _ :=
      fun r => Round.Ending.outcome?_eq_error_iff
    refine Iff.trans ?_ (exists_congr fun r => and_congr_right fun _ => herr r)
    constructor
    · rintro ⟨ho, hf⟩
      exact (houtcome _ (by simpa using hf)).1 ho
    · rintro ⟨r, hr, hro⟩
      refine ⟨hc.outcome_eq hr hro, ?_⟩
      rintro rfl
      exact hne r hr _ _ hro
  · rintro es' e fs f rfl hf hstale
    refine (a.haltsAtFault_runOn config t).last h (Exchange.fatal?_eq_of_fault? hf ?_)
    intro u hq
    rw [← Bool.not_eq_true, Fault.isConflict_iff]
    rintro (hs | ⟨test, n, rfl⟩)
    · exact hstale u hq hs
    · exact hu e (by simp) test n hf

/-- Whatever a world answers that does not itself tell of attempts that were used up, what comes of
the run of an action on a Test in a namespace is read off its rounds. -/
theorem outcome_of_attempts {σ : Type} (world : (q : Query) → σ → q.Answer × σ)
    (hw : ∀ q s test n, (⟨q, (world q s).1⟩ : Exchange).fault? ≠ some (.conflict test n))
    (a : Action) (config : Config) {t : Test} {namespaceName : String}
    (hn : t.metadata.namespaceName = some namespaceName) (s : σ) :
    ∃ rounds, Attempts a config namespaceName t rounds
      ((a.runOn config t).run.exchanges world s) ((a.runOn config t).run.run world s).1 := by
  refine attempts_of_ends hn (fun e he test n => ?_) (Program.ends_exchanges world _ s)
  obtain ⟨s', h⟩ := Program.mem_exchanges he
  rw [h]
  exact hw _ s' test n

end Action

/-- A Test that is to be initiated. -/
def Test.contested : Test :=
  { metadata := { name := some "hello", namespaceName := some "default" }
    spec := { source := { name := "hello.feature" } } }

/-- A world in which another writer always was there first, and the Test is as it was before. -/
def contention : (q : Query) → Unit → q.Answer × Unit
  | .freshId, s => ("1", s)
  | .clock, s => (default, s)
  | .getTest _ _, s => (.ok (some Test.contested), s)
  | .writeStatus _, s => (.error Store.modified, s)
  | .getPod _ _, s => (.ok none, s)
  | .apply _, s => (.ok (), s)

/-- All three attempts of an action are used up there. -/
theorem Action.contention_outcome :
    (∀ q s test n, (⟨q, (contention q s).1⟩ : Exchange).fault? ≠ some (.conflict test n)) ∧
    Test.contested.metadata.namespaceName = some "default" ∧
    ∃ rounds, rounds.length = 3 ∧
      Attempts .initiate {} "default" Test.contested rounds
        ((Action.initiate.runOn {} Test.contested).run.exchanges contention ())
        (.error (.conflict "hello" 3)) := by
  have hw : ∀ q s test n,
      (⟨q, (contention q s).1⟩ : Exchange).fault? ≠ some (.conflict test n) := by
    intro q s test n h
    cases q <;> simp [contention, Exchange.fault?, Fault.of?, Store.modified] at h
  obtain ⟨rounds, h⟩ :=
    Action.outcome_of_attempts contention hw .initiate {} (t := Test.contested) rfl ()
  have ho : ((Action.initiate.runOn {} Test.contested).run.run contention ()).1 =
      .error (.conflict "hello" 3) := rfl
  rw [ho] at h
  exact ⟨hw, rfl, rounds, (h.spent.1 rfl).1, h⟩

end Proctor
