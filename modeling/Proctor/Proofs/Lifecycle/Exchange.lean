import Proctor.Lifecycle.Program

/-!
# Exchanges

A program that is run asks one question after the other, and whoever runs it may do other things in
between. What is left of it then depends only on the questions and their answers so far. This module
gives that account of a program: `Walk p es r` says that after the exchanges `es` the program `p`
has become `r`. A walk through one program after the other is a walk through the first and then
through the second (`walk_bind_iff`), and a program that asks only questions of some kind does so
on every walk (`AsksOnly`).
-/

namespace Proctor

variable {α β : Type}

/-- A question with its answer. -/
structure Exchange where
  /-- The question. -/
  query : Query
  /-- The answer. -/
  answer : query.Answer

namespace Program

@[simp] theorem pure_eq_done (a : α) : (pure a : Program α) = done a := rfl

theorem bind_done_eq (p : Program α) : (p.bind fun a => done a) = p := by
  induction p with
  | done a => rfl
  | ask q next ih => exact congrArg _ (funext ih)

/-! ### Walks -/

/-- What a program has become after some exchanges. -/
inductive Walk : Program α → List Exchange → Program α → Prop where
  /-- Nothing was asked yet. -/
  | nil (p : Program α) : Walk p [] p
  /-- The first question was answered. -/
  | cons {q : Query} {next : q.Answer → Program α} {x : q.Answer} {es : List Exchange}
      {r : Program α} : Walk (next x) es r → Walk (.ask q next) (⟨q, x⟩ :: es) r

/-- The exchanges after which a program is done, with its result. -/
abbrev Ends (p : Program α) (es : List Exchange) (a : α) : Prop := p.Walk es (.done a)

@[simp] theorem walk_nil_iff {p r : Program α} : p.Walk [] r ↔ r = p := by
  constructor
  · intro h
    cases h
    rfl
  · rintro rfl
    exact .nil r

@[simp] theorem walk_done_iff {a : α} {es : List Exchange} {r : Program α} :
    (done a).Walk es r ↔ es = [] ∧ r = done a := by
  constructor
  · intro h
    cases h
    exact ⟨rfl, rfl⟩
  · rintro ⟨rfl, rfl⟩
    exact .nil _

theorem walk_ask_cons_iff {q : Query} {next : q.Answer → Program α} {e : Exchange}
    {es : List Exchange} {r : Program α} :
    (ask q next).Walk (e :: es) r ↔ ∃ x, e = ⟨q, x⟩ ∧ (next x).Walk es r := by
  constructor
  · intro h
    cases h with
    | cons h => exact ⟨_, rfl, h⟩
  · rintro ⟨x, rfl, h⟩
    exact .cons h

theorem walk_ask_iff {q : Query} {next : q.Answer → Program α} {es : List Exchange}
    {r : Program α} :
    (ask q next).Walk es r ↔
      es = [] ∧ r = ask q next ∨ ∃ x es', es = ⟨q, x⟩ :: es' ∧ (next x).Walk es' r := by
  cases es with
  | nil => simp
  | cons e es =>
    rw [walk_ask_cons_iff]
    constructor
    · rintro ⟨x, rfl, h⟩
      exact Or.inr ⟨x, es, rfl, h⟩
    · rintro (⟨h, -⟩ | ⟨x, es', h, hw⟩)
      · cases h
      · obtain ⟨rfl, rfl⟩ := List.cons.inj h
        exact ⟨x, rfl, hw⟩

theorem ends_ask_iff {q : Query} {next : q.Answer → Program α} {es : List Exchange} {a : α} :
    (ask q next).Ends es a ↔ ∃ x es', es = ⟨q, x⟩ :: es' ∧ (next x).Ends es' a := by
  rw [Ends, walk_ask_iff]
  simp

/-- A program that asks one question. -/
theorem ends_ask_done_iff {q : Query} {f : q.Answer → α} {es : List Exchange} {a : α} :
    (ask q fun x => done (f x)).Ends es a ↔ ∃ x, es = [⟨q, x⟩] ∧ f x = a := by
  rw [ends_ask_iff]
  constructor
  · rintro ⟨x, es', rfl, h⟩
    obtain ⟨rfl, ha⟩ := walk_done_iff.1 h
    cases ha
    exact ⟨x, rfl, rfl⟩
  · rintro ⟨x, rfl, rfl⟩
    exact ⟨x, [], rfl, .nil _⟩

theorem Walk.append {p q r : Program α} {es fs : List Exchange} (h : p.Walk es q)
    (h' : q.Walk fs r) : p.Walk (es ++ fs) r := by
  induction h with
  | nil => exact h'
  | cons _ ih => exact .cons (ih h')

/-- One more answer. -/
theorem Walk.snoc {p : Program α} {es : List Exchange} {q : Query} {next : q.Answer → Program α}
    (h : p.Walk es (ask q next)) (x : q.Answer) : p.Walk (es ++ [⟨q, x⟩]) (next x) :=
  h.append (.cons (.nil _))

/-- Before an exchange its question was open, and after it the program went on with the answer. -/
theorem walk_append_cons_iff {p r : Program α} {es fs : List Exchange} {e : Exchange} :
    p.Walk (es ++ e :: fs) r ↔
      ∃ next, p.Walk es (ask e.query next) ∧ (next e.answer).Walk fs r := by
  constructor
  · intro h
    induction es generalizing p with
    | nil =>
      cases h with
      | cons h => exact ⟨_, .nil _, h⟩
    | cons e' es ih =>
      cases h with
      | cons h =>
        obtain ⟨next, hw, hr⟩ := ih h
        exact ⟨next, .cons hw, hr⟩
  · rintro ⟨next, hw, hr⟩
    exact hw.append (.cons hr)

/-- A walk through one program and then another stands in the first or in the second. -/
theorem walk_bind_iff {p : Program α} {f : α → Program β} {es : List Exchange} {r : Program β} :
    (p.bind f).Walk es r ↔
      (∃ p', p.Walk es p' ∧ r = p'.bind f) ∨
        ∃ es₁ es₂ a, es = es₁ ++ es₂ ∧ p.Ends es₁ a ∧ (f a).Walk es₂ r := by
  constructor
  · intro h
    induction p generalizing es with
    | done a => exact Or.inr ⟨[], es, a, rfl, .nil _, h⟩
    | ask q next ih =>
      rw [bind_ask, walk_ask_iff] at h
      rcases h with ⟨rfl, rfl⟩ | ⟨x, es, rfl, h⟩
      · exact Or.inl ⟨_, .nil _, rfl⟩
      · rcases ih x h with ⟨p', hp, rfl⟩ | ⟨es₁, es₂, a, rfl, hp, hf⟩
        · exact Or.inl ⟨p', .cons hp, rfl⟩
        · exact Or.inr ⟨_ :: es₁, es₂, a, rfl, .cons hp, hf⟩
  · rintro (⟨p', hp, rfl⟩ | ⟨es₁, es₂, a, rfl, hp, hf⟩)
    · induction hp with
      | nil => exact .nil _
      | cons _ ih => exact .cons ih
    · induction es₁ generalizing p with
      | nil =>
        rw [Ends, walk_nil_iff] at hp
        exact hp ▸ hf
      | cons e es₁ ih =>
        cases p with
        | done b => simp at hp
        | ask q next =>
          obtain ⟨x, rfl, hn⟩ := walk_ask_cons_iff.1 hp
          exact .cons (ih hn)

theorem ends_bind_iff {p : Program α} {f : α → Program β} {es : List Exchange} {b : β} :
    (p.bind f).Ends es b ↔
      ∃ es₁ es₂ a, es = es₁ ++ es₂ ∧ p.Ends es₁ a ∧ (f a).Ends es₂ b := by
  rw [Ends, walk_bind_iff]
  constructor
  · rintro (⟨p', hp, hr⟩ | h)
    · cases p' with
      | done a => exact ⟨es, [], a, (List.append_nil es).symm, hp, walk_nil_iff.2 hr⟩
      | ask q next => cases hr
    · exact h
  · exact Or.inr

/-- What follows a program asks nothing, so an open question is the program's own. -/
theorem walk_bind_done_ask {p : Program α} {f : α → β} {es : List Exchange} {q : Query}
    {next : q.Answer → Program β} (h : (p.bind fun a => done (f a)).Walk es (ask q next)) :
    ∃ next', p.Walk es (ask q next') ∧ next = fun x => (next' x).bind fun a => done (f a) := by
  rcases walk_bind_iff.1 h with ⟨p', hp, hr⟩ | ⟨es₁, es₂, a, rfl, hp, hf⟩
  · cases p' with
    | done a => cases hr
    | ask q' next' =>
      cases hr
      exact ⟨next', hp, rfl⟩
  · simp at hf

/-! ### Runs in a world -/

/-- The questions of a program that is run in a world, with the answers of the world. -/
def exchanges {σ : Type} (world : (q : Query) → σ → q.Answer × σ) : Program α → σ → List Exchange
  | .done _, _ => []
  | .ask q next, s => ⟨q, (world q s).1⟩ :: (next (world q s).1).exchanges world (world q s).2

/-- Whatever the world answers, the program is done in the end. -/
theorem ends_exchanges {σ : Type} (world : (q : Query) → σ → q.Answer × σ) (p : Program α)
    (s : σ) : p.Ends (p.exchanges world s) (p.run world s).1 := by
  induction p generalizing s with
  | done a => exact .nil _
  | ask q next ih => exact .cons (ih _ _)

/-- Each exchange of a run is a question with the world's answer to it. -/
theorem mem_exchanges {σ : Type} {world : (q : Query) → σ → q.Answer × σ} {p : Program α} {s : σ}
    {e : Exchange} (h : e ∈ p.exchanges world s) : ∃ s', e = ⟨e.query, (world e.query s').1⟩ := by
  induction p generalizing s with
  | done a => simp [exchanges] at h
  | ask q next ih =>
    rcases List.mem_cons.1 h with rfl | h
    · exact ⟨s, rfl⟩
    · exact ih _ h

/-! ### Programs that ask only some questions -/

/-- Whatever is answered, the program asks only questions of this kind. -/
def AsksOnly (kind : Query → Prop) : Program α → Prop
  | .done _ => True
  | .ask q next => kind q ∧ ∀ x, (next x).AsksOnly kind

@[simp] theorem asksOnly_done (kind : Query → Prop) (a : α) : (done a).AsksOnly kind := trivial

theorem AsksOnly.bind {kind : Query → Prop} {p : Program α} {f : α → Program β}
    (h : p.AsksOnly kind) (hf : ∀ a, (f a).AsksOnly kind) : (p.bind f).AsksOnly kind := by
  induction p with
  | done a => exact hf a
  | ask q next ih => exact ⟨h.1, fun x => ih x (h.2 x)⟩

theorem AsksOnly.mono {kind kind' : Query → Prop} {p : Program α} (h : p.AsksOnly kind)
    (hk : ∀ q, kind q → kind' q) : p.AsksOnly kind' := by
  induction p with
  | done a => trivial
  | ask q next ih => exact ⟨hk q h.1, fun x => ih x (h.2 x)⟩

theorem AsksOnly.walk {kind : Query → Prop} {p r : Program α} {es : List Exchange}
    (h : p.AsksOnly kind) (hw : p.Walk es r) : r.AsksOnly kind := by
  induction hw with
  | nil => exact h
  | cons _ ih => exact ih (h.2 _)

/-- What is asked on a walk is of the kind that the program asks. -/
theorem AsksOnly.of_mem {kind : Query → Prop} {p r : Program α} {es : List Exchange}
    (h : p.AsksOnly kind) (hw : p.Walk es r) : ∀ e ∈ es, kind e.query := by
  induction hw with
  | nil => simp
  | cons _ ih =>
    intro e he
    rcases List.mem_cons.1 he with rfl | he
    · exact h.1
    · exact ih (h.2 _) e he

end Program

/-! ### Steps, which may end with a fault -/

namespace Step

/-- How a step goes on after another one: a fault ends both. -/
def andThen (f : α → Step β) : Except Fault α → Program (Except Fault β)
  | .ok a => (f a).run
  | .error e => .done (.error e)

theorem run_bind (x : Step α) (f : α → Step β) : (x >>= f).run = x.run.bind (andThen f) := by
  show Program.bind x.run (ExceptT.bindCont f) = _
  congr 1
  funext r
  cases r <;> rfl

@[simp] theorem run_lift (r : Except Fault α) : (Step.lift r).run = .done r := rfl

theorem run_freshId : freshId.run = .ask .freshId fun id => .done (.ok id) := rfl

theorem run_clock : clock.run = .ask .clock fun now => .done (.ok now) := rfl

theorem run_getTest (namespaceName name : String) :
    (getTest namespaceName name).run = .ask (.getTest namespaceName name) .done := rfl

theorem run_writeStatus (t : Test) :
    (writeStatus t).run = .ask (.writeStatus t) fun r => .done (.ok r) := rfl

theorem run_getPod (namespaceName name : String) :
    (getPod namespaceName name).run = .ask (.getPod namespaceName name) .done := rfl

theorem run_apply (m : Manifest) : (apply m).run = .ask (.apply m) .done := rfl

theorem run_map (g : α → β) (x : Step α) :
    (g <$> x).run = x.run.bind fun r => .done (r.map g) := by
  show Program.bind x.run _ = _
  congr 1
  funext r
  cases r <;> rfl

/-- A step that ends well consists of two that do. -/
theorem ends_bind_ok_iff {x : Step α} {f : α → Step β} {es : List Exchange} {b : β} :
    (x >>= f).run.Ends es (.ok b) ↔
      ∃ es₁ es₂ a, es = es₁ ++ es₂ ∧ x.run.Ends es₁ (.ok a) ∧ (f a).run.Ends es₂ (.ok b) := by
  rw [run_bind, Program.ends_bind_iff]
  constructor
  · rintro ⟨es₁, es₂, r, rfl, hx, hf⟩
    cases r with
    | ok a => exact ⟨es₁, es₂, a, rfl, hx, hf⟩
    | error e => simp [andThen] at hf
  · rintro ⟨es₁, es₂, a, rfl, hx, hf⟩
    exact ⟨es₁, es₂, .ok a, rfl, hx, hf⟩

theorem ends_map_ok_iff {x : Step α} {g : α → β} {es : List Exchange} {b : β} :
    (g <$> x).run.Ends es (.ok b) ↔ ∃ a, x.run.Ends es (.ok a) ∧ g a = b := by
  rw [run_map, Program.ends_bind_iff]
  constructor
  · rintro ⟨es₁, es₂, r, rfl, hx, hr⟩
    cases r with
    | ok a =>
      obtain ⟨rfl, hb⟩ := Program.walk_done_iff.1 hr
      exact ⟨a, by rwa [List.append_nil], by simpa [Except.map] using hb.symm⟩
    | error e => simp [Except.map] at hr
  · rintro ⟨a, hx, rfl⟩
    exact ⟨es, [], .ok a, (List.append_nil es).symm, hx, .nil _⟩

end Step

end Proctor
