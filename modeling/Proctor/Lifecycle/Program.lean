import Proctor.Cluster.Objects
import Proctor.Fault

/-!
# Programs that ask

What the controller does to a Test is a tree of questions: a program is done, or it asks something
of the world and goes on with the answer. Who answers is decided when the program is run, so that
the same program runs against the API server and against a rehearsal, and so that a theorem can
quantify over all answers.
-/

namespace Proctor

/-- Something asked of the world. -/
inductive Query where
  /-- An id that was never given before. -/
  | freshId
  /-- The time. -/
  | clock
  /-- The Test of that name, if there is one. -/
  | getTest (namespaceName name : String)
  /-- The status of a Test to be written under the version that the Test carries. -/
  | writeStatus (t : Test)
  /-- The Pod of that name, if there is one. -/
  | getPod (namespaceName name : String)
  /-- An object to be made or brought to what is given. -/
  | apply (m : Manifest)

/-- What the world answers. -/
abbrev Query.Answer : Query → Type
  | .freshId => String
  | .clock => Instant
  | .getTest _ _ => Except Fault (Option Test)
  | .writeStatus _ => Except Fault Test
  | .getPod _ _ => Except Fault (Option Pod)
  | .apply _ => Except Fault Unit

/-- A tree of questions with results at its leaves. -/
inductive Program (α : Type) where
  /-- Nothing is left to ask. -/
  | done (a : α)
  /-- A question, and how to go on with its answer. -/
  | ask (q : Query) (next : q.Answer → Program α)

namespace Program

variable {α β γ σ : Type}

/-- One program after another. -/
def bind : Program α → (α → Program β) → Program β
  | .done a, f => f a
  | .ask q next, f => .ask q fun x => (next x).bind f

instance : Monad Program where
  pure := .done
  bind := bind

/-- A program that asks one question. -/
def once (q : Query) : Program q.Answer := .ask q .done

/-- The result of a program and the state of the world after it, for a world that answers each
question and changes with it. -/
def run (world : (q : Query) → σ → q.Answer × σ) : Program α → σ → α × σ
  | .done a, s => (a, s)
  | .ask q next, s =>
    let r := world q s
    (next r.1).run world r.2

@[simp] theorem bind_done (a : α) (f : α → Program β) : (done a).bind f = f a := rfl

@[simp] theorem bind_ask (q : Query) (next : q.Answer → Program α) (f : α → Program β) :
    (ask q next).bind f = ask q fun x => (next x).bind f := rfl

theorem bind_assoc (p : Program α) (f : α → Program β) (g : β → Program γ) :
    (p.bind f).bind g = p.bind fun a => (f a).bind g := by
  induction p with
  | done a => rfl
  | ask q next ih => simp [ih]

theorem run_bind (world : (q : Query) → σ → q.Answer × σ) (p : Program α) (f : α → Program β)
    (s : σ) :
    (p.bind f).run world s = (f (p.run world s).1).run world (p.run world s).2 := by
  induction p generalizing s with
  | done a => rfl
  | ask q next ih => simp [run, ih]

end Program

/-- A program that may end with a fault. -/
abbrev Step := ExceptT Fault Program

namespace Step

/-- An id that was never given before. -/
def freshId : Step String := ExceptT.lift (Program.once .freshId)

/-- The time. -/
def clock : Step Instant := ExceptT.lift (Program.once .clock)

/-- The Test of that name, if there is one. -/
def getTest (namespaceName name : String) : Step (Option Test) :=
  ExceptT.mk (Program.once (.getTest namespaceName name))

/-- How the writing of a status went; a refused write is no fault of the step. -/
def writeStatus (t : Test) : Step (Except Fault Test) :=
  ExceptT.lift (Program.once (.writeStatus t))

/-- The Pod of that name, if there is one. -/
def getPod (namespaceName name : String) : Step (Option Pod) :=
  ExceptT.mk (Program.once (.getPod namespaceName name))

/-- An object is made or brought to what is given. -/
def apply (m : Manifest) : Step Unit := ExceptT.mk (Program.once (.apply m))

/-- A value that is at hand, or its fault. -/
def lift {α : Type} (r : Except Fault α) : Step α := ExceptT.mk (.done r)

end Step

end Proctor
