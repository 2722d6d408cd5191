import Proctor.Proofs.Cluster.Versions
import Proctor.Proofs.Lifecycle.Rounds
import Proctor.Rehearsal.World

/-!
# Controllers beside each other

Any number of controllers work on one store. Each has a job, which is a program, and the store
answers one question of one of them at a time; between two questions others may edit what is stored,
and further controllers may set out with any copy of a Test that the store ever held. So a list of
moves is one interleaving, and what is proved about all lists of moves holds for all of them. Beside
the store a system keeps what was ever stored, and every write that the store accepted with what it
was written over.

## What is left out

A fault keeps a question from the store (`Fate.call`). That the store acts on a question and the
answer is lost on the way is no move of its own, and needs to be none for what is stored. A lost
answer is no conflict, so a controller that misses one is done. It is done as well when the answer
comes and tells that a write was accepted (`Task.rest_hear_accepted`), or when it tells that an
object was applied and the next call fails. So the store has the same history in either case. What
differs is what the controller makes of it: of a write whose answer is lost it tells nothing. Lost
answers are told of where a start is repeated until it succeeds (`Visit.acted`).

Why a controller sets out is not asked: there is no queue and no watch, as a job may be launched at
any moment. Nor is there time, or a promise that a question is ever answered; a controller that was
stopped is one that hears nothing more. What the cluster does by itself beyond its news of Pods,
such as to delete the objects of a Test that is gone, is none of the edits.
-/

namespace Proctor

/-! ### How the store answers -/

/-- What befalls a question: the id and the time that it is told, and the fault that keeps it from
the store. -/
structure Fate where
  /-- The id. -/
  id : String
  /-- The time. -/
  now : Instant
  /-- The fault. -/
  fault : Option Fault := none

/-- A call on a store, if no fault keeps it from there. One that fails has not reached the store. -/
def Fate.call {α : Type} (f : Fate) (s : Store) (r : Except Fault α × Store) :
    Except Fault α × Store :=
  match f.fault with
  | some e => (.error e, s)
  | none => r

theorem Fate.call_eq_or {α : Type} (f : Fate) (s : Store) (r : Except Fault α × Store) :
    (∃ e, f.call s r = (.error e, s)) ∨ f.call s r = r := by
  rw [call]
  cases f.fault with
  | some e => exact Or.inl ⟨e, rfl⟩
  | none => exact Or.inr rfl

theorem Fate.call_of_fault_eq_none {α : Type} {f : Fate} (h : f.fault = none) (s : Store)
    (r : Except Fault α × Store) : f.call s r = r := by
  rw [call, h]

/-- The answer to a question, and the store after it. -/
def Store.answer (s : Store) (f : Fate) : (q : Query) → q.Answer × Store
  | .freshId => (f.id, s)
  | .clock => (f.now, s)
  | .getTest namespaceName name => f.call s (.ok (s.tests.get? ⟨namespaceName, name⟩), s)
  | .writeStatus t => f.call s (s.writeStatus t)
  | .getPod namespaceName name => f.call s (.ok (s.pods.get? ⟨namespaceName, name⟩), s)
  | .apply m => f.call s (.ok (), s.apply m)

theorem Rehearsal.World.perform_eq {α : Type} (w : World) (call : Call) (place : Place)
    (act : Store → Except Fault α × Store) :
    ∃ (edits : List Edit) (f : Fate),
      ((w.perform call place act).1, (w.perform call place act).2.store) =
        f.call (edits.foldl Edit.after w.store) (act (edits.foldl Edit.after w.store)) := by
  rw [perform]
  obtain ⟨⟨before, fault⟩, rest⟩ := nextDisturbance call w.disturbances
  refine ⟨before, ⟨"", w.now, fault⟩, ?_⟩
  cases fault <;> rfl

/-- A world of a rehearsal answers as its store does after some edits. -/
theorem Rehearsal.World.answer_eq (w : World) (q : Query) :
    ∃ (edits : List Edit) (f : Fate),
      ((w.answer q).1, (w.answer q).2.store) = (edits.foldl Edit.after w.store).answer f q := by
  cases q with
  | freshId => exact ⟨[], ⟨w.idText (w.ids + 1), w.now, none⟩, rfl⟩
  | clock => exact ⟨[], ⟨"", w.now, none⟩, rfl⟩
  | getTest namespaceName name =>
    exact w.perform_eq .getTest ⟨namespaceName, name⟩
      fun s => (.ok (s.tests.get? ⟨namespaceName, name⟩), s)
  | writeStatus t =>
    exact w.perform_eq .writeStatus t.home (·.writeStatus t)
  | getPod namespaceName name =>
    exact w.perform_eq .getPod ⟨namespaceName, name⟩
      fun s => (.ok (s.pods.get? ⟨namespaceName, name⟩), s)
  | apply m => exact w.perform_eq (.ofManifest m) m.metadata.place fun s => (.ok (), s.apply m)

/-- What the store has accepted, if this was a write that it accepted: the copy that was written and
the Test that was stored. -/
def Exchange.accepted? : Exchange → Option (Test × Test)
  | ⟨.writeStatus copy, .ok after⟩ => some (copy, after)
  | _ => none

namespace Store

variable {s : Store} {f : Fate} {q : Query}

/-- A Test that was read is stored. -/
theorem get?_of_answer_getTest {namespaceName name : String} {t : Test}
    (h : (⟨q, (s.answer f q).1⟩ : Exchange) = ⟨.getTest namespaceName name, .ok (some t)⟩) :
    s.tests.get? ⟨namespaceName, name⟩ = some t := by
  cases q with
  | getTest n m =>
    rcases f.call_eq_or s (.ok (s.tests.get? ⟨n, m⟩), s) with ⟨e, he⟩ | he
    · simp [answer, he] at h
    · simp only [answer, he, Exchange.mk.injEq, Query.getTest.injEq] at h
      obtain ⟨⟨rfl, rfl⟩, h⟩ := h
      simpa using h
  | freshId | clock | writeStatus _ | getPod _ _ | apply _ => simp at h

@[simp] theorem tests_apply (s : Store) (m : Manifest) : (s.apply m).tests = s.tests := by
  cases m <;> rfl

@[simp] theorem versions_apply (s : Store) (m : Manifest) : (s.apply m).versions = s.versions := by
  cases m <;> rfl

/-- The Tests of a store change only with a write that it accepts, and then by that write. -/
theorem answer_cases (s : Store) (f : Fate) (q : Query) :
    (⟨q, (s.answer f q).1⟩ : Exchange).accepted? = none ∧ (s.answer f q).2.tests = s.tests ∧
      (s.answer f q).2.versions = s.versions ∨
    ∃ copy old,
      (⟨q, (s.answer f q).1⟩ : Exchange) = ⟨.writeStatus copy, .ok (s.overwritten old copy)⟩ ∧
      s.tests.get? copy.home = some old ∧ old.version? = copy.version? ∧
      (s.answer f q).2 = (s.putTest copy.home { old with status := copy.status }).1 := by
  cases q with
  | freshId | clock => exact Or.inl ⟨rfl, rfl, rfl⟩
  | getTest n m =>
    rcases f.call_eq_or s (.ok (s.tests.get? ⟨n, m⟩), s) with ⟨e, he⟩ | he <;>
      exact Or.inl ⟨rfl, by simp [answer, he], by simp [answer, he]⟩
  | getPod n m =>
    rcases f.call_eq_or s (.ok (s.pods.get? ⟨n, m⟩), s) with ⟨e, he⟩ | he <;>
      exact Or.inl ⟨rfl, by simp [answer, he], by simp [answer, he]⟩
  | apply m =>
    rcases f.call_eq_or s (.ok (), s.apply m) with ⟨e, he⟩ | he <;>
      exact Or.inl ⟨rfl, by simp [answer, he], by simp [answer, he]⟩
  | writeStatus u =>
    have refused : ∀ {e : Fault}, s.answer f (.writeStatus u) = (.error e, s) →
        (⟨.writeStatus u, (s.answer f (.writeStatus u)).1⟩ : Exchange).accepted? = none ∧
          (s.answer f (.writeStatus u)).2.tests = s.tests ∧
          (s.answer f (.writeStatus u)).2.versions = s.versions := by
      intro e he
      simp [he, Exchange.accepted?]
    rcases f.call_eq_or s (s.writeStatus u) with ⟨e, he⟩ | he
    · exact Or.inl (refused he)
    · rcases s.writeStatus_cases u with ⟨old, hg, hv, hw⟩ | ⟨old, -, -, hw⟩ | ⟨-, hw⟩
      · have ha := (show s.answer f (.writeStatus u) = _ from he).trans hw
        exact Or.inr ⟨u, old, by rw [ha], hg, hv, by rw [ha]⟩
      · exact Or.inl (refused (he.trans hw))
      · exact Or.inl (refused (he.trans hw))

end Store

/-! ### Jobs -/

/-- What a controller may be set to do with a copy of a Test. -/
inductive Job where
  /-- To reconcile the Test. -/
  | reconcile (config : Config) (observed : Test)
  /-- To run one action, whatever phase the Test stands in. -/
  | act (a : Action) (config : Config) (observed : Test)

namespace Job

/-- The settings of the controller. -/
def config : Job → Config
  | .reconcile config _ | .act _ config _ => config

/-- The copy that the controller set out with. -/
def observed : Job → Test
  | .reconcile _ observed | .act _ _ observed => observed

/-- The action that is run. -/
def action : Job → Action
  | .reconcile _ observed => .ofPhase observed.phase
  | .act a _ _ => a

/-- What comes of a job. -/
abbrev Result : Job → Type
  | .reconcile _ _ => Reconciliation
  | .act _ _ _ => Except Fault (Option Test)

/-- The program of a job. -/
def program : (j : Job) → Program j.Result
  | .reconcile config observed => observed.reconcile config
  | .act a config observed => (a.runOn config observed).run

/-- What comes of a job, if the run of its action went like that. -/
def result : (j : Job) → Except Fault (Option Test) → j.Result
  | .reconcile _ observed => .ofOutcome observed.phase (.ofPhase observed.phase)
  | .act _ _ _ => id

/-- A job is a run of its action. -/
theorem program_eq (j : Job) : j.program =
    (j.action.runOn j.config j.observed).run.bind fun r => .done (j.result r) := by
  cases j with
  | reconcile config observed => exact observed.reconcile_eq config
  | act a config observed => exact (Program.bind_done_eq _).symm

/-- What a controller asks is asked by the run of its action. -/
theorem walk_ask {j : Job} {es : List Exchange} {q : Query} {next : q.Answer → Program j.Result}
    (h : j.program.Walk es (.ask q next)) :
    ∃ next', (j.action.runOn j.config j.observed).run.Walk es (.ask q next') ∧
      next = fun x => (next' x).bind fun r => .done (j.result r) :=
  Program.walk_bind_done_ask (j.program_eq ▸ h)

/-- What a controller writes comes from one run of its action on the copy of the last round. If the
write is accepted, the job is done, and what comes of it is told by the Test that was stored. -/
theorem walk_write {j : Job} {es : List Exchange} {u : Test}
    {next : Except Fault Test → Program j.Result}
    (h : j.program.Walk es (.ask (.writeStatus u) next)) :
    (∀ p, next (.ok p) = .done (j.result (.ok (some p)))) ∧
    ∃ namespaceName k earlier round t,
      j.observed.metadata.namespaceName = some namespaceName ∧ k < j.config.attempts ∧
      es = earlier ++ round ∧
      j.action.Retries j.config namespaceName j.observed.nameAny j.observed.phase k j.observed
        earlier t ∧
      Computes j.config t j.action round u := by
  obtain ⟨next', h', rfl⟩ := walk_ask h
  obtain ⟨hd, hw⟩ := Action.runOn_walk_write h'
  exact ⟨fun p => by simp only [hd, Program.bind_done], hw⟩

/-- An object that a controller is about to apply is one of the workload of the copy of the last
round. -/
theorem walk_manifest {j : Job} {es : List Exchange} {m : Manifest}
    {next : Except Fault Unit → Program j.Result}
    (h : j.program.Walk es (.ask (.apply m) next)) :
    ∃ namespaceName k earlier round t,
      j.observed.metadata.namespaceName = some namespaceName ∧ es = earlier ++ round ∧
      j.action.Retries j.config namespaceName j.observed.nameAny j.observed.phase k j.observed
        earlier t ∧
      j.action.Asks j.config t (.apply m) := by
  obtain ⟨next', h', -⟩ := walk_ask h
  exact Action.runOn_walk_manifest h'

/-- Only the start applies objects. -/
theorem walk_apply {j : Job} {es : List Exchange} {m : Manifest}
    {next : Except Fault Unit → Program j.Result}
    (h : j.program.Walk es (.ask (.apply m) next)) : j.action = .start := by
  obtain ⟨-, -, -, -, -, -, -, -, ha, -⟩ := walk_manifest h
  exact ha

end Job

/-! ### Systems -/

/-- A controller at work. -/
structure Task where
  /-- Its job. -/
  job : Job
  /-- What it has asked and heard. -/
  heard : List Exchange
  /-- What is left to do. -/
  rest : Program job.Result
  /-- What is left follows from what was heard. -/
  walk : job.program.Walk heard rest

namespace Task

/-- A controller that sets out. -/
def begin (j : Job) : Task := ⟨j, [], j.program, .nil _⟩

/-- A controller hears an answer. -/
def hear (t : Task) {q : Query} {next : q.Answer → Program t.job.Result}
    (h : t.rest = .ask q next) (x : q.Answer) : Task :=
  ⟨t.job, t.heard ++ [⟨q, x⟩], next x, (h ▸ t.walk).snoc x⟩

/-- A controller whose write was accepted is done. -/
theorem rest_hear_accepted {t : Task} {q : Query} {next : q.Answer → Program t.job.Result}
    (h : t.rest = .ask q next) {x : q.Answer} {copy stored : Test}
    (hx : (⟨q, x⟩ : Exchange) = ⟨.writeStatus copy, .ok stored⟩) :
    (t.hear h x).rest = .done (t.job.result (.ok (some stored))) := by
  obtain rfl : q = .writeStatus copy := congrArg Exchange.query hx
  obtain rfl : x = .ok stored := by simpa using hx
  exact (Job.walk_write (h ▸ t.walk)).1 stored

end Task

/-- A write that the store accepted. -/
structure Write where
  /-- The job of the controller that wrote. -/
  job : Job
  /-- What the controller had asked and heard before. -/
  heard : List Exchange
  /-- The Test that was stored until then. -/
  before : Test
  /-- The copy that was written. -/
  copy : Test
  /-- The Test that was stored then. -/
  after : Test

/-- Controllers, the store that they work on, and what has happened. -/
structure System where
  /-- The store. -/
  store : Store := {}
  /-- Every Test that was ever stored. -/
  past : List Test := []
  /-- The controllers. -/
  tasks : List Task := []
  /-- The writes that were accepted, last first. -/
  writes : List Write := []

/-- What may happen next. -/
inductive Move where
  /-- Someone else edits what is stored. -/
  | edit (e : Rehearsal.Edit)
  /-- A controller sets out. -/
  | launch (j : Job)
  /-- The question of one of the controllers is answered. -/
  | answer (i : Nat) (f : Fate)

namespace System

/-- The write of a controller, if the store has accepted one. -/
def write? (s : System) (t : Task) (e : Exchange) : Option Write := do
  let (copy, after) ← e.accepted?
  let before ← s.store.tests.get? copy.home
  some { job := t.job, heard := t.heard, before, copy, after }

/-- The store has become another one. -/
def keep (s : System) (store : Store) : System :=
  { s with store, past := store.tests.entries.map Prod.snd ++ s.past }

/-- The question of a controller is answered. -/
def hear (s : System) (i : Nat) (t : Task) {q : Query} {next : q.Answer → Program t.job.Result}
    (h : t.rest = .ask q next) (f : Fate) : System :=
  let (x, store) := s.store.answer f q
  { s.keep store with
    tasks := s.tasks.set i (t.hear h x)
    writes := (s.write? t ⟨q, x⟩).toList ++ s.writes }

/-- The question of the controller of that number is answered, if it has one. -/
def answer (s : System) (i : Nat) (f : Fate) : System :=
  match s.tasks[i]? with
  | none => s
  | some t =>
    match h : t.rest with
    | .done _ => s
    | .ask _ _ => s.hear i t h f

/-- The system after a move. -/
def step (s : System) : Move → System
  | .edit e => s.keep (e.after s.store)
  | .launch j => { s with tasks := s.tasks ++ [.begin j] }
  | .answer i f => s.answer i f

/-- The systems that moves of some kind lead to from the empty one. -/
inductive Reaches (allowed : System → Move → Prop) : System → Prop where
  /-- Nothing has happened yet. -/
  | empty : Reaches allowed {}
  /-- One more move. -/
  | step {s : System} {m : Move} (h : Reaches allowed s) (hm : allowed s m) :
    Reaches allowed (s.step m)

/-- The system after some moves. -/
def run (s : System) (ms : List Move) : System := ms.foldl step s

/-- Each of some moves is allowed when its turn comes. -/
def AllAllowed (allowed : System → Move → Prop) : System → List Move → Prop
  | _, [] => True
  | s, m :: ms => allowed s m ∧ AllAllowed allowed (s.step m) ms

theorem run_append (s : System) (ms ms' : List Move) : s.run (ms ++ ms') = (s.run ms).run ms' :=
  List.foldl_append

theorem AllAllowed.append {allowed : System → Move → Prop} {s : System} {ms ms' : List Move}
    (h : AllAllowed allowed s ms) (h' : AllAllowed allowed (s.run ms) ms') :
    AllAllowed allowed s (ms ++ ms') := by
  induction ms generalizing s with
  | nil => exact h'
  | cons m ms ih => exact ⟨h.1, ih h.2 h'⟩

theorem AllAllowed.replicate {allowed : System → Move → Prop} {m : Move} (hm : ∀ s, allowed s m)
    (n : Nat) (s : System) : AllAllowed allowed s (List.replicate n m) := by
  induction n generalizing s with
  | zero => trivial
  | succ n ih => exact ⟨hm s, ih _⟩

theorem AllAllowed.mono {allowed allowed' : System → Move → Prop}
    (ha : ∀ s m, allowed s m → allowed' s m) {s : System} {ms : List Move}
    (h : AllAllowed allowed s ms) : AllAllowed allowed' s ms := by
  induction ms generalizing s with
  | nil => trivial
  | cons m ms ih => exact ⟨ha s m h.1, ih h.2⟩

theorem Reaches.run {allowed : System → Move → Prop} {s : System} {ms : List Move}
    (h : Reaches allowed s) (hm : AllAllowed allowed s ms) : Reaches allowed (s.run ms) := by
  induction ms generalizing s with
  | nil => exact h
  | cons m ms ih => exact ih (h.step hm.1) hm.2

end System

end Proctor
