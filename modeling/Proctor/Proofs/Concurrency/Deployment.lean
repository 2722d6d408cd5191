import Proctor.Proofs.Api.Server

/-!
# Controllers beside each other on a server that merges

The controllers of a deployment work on a server that keeps objects and merges patches into them;
those of a system work on a store of Tests. As long as clients leave statuses to the controllers, no
one can tell which of the two it is: after the same moves each object holds the Test that is stored
at its place, and whoever asks is answered the same (`Deployment.merging_refines`). A deployment
follows a system because a report is never written over another one: the only action that writes one
finds a Test that runs, and that has none.
-/

namespace Proctor

/-- Of the report an action says what the copy says, or where the copy says nothing. -/
theorem Computes.results {config : Config} {t u : Test} {a : Action} {es : List Exchange}
    (h : Computes config t a es u) (ha : Action.ofPhase t.phase = a) (ht : t.WellFormed) :
    ∃ st, u.status = some st ∧ (st.results = none ∨ t.status.bind Status.results = none ∨
      st.results = t.status.bind Status.results) := by
  have hkept : (t.status.getD {}).results = t.status.bind Status.results := by
    cases t.status <;> rfl
  cases h with
  | begun id hc => exact ⟨_, rfl, Or.inl rfl⟩
  | refused id now hc => exact ⟨_, rfl, Or.inl rfl⟩
  | started now hn hw => exact ⟨_, rfl, Or.inr (Or.inr hkept)⟩
  | restarted hd => exact ⟨_, rfl, Or.inr (Or.inr hkept)⟩
  | judged now hn hv =>
    have hp : t.phase = .running := by simpa [Action.handles] using Action.handles_iff.2 ha
    obtain ⟨st, hs, -, ⟨hr, -⟩, -⟩ := ht.of_running hp
    exact ⟨_, rfl, Or.inr (Or.inl (by rw [hs, Option.bind_some, hr]))⟩

/-- What a controller is about to write can be merged. -/
theorem System.Reaches.mergeable {s : System} (h : Reaches Tended s) {t : Task} (ht : t ∈ s.tasks)
    {q : Query} {next : q.Answer → Program t.job.Result} (hq : t.rest = .ask q next) :
    Server.Mergeable s.store q := by
  cases q with
  | writeStatus copy =>
    have hs := h.tended_sound
    obtain ⟨-, _, _, _, _, read, -, -, hh, hr, hc⟩ := Job.walk_write (hq ▸ t.walk)
    have hread : read ∈ s.past := (hs.tasks t ht).mem_of_retries hr hh
    have hversion : copy.version? = read.version? :=
      congrArg ObjectMeta.resourceVersion hc.metadata_eq
    obtain ⟨n, -, hn⟩ := hs.history.known read hread
    refine ⟨_, hversion.trans hn, fun old ho hv => ?_⟩
    obtain rfl : old = read :=
      hs.history.unique _ (hs.history.mem_of_get? ho) _ hread (hv.trans hversion)
    have ha : Action.ofPhase old.phase = t.job.action := by
      rw [hr.phase_eq rfl, h.reconciling.actions.1 t ht]
    exact hc.results ha (h.wellFormed _ hread)
  | freshId | clock | getTest _ _ | getPod _ _ | apply _ => trivial

/-! ### Deployments -/

/-- Controllers, and the server that they work on. -/
structure Deployment where
  /-- The server. -/
  server : Server := {}
  /-- The controllers. -/
  tasks : List Task := []

namespace Deployment

/-- What may happen next. -/
inductive Move where
  /-- Someone else edits what is stored. -/
  | edit (e : Server.Edit)
  /-- A controller sets out. -/
  | launch (j : Job)
  /-- The question of one of the controllers is answered. -/
  | answer (i : Nat) (f : Fate)

/-- The same move of a system. -/
def Move.decoded : Move → Proctor.Move
  | .edit e => .edit e.decoded
  | .launch j => .launch j
  | .answer i f => .answer i f

/-- The question of a controller is answered. -/
def hear (d : Deployment) (i : Nat) (t : Task) {q : Query} {next : q.Answer → Program t.job.Result}
    (h : t.rest = .ask q next) (f : Fate) : Deployment :=
  let (x, server) := d.server.answer f q
  { server, tasks := d.tasks.set i (t.hear h x) }

/-- The question of the controller of that number is answered, if it has one. -/
def answer (d : Deployment) (i : Nat) (f : Fate) : Deployment :=
  match d.tasks[i]? with
  | none => d
  | some t =>
    match h : t.rest with
    | .done _ => d
    | .ask _ _ => d.hear i t h f

/-- The deployment after a move. -/
def step (d : Deployment) : Move → Deployment
  | .edit e => { d with server := e.after d.server }
  | .launch j => { d with tasks := d.tasks ++ [.begin j] }
  | .answer i f => d.answer i f

/-- The deployment after some moves. -/
def run (d : Deployment) (ms : List Move) : Deployment := ms.foldl step d

/-! ### A deployment and a system -/

variable {d : Deployment} {s : System}

/-- The controllers have heard the same, and the server has what the store has. -/
structure Follows (d : Deployment) (s : System) : Prop where
  /-- The controllers are the same. -/
  tasks : d.tasks = s.tasks
  /-- The server agrees with the store. -/
  server : d.server.Agrees s.store

theorem Follows.empty : Follows {} {} where
  tasks := rfl
  server := ⟨fun _ => .none, rfl⟩

theorem Follows.hear (h : d.Follows s) (i : Nat) (t : Task) {q : Query}
    {next : q.Answer → Program t.job.Result} (hq : t.rest = .ask q next)
    (hm : Server.Mergeable s.store q) (f : Fate) : (d.hear i t hq f).Follows (s.hear i t hq f) := by
  obtain ⟨hx, hs⟩ := h.server.answer hm f
  refine ⟨?_, hs⟩
  show d.tasks.set i (t.hear hq (d.server.answer f q).1) =
    s.tasks.set i (t.hear hq (s.store.answer f q).1)
  rw [h.tasks, hx]

theorem Follows.answer (h : d.Follows s) (hs : System.Reaches System.Tended s) (i : Nat)
    (f : Fate) : (d.answer i f).Follows (s.answer i f) := by
  rw [Deployment.answer, System.answer, h.tasks]
  cases ht : s.tasks[i]? with
  | none => exact h
  | some t =>
    obtain ⟨job, heard, rest, walk⟩ := t
    cases rest with
    | done r => exact h
    | ask q next => exact h.hear i _ rfl (hs.mergeable (List.mem_of_getElem? ht) rfl) f

theorem Follows.step (h : d.Follows s) (hs : System.Reaches System.Tended s) (m : Move) :
    (d.step m).Follows (s.step m.decoded) := by
  cases m with
  | edit e => exact ⟨h.tasks, h.server.edit e⟩
  | launch j => exact ⟨congrArg (· ++ [Task.begin j]) h.tasks, h.server⟩
  | answer i f => exact h.answer hs i f

theorem Follows.run (h : d.Follows s) (hs : System.Reaches System.Tended s) {ms : List Move}
    (hm : System.AllAllowed System.Tended s (ms.map Move.decoded)) :
    (d.run ms).Follows (s.run (ms.map Move.decoded)) := by
  induction ms generalizing d s with
  | nil => exact h
  | cons m ms ih => exact ih (h.step hs m) (hs.step hm.1) hm.2

/-- Controllers reconcile, and clients leave statuses to them. After the same moves the controllers
of a deployment have heard what those of a system have; the Tests that are stored are read out of
the objects at their places, and there are no others; all else is the same; and whoever edits next
is told the same. -/
theorem merging_refines {ms : List Move}
    (h : System.AllAllowed System.Tended {} (ms.map Move.decoded)) :
    (run {} ms).tasks = (System.run {} (ms.map Move.decoded)).tasks ∧
    (∀ p, ((run {} ms).server.objects.get? p).map Test.read? =
      ((System.run {} (ms.map Move.decoded)).store.tests.get? p).map some) ∧
    (run {} ms).server.cluster =
      { (System.run {} (ms.map Move.decoded)).store with tests := {} } ∧
    ∀ e : Server.Edit, (e.perform (run {} ms).server).map Prod.fst =
      (e.decoded.perform (System.run {} (ms.map Move.decoded)).store).map Prod.fst := by
  have hf : (run {} ms).Follows (System.run {} (ms.map Move.decoded)) :=
    Follows.empty.run .empty h
  exact ⟨hf.tasks, hf.server.read, hf.server.cluster, fun e => (hf.server.perform e).said⟩

/-! #### A run on a server -/

/-- An object that makes the Test that greets; of its fields a Test has only two. -/
def greeterObject : Json := .obj [
  ("apiVersion", .str Test.apiVersion),
  ("kind", .str Test.kind),
  ("metadata", .obj [
    ("name", .str "hello"), ("namespace", .str "default"), ("uid", .str "uid")]),
  ("spec", .obj [("source", System.greeting.toJson)])]

example : Server.created? greeterObject = some System.greeter := rfl

/-- The Test that greets, after a generation was begun and a client asked that it is run again. -/
def held : Test :=
  ({ System.greeter with status := some { Status.begun "2"
      (System.greeting.digest controllerVersion) controllerVersion with phase := .new } } :
    Test).numbered 4

/-- A generation of the Test is begun, the Test is held back, and another generation is begun. -/
def resumption : List Move :=
  [.edit (.create greeterObject), .launch (.reconcile {} (System.greeter.numbered 1)),
    .answer 0 System.plainFate, .answer 0 System.plainFate,
    .edit (.setPhase System.greeted .updating), .edit (.setPhase System.greeted .new),
    .launch (.reconcile {} held), .answer 1 System.plainFate, .answer 1 System.plainFate]

theorem allAllowed_resumption :
    System.AllAllowed System.Tended {} (resumption.map Move.decoded) := by
  have hanswer : ∀ (s : System) (i : Nat), s.Tended (.answer i System.plainFate) := by
    intro s i e he
    cases he
  have hphase : ∀ (s : System) (phase : Phase), phase.isWish = true →
      s.Tended (.edit (.setPhase System.greeted (some phase))) := by
    intro s phase hp q hq
    cases hq
    exact hp
  exact ⟨fun u hu => (Server.holding_of_created? hu).1, ⟨.head _, _, _, rfl⟩, hanswer _ _,
    hanswer _ _, hphase _ _ rfl, hphase _ _ rfl, ⟨.head _, _, _, rfl⟩, hanswer _ _, hanswer _ _,
    trivial⟩

theorem resumption_merged :
    System.AllAllowed System.Tended {} (resumption.map Move.decoded) ∧
    ∃ j t, (run {} resumption).server.objects.get? System.greeted = some j ∧
      Test.read? j = some t ∧ t.phase = .pending ∧ t.version? = some "5" := by
  refine ⟨allAllowed_resumption, ?_⟩
  have hread := (merging_refines allAllowed_resumption).2.1 System.greeted
  obtain ⟨t, ht, hp, hv⟩ : ∃ t, (System.run {} (resumption.map Move.decoded)).store.tests.get?
      System.greeted = some t ∧ t.phase = .pending ∧ t.version? = some "5" := ⟨_, rfl, rfl, rfl⟩
  rw [ht, Option.map_some, Option.map_eq_some_iff] at hread
  obtain ⟨j, hj, hjt⟩ := hread
  exact ⟨j, t, hj, hjt, hp, hv⟩

end Deployment

end Proctor
