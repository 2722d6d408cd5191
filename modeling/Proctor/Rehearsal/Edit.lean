import Proctor.Cluster.Store
import Proctor.Workload.Labels

/-!
# Edits by others

What clients and the cluster itself do to stored objects while a rehearsal goes on.
-/

namespace Proctor.Rehearsal

/-- Why an edit was refused. -/
inductive EditFault where
  /-- There is no Test at the place. -/
  | noSuchTest
  /-- There is no Pod at the place. -/
  | noSuchPod
  /-- What is to be stored could not be read. -/
  | unreadable
  deriving DecidableEq, Repr

/-- A change of stored objects. What is to be stored is missing where it could not be read. -/
inductive Edit where
  /-- A Test is stored under its own name. -/
  | putTest (t : Option Test)
  /-- A Test gets another spec. -/
  | setSpec (p : Place) (spec : Option Spec)
  /-- A Test gets another status, or none. -/
  | setStatus (p : Place) (status : Option (Option Status))
  /-- A Test is moved to another phase. -/
  | setPhase (p : Place) (phase : Option Phase)
  /-- A Test gets another identity. -/
  | setUid (p : Place) (uid : Option (Option String))
  /-- A Test is deleted. -/
  | deleteTest (p : Place)
  /-- A Pod is stored under its own name. -/
  | putPod (pod : Option Pod)
  /-- The cluster says something new about a Pod, or nothing any more. -/
  | podStatus (p : Place) (status : Option (Option PodStatus))
  /-- The cluster says something new about the Pod of a Test's generation. -/
  | generationStatus (test : Place) (status : Option (Option PodStatus))
  /-- A Pod is deleted. -/
  | deletePod (p : Place)

/-- What is said about an edit that was made. -/
inductive EditAnswer where
  /-- It was made. -/
  | ok
  /-- The object was there before. -/
  | wasThere (b : Bool)
  deriving DecidableEq, Repr

/-- The result of an edit with what was to be stored, if that could be read. -/
def withReadable {α : Type} (a : Option α) (use : α → Except EditFault (EditAnswer × Store)) :
    Except EditFault (EditAnswer × Store) :=
  match a with
  | none => .error .unreadable
  | some a => use a

/-- A stored Test is changed. -/
def changeTest {α : Type} (s : Store) (p : Place) (a : Option α) (change : α → Test → Test) :
    Except EditFault (EditAnswer × Store) :=
  match s.tests.get? p with
  | none => .error .noSuchTest
  | some t => withReadable a fun a => .ok (.ok, (s.putTest p (change a t)).1)

/-- The cluster says something new about a stored Pod; what it says is read first. -/
def changePod (s : Store) (p : Place) (status : Option (Option PodStatus)) :
    Except EditFault (EditAnswer × Store) :=
  withReadable status fun status =>
    match s.pods.get? p with
    | none => .error .noSuchPod
    | some pod => .ok (.ok, { s with pods := s.pods.put p { pod with status } })

/-- An edit is made. -/
def Edit.perform (e : Edit) (s : Store) : Except EditFault (EditAnswer × Store) :=
  match e with
  | .putTest t => withReadable t fun t => .ok (.ok, (s.putTest t.metadata.place t).1)
  | .setSpec p spec => changeTest s p spec fun spec t => { t with spec := spec }
  | .setStatus p status => changeTest s p status fun status t => { t with status := status }
  | .setPhase p phase =>
    changeTest s p phase fun phase t => t.withStatus fun st => { st with phase := phase }
  | .setUid p uid =>
    changeTest s p uid fun uid t => { t with metadata := { t.metadata with uid := uid } }
  | .deleteTest p =>
    .ok (.wasThere (s.tests.get? p).isSome, { s with tests := s.tests.erase p })
  | .putPod pod => withReadable pod fun pod =>
    .ok (.ok, { s with pods := s.pods.put pod.metadata.place pod })
  | .podStatus p status => changePod s p status
  | .generationStatus test status =>
    match s.tests.get? test with
    | none => .error .noSuchTest
    | some t =>
      let name := generationName test.name (t.testId?.getD "")
      changePod s ⟨test.namespaceName, name⟩ status
  | .deletePod p => .ok (.wasThere (s.pods.get? p).isSome, { s with pods := s.pods.erase p })

/-- The store after an edit; one that is refused changes nothing. -/
def Edit.after (s : Store) (e : Edit) : Store :=
  match e.perform s with
  | .ok (_, s) => s
  | .error _ => s

end Proctor.Rehearsal
