import Proctor.Cluster.Objects
import Proctor.Fault

/-!
# A cluster in memory

The objects of a cluster and the rules by which it stores them. Every change of a Test gives it a
version that no Test had before, and the status of a Test is written only under the version that
the Test has.
-/

namespace Proctor

/-- Where an object is kept. -/
structure Place where
  /-- The namespace. -/
  namespaceName : String
  /-- The name. -/
  name : String
  deriving DecidableEq, Repr, Inhabited

/-- The place of an object; what is unset is empty. -/
def ObjectMeta.place (m : ObjectMeta) : Place := ⟨m.namespaceName.getD "", m.name.getD ""⟩

/-- The place as one text. -/
def Place.path (p : Place) : String := p.namespaceName ++ "/" ++ p.name

/-- Objects by their places, at most one at each. -/
structure Table (α : Type) where
  /-- The objects with their places. -/
  entries : List (Place × α) := []
  deriving Inhabited

namespace Table

variable {α : Type}

/-- The object at a place. -/
def get? (t : Table α) (p : Place) : Option α := t.entries.lookup p

/-- An object is put at a place; the one that was there is gone. -/
def put (t : Table α) (p : Place) (a : α) : Table α :=
  ⟨(p, a) :: t.entries.filter (·.1 ≠ p)⟩

/-- The place is left empty. -/
def erase (t : Table α) (p : Place) : Table α := ⟨t.entries.filter (·.1 ≠ p)⟩

theorem lookup_filter_ne (p q : Place) (h : q ≠ p) (es : List (Place × α)) :
    (es.filter (·.1 ≠ p)).lookup q = es.lookup q := by
  induction es with
  | nil => rfl
  | cons e rest ih =>
    obtain ⟨r, a⟩ := e
    by_cases hr : r = p
    · subst hr
      have hq : (q == r) = false := by simp [h]
      rw [List.lookup_cons, hq, List.filter_cons_of_neg (by simp)]
      exact ih
    · rw [List.filter_cons_of_pos (by simp [hr]), List.lookup_cons, List.lookup_cons, ih]

@[simp] theorem get?_put (t : Table α) (p q : Place) (a : α) :
    (t.put p a).get? q = if q = p then some a else t.get? q := by
  by_cases h : q = p
  · simp [get?, put, h]
  · have hq : (q == p) = false := by simp [h]
    rw [if_neg h, get?, put, List.lookup_cons, hq]
    exact lookup_filter_ne p q h t.entries

end Table

/-- The objects of a cluster. -/
structure Store where
  /-- The Tests. -/
  tests : Table Test := {}
  /-- The Pods. -/
  pods : Table Pod := {}
  /-- The ConfigMaps. -/
  configMaps : Table ConfigMap := {}
  /-- The identities for Pods. -/
  serviceAccounts : Table ServiceAccount := {}
  /-- The sets of rules. -/
  roles : Table Role := {}
  /-- The rules given to identities. -/
  roleBindings : Table RoleBinding := {}
  /-- How many versions were given out. -/
  versions : Nat := 0
  deriving Inhabited

namespace Store

/-- A Test is stored at a place under a new version. -/
def putTest (s : Store) (p : Place) (t : Test) : Store × Test :=
  let version := s.versions + 1
  let stored := { t with
    metadata := { t.metadata with resourceVersion := some (toString version) } }
  ({ s with tests := s.tests.put p stored, versions := version }, stored)

/-- The refusal for a Test that is not there. -/
def notFound : Fault :=
  .api (.refused
    { status := "Failure", message := "test not found", reason := "NotFound", code := 404 })

/-- The refusal for a write under an old version. -/
def modified : Fault :=
  .api (.refused
    { status := "Failure", message := "the object has been modified", reason := "Conflict",
      code := 409 })

/-- The status of a Test is written, if the Test carries the version that is stored. -/
def writeStatus (s : Store) (t : Test) : Except Fault Test × Store :=
  let p : Place := ⟨t.metadata.namespaceName.getD "", t.nameAny⟩
  match s.tests.get? p with
  | none => (.error notFound, s)
  | some old =>
    if old.metadata.resourceVersion = t.metadata.resourceVersion then
      let (s, stored) := s.putTest p { old with status := t.status }
      (.ok stored, s)
    else (.error modified, s)

/-- An object is made, or brought to what is given. What the cluster itself says about a Pod
stays. -/
def apply (s : Store) (m : Manifest) : Store :=
  let p := m.metadata.place
  match m with
  | .configMap c => { s with configMaps := s.configMaps.put p c }
  | .pod pod =>
    let status := (s.pods.get? p).bind Pod.status
    { s with pods := s.pods.put p { pod with status := status } }
  | .serviceAccount a => { s with serviceAccounts := s.serviceAccounts.put p a }
  | .role r => { s with roles := s.roles.put p r }
  | .roleBinding b => { s with roleBindings := s.roleBindings.put p b }

end Store

end Proctor
