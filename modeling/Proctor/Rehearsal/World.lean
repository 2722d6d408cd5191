import Proctor.Lifecycle.Program
import Proctor.Rehearsal.Edit

/-!
# The world of a rehearsal

A world answers the questions of the controller from a store in memory. What is to disturb it is
laid out beforehand for each kind of call: edits that fall just before the call, and a fault that
it meets. Every call is written down.
-/

namespace Proctor.Rehearsal

/-- The kinds of calls that may fail. -/
inductive Call where
  /-- A Test is fetched. -/
  | getTest
  /-- A status is written. -/
  | writeStatus
  /-- A Pod is fetched. -/
  | getPod
  /-- A ConfigMap is applied. -/
  | applyConfigMap
  /-- A Pod is applied. -/
  | applyPod
  /-- A ServiceAccount is applied. -/
  | applyServiceAccount
  /-- A Role is applied. -/
  | applyRole
  /-- A RoleBinding is applied. -/
  | applyRoleBinding
  deriving DecidableEq, Repr

namespace Call

/-- Every kind of call. -/
def all : List Call :=
  [.getTest, .writeStatus, .getPod, .applyConfigMap, .applyPod, .applyServiceAccount, .applyRole,
    .applyRoleBinding]

/-- The name of a kind of call. -/
def name : Call → String
  | .getTest => "get_test"
  | .writeStatus => "replace_test_status"
  | .getPod => "get_pod"
  | .applyConfigMap => "apply_config_map"
  | .applyPod => "apply_pod"
  | .applyServiceAccount => "apply_service_account"
  | .applyRole => "apply_role"
  | .applyRoleBinding => "apply_role_binding"

/-- The call that applies an object. -/
def ofManifest : Manifest → Call
  | .configMap _ => .applyConfigMap
  | .pod _ => .applyPod
  | .serviceAccount _ => .applyServiceAccount
  | .role _ => .applyRole
  | .roleBinding _ => .applyRoleBinding

end Call

/-- What is to happen at one call. -/
structure Disturbance where
  /-- What others do just before the call. -/
  before : List Edit := []
  /-- The fault that the call meets. -/
  fault : Option Fault := none

/-- A call that was made. -/
structure CallRecord where
  /-- Its kind. -/
  call : Call
  /-- The object it was about. -/
  place : Place
  /-- The fault it met. -/
  fault : Option Fault

/-- A store, what is to disturb it, and what the controller has asked. -/
structure World where
  /-- The stored objects. -/
  store : Store := {}
  /-- What is to happen at the next calls of each kind. -/
  disturbances : List (Call × Disturbance) := []
  /-- How many ids were given out. -/
  ids : Nat := 0
  /-- The text of an id by its number, from 1. -/
  idText : Nat → String
  /-- What every clock shows. -/
  now : Instant
  /-- The calls made, last first. -/
  calls : List CallRecord := []

namespace World

/-- The first disturbance of a kind of call, and those that are left without it. -/
def nextDisturbance (call : Call) :
    List (Call × Disturbance) → Disturbance × List (Call × Disturbance)
  | [] => ({}, [])
  | d :: rest =>
    if d.1 = call then (d.2, rest)
    else
      let (found, rest) := nextDisturbance call rest
      (found, d :: rest)

/-- A call on the store, after what is to happen just before it; a fault that it is to meet keeps
it from the store. -/
def perform {α : Type} (w : World) (call : Call) (place : Place)
    (act : Store → Except Fault α × Store) : Except Fault α × World :=
  let (d, disturbances) := nextDisturbance call w.disturbances
  let store := d.before.foldl Edit.after w.store
  let (answer, store) : Except Fault α × Store := match d.fault with
    | some f => (.error f, store)
    | none => act store
  let fault := match answer with
    | .error f => some f
    | .ok _ => none
  (answer, { w with store, disturbances, calls := ⟨call, place, fault⟩ :: w.calls })

/-- The answer to a question, and the world after it. -/
def answer : (q : Query) → World → q.Answer × World
  | .freshId, w => (w.idText (w.ids + 1), { w with ids := w.ids + 1 })
  | .clock, w => (w.now, w)
  | .getTest namespaceName name, w =>
    let p : Place := ⟨namespaceName, name⟩
    w.perform .getTest p fun s => (.ok (s.tests.get? p), s)
  | .writeStatus t, w =>
    w.perform .writeStatus ⟨t.metadata.namespaceName.getD "", t.nameAny⟩ (·.writeStatus t)
  | .getPod namespaceName name, w =>
    let p : Place := ⟨namespaceName, name⟩
    w.perform .getPod p fun s => (.ok (s.pods.get? p), s)
  | .apply m, w => w.perform (.ofManifest m) m.metadata.place fun s => (.ok (), s.apply m)

end World

end Proctor.Rehearsal
