import Proctor.Proofs.Api.Objects
import Proctor.Proofs.Concurrency.Statuses

/-!
# A server that merges

The store of a rehearsal keeps Tests, and a status that is written takes the place of the one that
was there. An API server keeps objects. It merges the patch that writes a status into the object,
and whoever reads the Test reads it out of the object. The two agree (`Server.Agrees`) as long as
each status that is written says of the report what was there before, or where nothing was.

## What is left out

Of the server only the path of Tests and their statuses is told. It checks nothing of what it
stores, fills nothing in and drops nothing, and asks nobody for leave; what its schema admits is
another matter (`Proctor.Proofs.Crd.Agreement`). All other objects it keeps as a store does, and
applying one takes the place of what was there.
-/

namespace Proctor

open Json
open Rehearsal (EditAnswer EditFault)

/-- An API server. -/
structure Server where
  /-- The objects of the Tests. -/
  objects : Table Json := {}
  /-- All else; it has no Tests. -/
  cluster : Store := {}

namespace Server

/-! ### What the server does -/

/-- The version of an object. -/
def version? (j : Json) : Option String :=
  ((j.get? "metadata").bind ObjectMeta.read?).bind ObjectMeta.resourceVersion

/-- An object is stored at a place under a new version. -/
def put (s : Server) (p : Place) (j : Json) : Server × Json :=
  let version := s.cluster.versions + 1
  let stored := j.merge (.obj (versionPatch (toString version)))
  ({ objects := s.objects.put p stored, cluster := { s.cluster with versions := version } }, stored)

/-- The Test at a place. -/
def getTest (s : Server) (p : Place) : Except Fault (Option Test) :=
  match s.objects.get? p with
  | none => .ok none
  | some j =>
    match Test.read? j with
    | none => .error (.api .unusable)
    | some t => .ok (some t)

/-- The patch that writes the status of a Test is merged into the object at its place. If the patch
names a version, it has to be the one of the object. -/
def writeStatus (s : Server) (t : Test) : Except Fault Test × Server :=
  match s.objects.get? t.home with
  | none => (.error Store.notFound, s)
  | some old =>
    let merged := old.merge t.statusPatch
    if version? merged = none ∨ version? merged = version? old then
      let (s, stored) := s.put t.home merged
      match Test.read? stored with
      | none => (.error (.api .unusable), s)
      | some t => (.ok t, s)
    else (.error Store.modified, s)

/-- A call on a server, if no fault keeps it from there. -/
def call {α : Type} (s : Server) (f : Fate) (r : Except Fault α × Server) :
    Except Fault α × Server :=
  match f.fault with
  | some e => (.error e, s)
  | none => r

/-- The answer to a question, and the server after it. -/
def answer (s : Server) (f : Fate) : (q : Query) → q.Answer × Server
  | .freshId => (f.id, s)
  | .clock => (f.now, s)
  | .getTest namespaceName name => s.call f (s.getTest ⟨namespaceName, name⟩, s)
  | .writeStatus t => s.call f (s.writeStatus t)
  | .getPod namespaceName name =>
    s.call f (.ok (s.cluster.pods.get? ⟨namespaceName, name⟩), s)
  | .apply m => s.call f (.ok (), { s with cluster := s.cluster.apply m })

/-! ### What others do -/

/-- What clients do to objects, and the cluster to Pods. -/
inductive Edit where
  /-- The object of a Test is made. -/
  | create (j : Json)
  /-- Its spec is replaced. -/
  | setSpec (p : Place) (spec : Json)
  /-- A patch sets its phase. -/
  | setPhase (p : Place) (phase : Phase)
  /-- It is deleted. -/
  | deleteTest (p : Place)
  /-- A Pod is stored under its own name. -/
  | putPod (pod : Pod)
  /-- The cluster says something new about a Pod, or nothing any more. -/
  | podStatus (p : Place) (status : Option PodStatus)
  /-- A Pod is deleted. -/
  | deletePod (p : Place)

/-- The Test that an object makes. Only an object makes one, and it has no status. -/
def created? (j : Json) : Option Test := do
  let _ ← j.fields?
  let t ← Test.read? j
  if t.status = none then some t else none

/-- The object with another spec. -/
def respec (spec : Json) : Json → Json
  | .obj fields => .obj (without "spec" fields ++ [("spec", spec)])
  | j => j

/-- The patch of the phase alone. -/
def phasePatch (phase : Phase) : Json := .obj [("status", .obj [("phase", .str phase.wire)])]

/-- A stored object is changed, if there is what to change it to. -/
def changeObject {α : Type} (s : Server) (p : Place) (a : Option α) (change : α → Json → Json) :
    Except EditFault (EditAnswer × Server) :=
  match s.objects.get? p with
  | none => .error .noSuchTest
  | some j =>
    match a with
    | none => .error .unreadable
    | some a => .ok (.ok, (s.put p (change a j)).1)

/-- An edit that is not about Tests. -/
def editCluster (s : Server) (e : Rehearsal.Edit) : Except EditFault (EditAnswer × Server) :=
  (e.perform s.cluster).map fun r => (r.1, { s with cluster := r.2 })

/-- The same edit of a store. -/
def Edit.decoded : Edit → Rehearsal.Edit
  | .create j => .putTest (created? j)
  | .setSpec p spec => .setSpec p (Spec.read? spec)
  | .setPhase p phase => .setPhase p (some phase)
  | .deleteTest p => .deleteTest p
  | .putPod pod => .putPod (some pod)
  | .podStatus p status => .podStatus p (some status)
  | .deletePod p => .deletePod p

/-- An edit is made. -/
def Edit.perform (e : Edit) (s : Server) : Except EditFault (EditAnswer × Server) :=
  match e with
  | .create j =>
    match created? j with
    | none => .error .unreadable
    | some t => .ok (.ok, (s.put t.metadata.place j).1)
  | .setSpec p spec => s.changeObject p (Spec.read? spec) fun _ => respec spec
  | .setPhase p phase => s.changeObject p (some phase) fun phase j => j.merge (phasePatch phase)
  | .deleteTest p =>
    .ok (.wasThere (s.objects.get? p).isSome, { s with objects := s.objects.erase p })
  | .putPod pod => s.editCluster (.putPod (some pod))
  | .podStatus p status => s.editCluster (.podStatus p (some status))
  | .deletePod p => s.editCluster (.deletePod p)

/-- The server after an edit; one that is refused changes nothing. -/
def Edit.after (s : Server) (e : Edit) : Server :=
  match e.perform s with
  | .ok (_, s) => s
  | .error _ => s

/-! ### The server and a store -/

/-- An object of the server holds a Test of the store. -/
def Holding (j : Json) (t : Test) : Prop := ∃ fields, j = .obj fields ∧ t.HeldBy fields

/-- A server has the objects of the Tests of a store, and all else that the store has. -/
structure Agrees (m : Server) (s : Store) : Prop where
  /-- Each object holds the Test at its place. -/
  objects : ∀ p, Option.Rel Holding (m.objects.get? p) (s.tests.get? p)
  /-- All else is the same. -/
  cluster : m.cluster = { s with tests := {} }

variable {m : Server} {s : Store} {p : Place} {t : Test} {fields : List (String × Json)}

theorem Agrees.versions (h : m.Agrees s) : m.cluster.versions = s.versions := by rw [h.cluster]

theorem version?_of_heldBy (h : t.HeldBy fields) : version? (.obj fields) = t.version? := by
  obtain ⟨parts, hl, hmeta⟩ := h.lookup_metadata
  rw [version?, Json.get?, hl, Option.bind_some, hmeta, Option.bind_some]

/-- What is stored at a place. -/
theorem Agrees.put (h : m.Agrees s) {j : Json} (hj : Holding j t) :
    Holding (m.put p j).2 (s.putTest p t).2 ∧ (m.put p j).1.Agrees (s.putTest p t).1 := by
  have hstored : Holding (m.put p j).2 (s.putTest p t).2 := by
    obtain ⟨fields, rfl, ht⟩ := hj
    refine ⟨_, merge_obj .., ?_⟩
    rw [h.versions]
    exact ht.versioned _
  refine ⟨hstored, fun q => ?_, ?_⟩
  · rw [Store.putTest_eq] at hstored ⊢
    simp only [Server.put, Table.get?_put]
    split
    · exact .some hstored
    · exact h.objects q
  · rw [Store.putTest_eq, Server.put, h.cluster]

theorem Agrees.absent (h : m.Agrees s) (hp : s.tests.get? p = none) :
    m.objects.get? p = none := by
  have hr := h.objects p
  rw [hp] at hr
  cases hm : m.objects.get? p with
  | none => rfl
  | some j =>
    rw [hm] at hr
    cases hr

theorem Agrees.present (h : m.Agrees s) (hp : s.tests.get? p = some t) :
    ∃ fields, m.objects.get? p = some (.obj fields) ∧ t.HeldBy fields := by
  have hr := h.objects p
  rw [hp] at hr
  cases hm : m.objects.get? p with
  | none =>
    rw [hm] at hr
    cases hr
  | some j =>
    rw [hm] at hr
    cases hr with
    | some hj =>
      obtain ⟨fields, rfl, ht⟩ := hj
      exact ⟨fields, rfl, ht⟩

theorem Agrees.isSome (h : m.Agrees s) (p : Place) :
    (m.objects.get? p).isSome = (s.tests.get? p).isSome := by
  cases hp : s.tests.get? p with
  | none =>
    rw [h.absent hp]
    rfl
  | some t =>
    obtain ⟨fields, hm, -⟩ := h.present hp
    rw [hm]
    rfl

/-- The Tests of the store are read out of the objects. -/
theorem Agrees.read (h : m.Agrees s) (p : Place) :
    (m.objects.get? p).map Test.read? = (s.tests.get? p).map some := by
  cases hp : s.tests.get? p with
  | none =>
    rw [h.absent hp]
    rfl
  | some t =>
    obtain ⟨fields, hm, ht⟩ := h.present hp
    rw [hm, Option.map_some, ht.read?]
    rfl

/-! #### Answers -/

theorem Agrees.getTest (h : m.Agrees s) (p : Place) : m.getTest p = .ok (s.tests.get? p) := by
  rw [Server.getTest]
  cases hp : s.tests.get? p with
  | none => rw [h.absent hp]
  | some t =>
    obtain ⟨fields, hm, ht⟩ := h.present hp
    rw [hm]
    simp only [ht.read?]

/-- A write whose patch brings about what the store would keep, if the store accepts it: the copy
carries a version, and of the report it says what was there before, or where nothing was. -/
def Mergeable (s : Store) : Query → Prop
  | .writeStatus copy => ∃ version, copy.version? = some version ∧
      ∀ old, s.tests.get? copy.home = some old → old.version? = copy.version? →
        ∃ st, copy.status = some st ∧ (st.results = none ∨ old.status.bind Status.results = none ∨
          st.results = old.status.bind Status.results)
  | _ => True

theorem statusPatch_eq {copy : Test} {version : String} (hv : copy.version? = some version) :
    copy.statusPatch =
      .obj (versionPatch version ++ [("status", .obj (copy.status.getD {}).patchFields)]) := by
  have hm : copy.metadata.resourceVersion = some version := hv
  rw [Test.statusPatch, hm]
  rfl

/-- The version that a patch names is that of the patched object. -/
theorem version?_merge_statusPatch (h : t.HeldBy fields) {copy : Test} {version : String}
    (hv : copy.version? = some version) :
    version? (Json.merge (.obj fields) copy.statusPatch) = some version := by
  have hversion := version?_of_heldBy (h.versioned version)
  rw [version?, Json.get?] at hversion
  rw [statusPatch_eq hv, merge_obj, mergeFields_append, version?, Json.get?, lookup_eq_named,
    named_mergeFields_one rfl, if_neg (by decide), ← lookup_eq_named]
  exact hversion

/-- What a patch brings about that carries the version of the object. -/
theorem heldBy_statusPatch (h : t.HeldBy fields) {copy : Test} {st : Status} {version : String}
    (ht : t.version? = some version) (hs : copy.status = some st)
    (hres : st.results = none ∨ t.status.bind Status.results = none ∨
      st.results = t.status.bind Status.results) :
    ({ t with status := copy.status } : Test).HeldBy (mergeFields fields
      (versionPatch version ++ [("status", .obj (copy.status.getD {}).patchFields)])) := by
  have hsame : ({ t with metadata := { t.metadata with resourceVersion := some version } } :
      Test) = t := by rw [← ht]
  rw [mergeFields_append, hs]
  exact (hsame ▸ h.versioned version).patched fun parts hp => hp.patched hres

theorem Agrees.writeStatus (h : m.Agrees s) {copy : Test}
    (hq : Mergeable s (.writeStatus copy)) :
    (m.writeStatus copy).1 = (s.writeStatus copy).1 ∧
      (m.writeStatus copy).2.Agrees (s.writeStatus copy).2 := by
  obtain ⟨version, hv, hres⟩ := hq
  rw [Server.writeStatus]
  rcases s.writeStatus_cases copy with ⟨old, ho, hold, hw⟩ | ⟨old, ho, hold, hw⟩ | ⟨ho, hw⟩
  · obtain ⟨fields, hm, ht⟩ := h.present ho
    obtain ⟨st, hs, hkeep⟩ := hres old ho hold
    have hmerged := version?_merge_statusPatch ht hv
    have hheld := heldBy_statusPatch ht (hold.trans hv) hs hkeep
    have hmerge : Json.merge (.obj fields) copy.statusPatch = .obj (mergeFields fields
        (versionPatch version ++ [("status", .obj (copy.status.getD {}).patchFields)])) := by
      rw [statusPatch_eq hv, merge_obj]
      rfl
    obtain ⟨⟨stored, hj, hstored⟩, hagrees⟩ := h.put (p := copy.home) ⟨_, rfl, hheld⟩
    have hread := hj ▸ hstored.read?
    rw [hmerge] at hmerged
    rw [hm, hw]
    simp only [hmerge, hmerged, version?_of_heldBy ht, hold, hv, or_true, if_true, hread]
    exact ⟨rfl, hagrees⟩
  · obtain ⟨fields, hm, ht⟩ := h.present ho
    have hmerged := version?_merge_statusPatch ht hv
    have hne : ¬ (some version = none ∨ some version = old.version?) := by
      rintro (hn | hn)
      · cases hn
      · exact hold (hn.symm.trans hv.symm)
    rw [hm, hw]
    simp only [hmerged, version?_of_heldBy ht, if_neg hne]
    exact ⟨trivial, h⟩
  · rw [h.absent ho, hw]
    exact ⟨rfl, h⟩

/-- The server answers as the store does. -/
theorem Agrees.answer (h : m.Agrees s) {q : Query} (hq : Mergeable s q) (f : Fate) :
    (m.answer f q).1 = (s.answer f q).1 ∧ (m.answer f q).2.Agrees (s.answer f q).2 := by
  have hcall : ∀ {α : Type} {x : Except Fault α × Server} {y : Except Fault α × Store},
      x.1 = y.1 ∧ x.2.Agrees y.2 →
        (m.call f x).1 = (f.call s y).1 ∧ (m.call f x).2.Agrees (f.call s y).2 := by
    intro α x y hxy
    rw [Server.call, Fate.call]
    cases f.fault with
    | none => exact hxy
    | some e => exact ⟨rfl, h⟩
  cases q with
  | freshId | clock => exact ⟨rfl, h⟩
  | getTest namespaceName name => exact hcall ⟨h.getTest _, h⟩
  | writeStatus copy => exact hcall (h.writeStatus hq)
  | getPod namespaceName name => exact hcall ⟨by rw [h.cluster], h⟩
  | apply x =>
    refine hcall ⟨rfl, fun p => ?_, ?_⟩
    · rw [Store.tests_apply]
      exact h.objects p
    · show m.cluster.apply x = _
      rw [h.cluster]
      cases x <;> rfl

/-! #### Edits -/

/-- The same is said about an edit of a server and of a store, and they agree after it. -/
inductive Alike :
    Except EditFault (EditAnswer × Server) → Except EditFault (EditAnswer × Store) → Prop where
  /-- Both refuse it. -/
  | refused (f : EditFault) : Alike (.error f) (.error f)
  /-- Both make it. -/
  | made (a : EditAnswer) {m : Server} {s : Store} (h : m.Agrees s) :
    Alike (.ok (a, m)) (.ok (a, s))

theorem Alike.said {x : Except EditFault (EditAnswer × Server)}
    {y : Except EditFault (EditAnswer × Store)} (h : Alike x y) :
    x.map Prod.fst = y.map Prod.fst := by
  cases h <;> rfl

theorem holding_of_created? {j : Json} (h : created? j = some t) :
    t.status = none ∧ Holding j t := by
  cases j with
  | obj fields =>
    simp only [created?, Json.fields?, Option.bind_eq_bind, Option.bind_some,
      Option.bind_eq_some_iff, Option.ite_none_right_eq_some, Option.some.injEq] at h
    obtain ⟨_, hread, hs, rfl⟩ := h
    exact ⟨hs, fields, rfl, .of_read? hread hs⟩
  | null | bool _ | int _ | real _ | str _ | torn | arr _ => cases h

/-- A change of an object that is also one of the Test that it holds. -/
theorem Agrees.changeObject (h : m.Agrees s) {α : Type} {a : Option α} {change : α → Json → Json}
    {change' : α → Test → Test}
    (hc : ∀ b ∈ a, ∀ t fields, t.HeldBy fields → Holding (change b (.obj fields)) (change' b t)) :
    Alike (m.changeObject p a change) (Rehearsal.changeTest s p a change') := by
  rw [Server.changeObject, Rehearsal.changeTest]
  cases hp : s.tests.get? p with
  | none =>
    rw [h.absent hp]
    exact .refused _
  | some t =>
    obtain ⟨fields, hm, ht⟩ := h.present hp
    rw [hm]
    cases a with
    | none => exact .refused _
    | some b => exact .made _ (h.put (hc b rfl t fields ht)).2

/-- An edit of Pods that does not look at the Tests. -/
theorem Agrees.editCluster (h : m.Agrees s) {e : Rehearsal.Edit} (he : e.aboutPods = true)
    (hblind : e.perform { s with tests := {} } =
      (e.perform s).map fun r => (r.1, { r.2 with tests := {} })) :
    Alike (m.editCluster e) (e.perform s) := by
  rw [Server.editCluster, h.cluster, hblind]
  cases hp : e.perform s with
  | error f => exact .refused f
  | ok r =>
    obtain ⟨pods, hs⟩ := Rehearsal.Edit.after_of_aboutPods he s
    rw [Rehearsal.Edit.after_of_perform (r := r.1) hp] at hs
    refine .made r.1 ⟨fun p => ?_, rfl⟩
    rw [hs]
    exact h.objects p

/-- Whoever edits is told the same by the server and by the store, and they agree afterwards. -/
theorem Agrees.perform (h : m.Agrees s) (e : Server.Edit) :
    Alike (e.perform m) (e.decoded.perform s) := by
  cases e with
  | create j =>
    rw [Edit.perform, Edit.decoded]
    cases ht : created? j with
    | none => exact .refused _
    | some t => exact .made _ (h.put (holding_of_created? ht).2).2
  | setSpec p spec =>
    exact h.changeObject fun _ hspec t fields ht => ⟨_, rfl, ht.respecified hspec⟩
  | setPhase p phase =>
    rw [Edit.perform, Edit.decoded, Rehearsal.Edit.perform]
    refine h.changeObject fun phase _ t fields ht => ?_
    exact ⟨_, merge_obj .., ht.patched fun parts hs => hs.phased phase⟩
  | deleteTest p =>
    rw [Edit.perform, h.isSome]
    refine .made _ ⟨fun q => ?_, h.cluster⟩
    rw [Table.get?_erase, Table.get?_erase]
    split
    · exact .none
    · exact h.objects q
  | putPod pod | deletePod p => exact h.editCluster rfl rfl
  | podStatus p status =>
    refine h.editCluster rfl ?_
    simp only [Rehearsal.Edit.perform, Rehearsal.changePod, Rehearsal.withReadable]
    cases s.pods.get? p <;> rfl

theorem Agrees.edit (h : m.Agrees s) (e : Server.Edit) :
    (e.after m).Agrees (e.decoded.after s) := by
  have ha := h.perform e
  rw [Edit.after, Rehearsal.Edit.after]
  generalize e.perform m = x, e.decoded.perform s = y at ha
  cases ha with
  | refused f => exact h
  | made a h' => exact h'

end Server

end Proctor
