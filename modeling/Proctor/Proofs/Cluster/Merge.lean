import Proctor.Proofs.Cluster.Versions
import Proctor.Proofs.Workload.Generations

/-!
# Merging what was done to a store

All that a store has is kept in slots, each of a kind and at a place (`Store.item?`), and whatever a
controller does fills at most one of them. When two controllers have worked on one store, what is
there now can be told from what each of them would have left alone (`Store.Merges`): a slot that
only one of them has changed is as that one left it. This is a three-way merge without conflicts,
for the slots of different Tests are different, and what is shared by the Tests of a namespace is
filled with the same by each of them (`Place.MayFill`).
-/

namespace Proctor

/-! ### Slots -/

/-- The kinds of objects that controllers work on. -/
inductive Kind where
  /-- Tests. -/
  | test
  /-- Named texts. -/
  | configMap
  /-- Processes. -/
  | pod
  /-- Identities. -/
  | serviceAccount
  /-- Sets of rules. -/
  | role
  /-- Rules given to identities. -/
  | roleBinding
  deriving DecidableEq

/-- Where an object of some kind is kept. -/
structure Slot where
  /-- The kind. -/
  kind : Kind
  /-- The place. -/
  place : Place
  deriving DecidableEq

/-- What may be kept in a slot. -/
inductive Item where
  /-- A Test. -/
  | test (t : Test)
  /-- Something that is applied. -/
  | manifest (m : Manifest)

/-- A Test but for its version. -/
def Test.unversioned (t : Test) : Test :=
  { t with metadata := { t.metadata with resourceVersion := none } }

/-- Where an object is applied to. -/
def Manifest.slot : Manifest → Slot
  | .configMap c => ⟨.configMap, c.metadata.place⟩
  | .pod p => ⟨.pod, p.metadata.place⟩
  | .serviceAccount a => ⟨.serviceAccount, a.metadata.place⟩
  | .role r => ⟨.role, r.metadata.place⟩
  | .roleBinding b => ⟨.roleBinding, b.metadata.place⟩

namespace Store

/-- What is kept in a slot; of a Test, all but the version. -/
def item? (s : Store) : Slot → Option Item
  | ⟨.test, p⟩ => (s.tests.get? p).map fun t => .test t.unversioned
  | ⟨.configMap, p⟩ => (s.configMaps.get? p).map fun c => .manifest (.configMap c)
  | ⟨.pod, p⟩ => (s.pods.get? p).map fun pod => .manifest (.pod pod)
  | ⟨.serviceAccount, p⟩ => (s.serviceAccounts.get? p).map fun a => .manifest (.serviceAccount a)
  | ⟨.role, p⟩ => (s.roles.get? p).map fun r => .manifest (.role r)
  | ⟨.roleBinding, p⟩ => (s.roleBindings.get? p).map fun b => .manifest (.roleBinding b)

/-- An object as it is stored when it is applied: a Pod keeps what the cluster says about it. -/
def settled (s : Store) : Manifest → Manifest
  | .pod p => .pod { p with status := (s.pods.get? p.metadata.place).bind Pod.status }
  | m => m

/-- One slot was filled. -/
def Fills (s s' : Store) (k : Slot) (item : Item) : Prop :=
  ∀ k', s'.item? k' = if k' = k then some item else s.item? k'

theorem map_get?_put {α β : Type} (t : Table α) (p q : Place) (a : α) (g : α → β) :
    ((t.put p a).get? q).map g = if q = p then some (g a) else (t.get? q).map g := by
  rw [Table.get?_put]
  split <;> rfl

theorem fills_apply (s : Store) (m : Manifest) :
    s.Fills (s.apply m) m.slot (.manifest (s.settled m)) := by
  rintro ⟨kind, p⟩
  cases m <;> cases kind <;>
    simp only [apply, item?, Manifest.slot, settled, Manifest.metadata, Slot.mk.injEq, true_and,
      reduceCtorEq, false_and, if_false]
  all_goals exact map_get?_put ..

theorem fills_putTest (s : Store) (p : Place) (t : Test) :
    s.Fills (s.putTest p t).1 ⟨.test, p⟩ (.test t.unversioned) := by
  rintro ⟨kind, q⟩
  cases kind with
  | test =>
    simp only [putTest_eq, item?, Slot.mk.injEq, true_and]
    exact map_get?_put ..
  | configMap | pod | serviceAccount | role | roleBinding => simp [putTest_eq, item?]

/-- The objects of two stores are the same, Tests up to their versions. -/
structure Alike (s s' : Store) : Prop where
  /-- The Tests. -/
  tests : ∀ p, (s.tests.get? p).map Test.unversioned = (s'.tests.get? p).map Test.unversioned
  /-- The ConfigMaps. -/
  configMaps : ∀ p, s.configMaps.get? p = s'.configMaps.get? p
  /-- The Pods. -/
  pods : ∀ p, s.pods.get? p = s'.pods.get? p
  /-- The identities. -/
  serviceAccounts : ∀ p, s.serviceAccounts.get? p = s'.serviceAccounts.get? p
  /-- The sets of rules. -/
  roles : ∀ p, s.roles.get? p = s'.roles.get? p
  /-- The rules given to identities. -/
  roleBindings : ∀ p, s.roleBindings.get? p = s'.roleBindings.get? p

theorem eq_of_map_manifest {α : Type} {g : α → Manifest} (hg : ∀ {a b}, g a = g b → a = b)
    {o o' : Option α} (h : (o.map fun a => Item.manifest (g a)) = o'.map fun a => .manifest (g a)) :
    o = o' :=
  Option.map_injective (fun _ _ he => hg (Item.manifest.inj he)) h

theorem Alike.of_item? {s s' : Store} (h : ∀ k, s.item? k = s'.item? k) : s.Alike s' where
  tests p := by
    have ht := h ⟨.test, p⟩
    simp only [item?] at ht
    refine Option.map_injective (f := Item.test) (fun _ _ he => Item.test.inj he) ?_
    rw [Option.map_map, Option.map_map]
    exact ht
  configMaps p := eq_of_map_manifest Manifest.configMap.inj (h ⟨.configMap, p⟩)
  pods p := eq_of_map_manifest Manifest.pod.inj (h ⟨.pod, p⟩)
  serviceAccounts p := eq_of_map_manifest Manifest.serviceAccount.inj (h ⟨.serviceAccount, p⟩)
  roles p := eq_of_map_manifest Manifest.role.inj (h ⟨.role, p⟩)
  roleBindings p := eq_of_map_manifest Manifest.roleBinding.inj (h ⟨.roleBinding, p⟩)

end Store

/-! ### What belongs to a Test -/

/-- The objects of a generation of the Test at one place are kept at the other one. -/
def Place.Generates (p o : Place) : Prop :=
  ∃ id : String, id.length = 36 ∧ o = GenerationKey.place ⟨p.namespaceName, p.name, id⟩

/-- No two Tests have the objects of their generations at one place. -/
theorem Place.Generates.eq {p q o : Place} (hp : p.Generates o) (hq : q.Generates o) : p = q := by
  obtain ⟨id, hl, rfl⟩ := hp
  obtain ⟨id', hl', h⟩ := hq
  obtain ⟨hn, ht, -⟩ := GenerationKey.mk.inj ((GenerationKey.place_inj (hl.trans hl'.symm)).1 h)
  exact (Place.mk.injEq ..).mpr ⟨hn, ht⟩

/-- The slots that belong to the Test at a place: its own, and those of its generations. -/
def Place.Owns (p : Place) : Slot → Prop
  | ⟨.test, o⟩ => o = p
  | ⟨.configMap, o⟩ | ⟨.pod, o⟩ => p.Generates o
  | ⟨.serviceAccount, _⟩ | ⟨.role, _⟩ | ⟨.roleBinding, _⟩ => False

theorem Place.Owns.eq {p q : Place} {k : Slot} (hp : p.Owns k) (hq : q.Owns k) : p = q := by
  obtain ⟨kind, o⟩ := k
  cases kind with
  | test => exact hp.symm.trans hq
  | configMap | pod => exact Place.Generates.eq hp hq
  | serviceAccount | role | roleBinding => exact hp.elim

/-- What every Test of the namespace fills a slot with, if they share it. -/
def Slot.shared? : Slot → Option Manifest
  | ⟨.test, _⟩ | ⟨.configMap, _⟩ | ⟨.pod, _⟩ => none
  | ⟨.serviceAccount, o⟩ => some (.serviceAccount (Viewer.serviceAccount o.namespaceName))
  | ⟨.role, o⟩ => some (.role (Viewer.role o.namespaceName))
  | ⟨.roleBinding, o⟩ => some (.roleBinding (Viewer.roleBinding o.namespaceName))

theorem Place.Owns.shared?_eq_none {p : Place} {k : Slot} (h : p.Owns k) : k.shared? = none := by
  obtain ⟨kind, o⟩ := k
  cases kind with
  | test | configMap | pod => rfl
  | serviceAccount | role | roleBinding => exact h.elim

/-- What may be put into a slot on behalf of the Test at a place. -/
def Place.MayFill (p : Place) (k : Slot) (item : Item) : Prop :=
  p.Owns k ∨ ∃ m, k.shared? = some m ∧ item = .manifest m

/-- Into one slot different Tests put the same. -/
theorem Place.MayFill.eq {p q : Place} (hpq : p ≠ q) {k : Slot} {item item' : Item}
    (hp : p.MayFill k item) (hq : q.MayFill k item') : item = item' := by
  rcases hp with hp | ⟨m, hm, rfl⟩ <;> rcases hq with hq | ⟨m', hm', rfl⟩
  · exact absurd (hp.eq hq) hpq
  · rw [hp.shared?_eq_none] at hm'
    cases hm'
  · rw [hq.shared?_eq_none] at hm
    cases hm
  · rw [hm] at hm'
    exact congrArg Item.manifest (Option.some.inj hm')

/-! ### Merges -/

namespace Store

/-- Of a store nothing was changed but on behalf of the Test at a place. -/
def ChangedFor (p : Place) (base s : Store) : Prop :=
  ∀ k, s.item? k = base.item? k ∨ ∃ item, s.item? k = some item ∧ p.MayFill k item

theorem ChangedFor.refl (p : Place) (s : Store) : s.ChangedFor p s := fun _ => Or.inl rfl

theorem ChangedFor.fill {p : Place} {base s s' : Store} {k : Slot} {item : Item}
    (h : base.ChangedFor p s) (hf : s.Fills s' k item) (hc : p.MayFill k item) :
    base.ChangedFor p s' := by
  intro k'
  rw [hf k']
  split
  · next hk =>
    subst hk
    exact Or.inr ⟨item, rfl, hc⟩
  · exact h k'

/-- What one has made of a slot, and what another one has, put together. -/
def Merges (base left right both : Store) : Prop :=
  ∀ k, left.item? k = base.item? k ∧ both.item? k = right.item? k ∨
    right.item? k = base.item? k ∧ both.item? k = left.item? k ∨
    left.item? k = right.item? k ∧ both.item? k = left.item? k

variable {base left right both : Store}

theorem Merges.refl (s : Store) : s.Merges s s s := fun _ => Or.inl ⟨rfl, rfl⟩

theorem Merges.symm (h : base.Merges left right both) : base.Merges right left both := by
  intro k
  rcases h k with h | h | ⟨he, hb⟩
  · exact Or.inr (Or.inl h)
  · exact Or.inl h
  · exact Or.inr (Or.inr ⟨he.symm, hb.trans he⟩)

/-- A merge is determined by what is merged. -/
theorem Merges.alike {both' : Store} (h : base.Merges left right both)
    (h' : base.Merges left right both') : both.Alike both' := by
  refine .of_item? fun k => ?_
  rcases h k with ⟨hl, hb⟩ | ⟨hr, hb⟩ | ⟨he, hb⟩ <;>
    rcases h' k with ⟨hl', hb'⟩ | ⟨hr', hb'⟩ | ⟨he', hb'⟩ <;>
    simp_all

/-- A slot that the right has not changed is as the left has left it. -/
theorem Merges.item?_eq (h : base.Merges left right both) {k : Slot}
    (hr : right.item? k = base.item? k) : both.item? k = left.item? k := by
  rcases h k with ⟨hl, hb⟩ | ⟨-, hb⟩ | ⟨-, hb⟩
  · exact hb.trans (hr.trans hl.symm)
  · exact hb
  · exact hb

/-- What belongs to the Test of the left is as the left has left it. -/
theorem Merges.item?_of_owns (h : base.Merges left right both) {p q : Place} (hpq : p ≠ q)
    (hr : base.ChangedFor q right) {k : Slot} (hk : p.Owns k) : both.item? k = left.item? k := by
  refine h.item?_eq ?_
  rcases hr k with hr | ⟨item, -, hq | ⟨m, hm, -⟩⟩
  · exact hr
  · exact absurd (hk.eq hq) hpq
  · rw [hk.shared?_eq_none] at hm
    cases hm

/-- The left fills a slot, by itself and beside the right. -/
theorem Merges.fill (h : base.Merges left right both) {p q : Place} (hpq : p ≠ q)
    (hr : base.ChangedFor q right) {left' both' : Store} {k : Slot} {item : Item}
    (hl : left.Fills left' k item) (hb : both.Fills both' k item) (hc : p.MayFill k item) :
    base.Merges left' right both' := by
  intro k'
  rw [hl k', hb k']
  split
  · next hk =>
    subst hk
    rcases hr k' with hr | ⟨item', hi, hc'⟩
    · exact Or.inr (Or.inl ⟨hr, rfl⟩)
    · exact Or.inr (Or.inr ⟨by rw [hi, hc.eq hpq hc'], rfl⟩)
  · exact h k'

end Store

end Proctor
