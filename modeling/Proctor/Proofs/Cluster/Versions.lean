import Proctor.Rehearsal.Edit

/-!
# Versions of stored Tests

Whatever is done to a store, at most one Test is stored by it, under a version that no Test had
before, and a Test that is not stored anew is left as it was or taken away (`Store.Change`). So a
version tells which Test it was given to: among all Tests that were ever stored no two have the same
one (`Store.History.unique`). This is what makes it safe to write under the version that was seen.

## What is left out

Versions are counted up here, which is one way to make them differ. A cluster promises no more than
that they do: it need not count, and to those who read its versions they are no numbers.
-/

namespace Proctor

/-! ### Tables -/

namespace Table

variable {α : Type} {t : Table α} {p : Place} {a : α}

theorem mem_of_get? (h : t.get? p = some a) : (p, a) ∈ t.entries := by
  obtain ⟨before, after, h, -⟩ := List.lookup_eq_some_iff.1 h
  simp [h]

theorem mem_put_iff {e : Place × α} :
    e ∈ (t.put p a).entries ↔ e = (p, a) ∨ e ∈ t.entries ∧ e.1 ≠ p := by
  simp [put]

theorem mem_of_mem_erase {e : Place × α} (h : e ∈ (t.erase p).entries) : e ∈ t.entries :=
  (List.mem_filter.1 h).1

theorem get?_erase (t : Table α) (p q : Place) :
    (t.erase p).get? q = if q = p then none else t.get? q := by
  by_cases h : q = p
  · subst h
    rw [if_pos rfl, get?, erase, List.lookup_eq_none_iff]
    intro e he
    have hne : e.1 ≠ q := of_decide_eq_true (List.mem_filter.1 he).2
    simpa using hne.symm
  · rw [if_neg h]
    exact lookup_filter_ne p q h t.entries

end Table

/-! ### Versions -/

theorem toString_nat_inj {m n : Nat} : toString m = toString n ↔ m = n := by
  constructor
  · intro h
    have hd : Nat.toDigits 10 m = Nat.toDigits 10 n := by
      rw [← Nat.toList_repr, ← Nat.toList_repr]
      exact congrArg String.toList h
    rw [← Nat.ofDigitChars_ten_toDigits (n := m), hd, Nat.ofDigitChars_ten_toDigits]
  · rintro rfl
    rfl

namespace Test

/-- The version under which the Test was stored. -/
abbrev version? (t : Test) : Option String := t.metadata.resourceVersion

/-- The Test under the version of that number. -/
def numbered (t : Test) (n : Nat) : Test :=
  { t with metadata := { t.metadata with resourceVersion := some (toString n) } }

/-- The place that the status of a Test is written to. -/
def home (t : Test) : Place := ⟨t.metadata.namespaceName.getD "", t.nameAny⟩

theorem home_congr {t u : Test} (h : u.metadata = t.metadata) : u.home = t.home := by
  rw [home, home, nameAny, nameAny, h]

@[simp] theorem phase_numbered (t : Test) (n : Nat) : (t.numbered n).phase = t.phase := rfl

end Test

namespace Store

variable {s s' : Store} {past : List Test}

theorem putTest_eq (s : Store) (p : Place) (t : Test) :
    s.putTest p t =
      ({ s with tests := s.tests.put p (t.numbered (s.versions + 1)), versions := s.versions + 1 },
        t.numbered (s.versions + 1)) := rfl

/-- What may become of the Tests of a store: one is stored under the next version, at the place that
its metadata tell, or none is stored anew. -/
inductive Change (s s' : Store) : Prop where
  /-- A Test is stored. -/
  | stored (p : Place) (t : Test) (hp : t.metadata.place = p)
    (ht : s'.tests = s.tests.put p (t.numbered (s.versions + 1)))
    (hv : s'.versions = s.versions + 1)
  /-- Nothing is stored anew. -/
  | fewer (ht : ∀ e ∈ s'.tests.entries, e ∈ s.tests.entries) (hv : s'.versions = s.versions)

theorem Change.of_eq (ht : s'.tests = s.tests) (hv : s'.versions = s.versions) : Change s s' :=
  .fewer (by simp [ht]) hv

theorem change_putTest (s : Store) {p : Place} {t : Test} (hp : t.metadata.place = p) :
    Change s (s.putTest p t).1 := .stored p t hp rfl rfl

/-- Which Tests were ever stored: those that are stored now are among them, each at its place, and
each has a version of its own. -/
structure History (s : Store) (past : List Test) : Prop where
  /-- What is stored now was stored at some time. -/
  stored : ∀ e ∈ s.tests.entries, e.2 ∈ past
  /-- A Test is stored at the place that its metadata tell. -/
  placed : ∀ e ∈ s.tests.entries, e.2.metadata.place = e.1
  /-- Every version was given out. -/
  known : ∀ t ∈ past, ∃ n ≤ s.versions, t.version? = some (toString n)
  /-- No version was given out twice. -/
  unique : ∀ t ∈ past, ∀ u ∈ past, t.version? = u.version? → t = u

theorem History.empty : History {} [] where
  stored := by simp
  placed := by simp
  known := by simp
  unique := by simp

/-- The next version is new. -/
theorem History.version_ne (h : History s past) {t : Test} (ht : t ∈ past) :
    t.version? ≠ some (toString (s.versions + 1)) := by
  obtain ⟨n, hn, hv⟩ := h.known t ht
  rw [hv, Ne, Option.some.injEq, toString_nat_inj]
  omega

theorem History.mem_of_get? (h : History s past) {p : Place} {t : Test}
    (ht : s.tests.get? p = some t) : t ∈ past := h.stored _ (Table.mem_of_get? ht)

theorem History.place_of_get? (h : History s past) {p : Place} {t : Test}
    (ht : s.tests.get? p = some t) : t.metadata.place = p := h.placed _ (Table.mem_of_get? ht)

/-- What is stored at no time but now is the Test that is stored anew. -/
theorem History.mem_put (h : History s past) {p : Place} {t u : Test}
    (ht : s'.tests = s.tests.put p t) (hu : u ∈ s'.tests.entries.map Prod.snd ++ past) :
    u = t ∨ u ∈ past := by
  rcases List.mem_append.1 hu with hu | hu
  · obtain ⟨e, he, rfl⟩ := List.mem_map.1 hu
    rcases Table.mem_put_iff.1 (ht ▸ he) with rfl | ⟨he, -⟩
    · exact Or.inl rfl
    · exact Or.inr (h.stored e he)
  · exact Or.inr hu

theorem History.mem_fewer (h : History s past) {u : Test}
    (ht : ∀ e ∈ s'.tests.entries, e ∈ s.tests.entries)
    (hu : u ∈ s'.tests.entries.map Prod.snd ++ past) : u ∈ past := by
  rcases List.mem_append.1 hu with hu | hu
  · obtain ⟨e, he, rfl⟩ := List.mem_map.1 hu
    exact h.stored e (ht e he)
  · exact hu

/-- A change of the store goes on with its history. -/
theorem History.change (h : History s past) (hc : Change s s') :
    History s' (s'.tests.entries.map Prod.snd ++ past) := by
  cases hc with
  | fewer ht hv =>
    exact {
      stored := fun e he => List.mem_append_left _ (List.mem_map_of_mem he)
      placed := fun e he => h.placed e (ht e he)
      known := fun t hm => hv ▸ h.known t (h.mem_fewer ht hm)
      unique := fun t hm u hm' => h.unique t (h.mem_fewer ht hm) u (h.mem_fewer ht hm') }
  | stored p t hp ht hv =>
    refine {
      stored := fun e he => List.mem_append_left _ (List.mem_map_of_mem he)
      placed := fun e he => ?_
      known := fun u hu => ?_
      unique := fun u hu v hu' he => ?_ }
    · rcases Table.mem_put_iff.1 (ht ▸ he) with rfl | ⟨he, -⟩
      · exact hp
      · exact h.placed e he
    · rcases h.mem_put ht hu with rfl | hu
      · exact ⟨_, Nat.le_of_eq hv.symm, rfl⟩
      · obtain ⟨n, hn, hu⟩ := h.known u hu
        exact ⟨n, by omega, hu⟩
    · rcases h.mem_put ht hu with rfl | hu <;> rcases h.mem_put ht hu' with rfl | hu'
      · rfl
      · exact absurd he.symm (h.version_ne hu')
      · exact absurd he (h.version_ne hu)
      · exact h.unique u hu v hu' he

/-- Once a Test was replaced or taken away, its version is not stored any more, and never again. -/
def Spent (s : Store) (version : Option String) : Prop :=
  ∀ e ∈ s.tests.entries, e.2.version? ≠ version

theorem Spent.change (h : History s past) {t : Test} (ht : t ∈ past) (hs : s.Spent t.version?)
    (hc : Change s s') : s'.Spent t.version? := by
  intro e he
  cases hc with
  | fewer ht' hv => exact hs e (ht' e he)
  | stored p u hp ht' hv =>
    rcases Table.mem_put_iff.1 (ht' ▸ he) with rfl | ⟨he, -⟩
    · exact fun hv' => h.version_ne ht hv'.symm
    · exact hs e he

/-- A Test that another one is stored in place of has its version spent. -/
theorem History.spent_of_put (h : History s past) {p : Place} {t u : Test}
    (ht : s.tests.get? p = some t)
    (hu : s'.tests = s.tests.put p (u.numbered (s.versions + 1))) : s'.Spent t.version? := by
  intro e he hv
  rcases Table.mem_put_iff.1 (hu ▸ he) with rfl | ⟨he, hp⟩
  · exact h.version_ne (h.mem_of_get? ht) hv.symm
  · obtain rfl : e.2 = t := h.unique _ (h.stored e he) _ (h.mem_of_get? ht) hv
    exact hp ((h.placed e he).symm.trans (h.place_of_get? ht))

/-! ### Writing a status -/

/-- What is stored when a status is written over a Test. -/
def overwritten (s : Store) (old t : Test) : Test :=
  ({ old with status := t.status } : Test).numbered (s.versions + 1)

/-- A status is written just if the Test carries the version that is stored; else nothing
changes. -/
theorem writeStatus_cases (s : Store) (t : Test) :
    (∃ old, s.tests.get? t.home = some old ∧ old.version? = t.version? ∧
      s.writeStatus t = (.ok (s.overwritten old t),
        (s.putTest t.home { old with status := t.status }).1)) ∨
    (∃ old, s.tests.get? t.home = some old ∧ old.version? ≠ t.version? ∧
      s.writeStatus t = (.error modified, s)) ∨
    s.tests.get? t.home = none ∧ s.writeStatus t = (.error notFound, s) := by
  cases hg : s.tests.get? t.home with
  | none =>
    refine Or.inr (Or.inr ⟨rfl, ?_⟩)
    simp only [writeStatus]
    rw [← Test.home, hg]
  | some old =>
    by_cases hv : old.version? = t.version?
    · refine Or.inl ⟨old, rfl, hv, ?_⟩
      simp only [writeStatus]
      rw [← Test.home, hg]
      simp only [hv, if_true]
      rfl
    · refine Or.inr (Or.inl ⟨old, rfl, hv, ?_⟩)
      simp only [writeStatus]
      rw [← Test.home, hg]
      simp only [hv, if_false]

end Store

/-! ### Edits -/

namespace Rehearsal

variable {s s' : Store}

theorem changeTest_eq_ok {α : Type} {p : Place} {a : Option α} {change : α → Test → Test}
    {r : EditAnswer} (h : changeTest s p a change = .ok (r, s')) :
    ∃ t b, s.tests.get? p = some t ∧ a = some b ∧ s' = (s.putTest p (change b t)).1 := by
  rw [changeTest] at h
  split at h
  · cases h
  · next t ht =>
    cases a with
    | none => cases h
    | some b =>
      cases h
      exact ⟨t, b, ht, rfl, rfl⟩

theorem changePod_eq_ok {p : Place} {status : Option (Option PodStatus)} {r : EditAnswer}
    (h : changePod s p status = .ok (r, s')) :
    ∃ pod st, s.pods.get? p = some pod ∧
      s' = { s with pods := s.pods.put p { pod with status := st } } := by
  cases status with
  | none => cases h
  | some status =>
    simp only [changePod, withReadable] at h
    split at h
    · cases h
    · next pod hp =>
      cases h
      exact ⟨pod, status, hp, rfl⟩

/-- Whether an edit is about Pods. -/
def Edit.aboutPods : Edit → Bool
  | .putPod _ | .podStatus _ _ | .generationStatus _ _ | .deletePod _ => true
  | _ => false

theorem Edit.after_of_perform {e : Edit} {r : EditAnswer} (h : e.perform s = .ok (r, s')) :
    e.after s = s' := by
  rw [Edit.after, h]

/-- An edit is refused, or it is performed. -/
theorem Edit.after_eq_or (e : Edit) (s : Store) :
    e.after s = s ∨ ∃ r, e.perform s = .ok (r, e.after s) := by
  cases h : e.perform s with
  | error f => exact Or.inl (by rw [Edit.after, h])
  | ok r => exact Or.inr ⟨r.1, by rw [after_of_perform h]⟩

theorem Edit.after_of_aboutPods {e : Edit} (he : e.aboutPods = true) (s : Store) :
    ∃ pods, e.after s = { s with pods } := by
  rcases e.after_eq_or s with h | ⟨r, h⟩
  · exact ⟨s.pods, h⟩
  · cases e with
    | putPod pod =>
      cases pod with
      | none => cases h
      | some pod => exact ⟨_, rfl⟩
    | podStatus p status =>
      obtain ⟨pod, st, -, hs⟩ := changePod_eq_ok h
      exact ⟨_, hs⟩
    | generationStatus p status =>
      simp only [Edit.perform] at h
      split at h
      · cases h
      · obtain ⟨pod, st, -, hs⟩ := changePod_eq_ok h
        exact ⟨_, hs⟩
    | deletePod p => exact ⟨_, rfl⟩
    | putTest _ | setSpec _ _ | setStatus _ _ | setPhase _ _ | setUid _ _ | deleteTest _ => cases he

theorem Edit.after_setSpec {p : Place} {t : Test} {spec : Spec} (h : s.tests.get? p = some t) :
    (Edit.setSpec p (some spec)).after s = (s.putTest p { t with spec }).1 := by
  simp [Edit.after, perform, changeTest, withReadable, h]

/-- What an edit may do: it stores one Test, or a change of one at its place, or it takes a Test
away, or it is about Pods. -/
theorem Edit.after_cases (e : Edit) (s : Store) :
    (∃ t, e.after s = (s.putTest t.metadata.place t).1) ∨
    (∃ p t u, s.tests.get? p = some t ∧ e.after s = (s.putTest p u).1 ∧
      u.metadata.place = t.metadata.place) ∨
    (∃ p, e.after s = { s with tests := s.tests.erase p }) ∨
    ∃ pods, e.after s = { s with pods } := by
  rcases e.after_eq_or s with h | ⟨r, h⟩
  · exact Or.inr (Or.inr (Or.inr ⟨s.pods, h⟩))
  · cases e with
    | putTest t =>
      cases t with
      | none => cases h
      | some t => exact Or.inl ⟨t, rfl⟩
    | setSpec p _ | setStatus p _ | setPhase p _ | setUid p _ =>
      obtain ⟨t, b, ht, -, hs⟩ := changeTest_eq_ok h
      exact Or.inr (Or.inl ⟨p, t, _, ht, hs, rfl⟩)
    | deleteTest p => exact Or.inr (Or.inr (Or.inl ⟨p, rfl⟩))
    | putPod _ | podStatus _ _ | generationStatus _ _ | deletePod _ =>
      exact Or.inr (Or.inr (Or.inr (after_of_aboutPods rfl s)))

/-- The Test that an edit stores. -/
inductive Edit.Stores (s : Store) : Edit → Test → Prop where
  /-- A Test is made, or another one takes its place. -/
  | made (t : Test) : Stores s (.putTest (some t)) (t.numbered (s.versions + 1))
  /-- A Test gets another spec. -/
  | respecified {p : Place} {t : Test} (spec : Spec) (ht : s.tests.get? p = some t) :
    Stores s (.setSpec p (some spec)) (({ t with spec } : Test).numbered (s.versions + 1))
  /-- A Test gets another status, or none. -/
  | restated {p : Place} {t : Test} (status : Option Status) (ht : s.tests.get? p = some t) :
    Stores s (.setStatus p (some status)) (({ t with status } : Test).numbered (s.versions + 1))
  /-- A Test gets another phase. -/
  | moved {p : Place} {t : Test} (phase : Phase) (ht : s.tests.get? p = some t) :
    Stores s (.setPhase p (some phase))
      ((t.withStatus fun st => { st with phase }).numbered (s.versions + 1))
  /-- A Test gets another identity. -/
  | renamed {p : Place} {t : Test} (uid : Option String) (ht : s.tests.get? p = some t) :
    Stores s (.setUid p (some uid))
      (({ t with metadata := { t.metadata with uid } } : Test).numbered (s.versions + 1))

/-- A Test that is stored after an edit was stored before, or the edit has stored it. -/
theorem Edit.mem_after {e : Edit} {p : Place} {u : Test}
    (hu : (p, u) ∈ (e.after s).tests.entries) : (p, u) ∈ s.tests.entries ∨ e.Stores s u := by
  have hput : ∀ {q : Place} {v : Test}, e.after s = (s.putTest q v).1 →
      e.Stores s (v.numbered (s.versions + 1)) → (p, u) ∈ s.tests.entries ∨ e.Stores s u := by
    intro q v hv hst
    rw [hv, Store.putTest_eq] at hu
    rcases Table.mem_put_iff.1 hu with h | ⟨h, -⟩
    · obtain ⟨-, rfl⟩ := Prod.mk.inj h
      exact Or.inr hst
    · exact Or.inl h
  by_cases hp : e.aboutPods = true
  · obtain ⟨pods, hv⟩ := after_of_aboutPods hp s
    exact Or.inl (by rwa [hv] at hu)
  rcases e.after_eq_or s with h | ⟨r, h⟩
  · exact Or.inl (h ▸ hu)
  · cases e with
    | putTest t =>
      cases t with
      | none => cases h
      | some t => exact hput rfl (.made t)
    | setSpec q _ =>
      obtain ⟨t, spec, ht, rfl, hv⟩ := changeTest_eq_ok h
      exact hput hv (.respecified spec ht)
    | setStatus q _ =>
      obtain ⟨t, status, ht, rfl, hv⟩ := changeTest_eq_ok h
      exact hput hv (.restated status ht)
    | setPhase q _ =>
      obtain ⟨t, phase, ht, rfl, hv⟩ := changeTest_eq_ok h
      exact hput hv (.moved phase ht)
    | setUid q _ =>
      obtain ⟨t, uid, ht, rfl, hv⟩ := changeTest_eq_ok h
      exact hput hv (.renamed uid ht)
    | deleteTest q => exact Or.inl (Table.mem_of_mem_erase hu)
    | putPod _ | podStatus _ _ | generationStatus _ _ | deletePod _ => exact absurd rfl hp

theorem Edit.change_after (e : Edit) {past : List Test} (h : s.History past) :
    s.Change (e.after s) := by
  rcases e.after_cases s with ⟨t, h'⟩ | ⟨p, t, u, ht, h', hu⟩ | ⟨p, h'⟩ | ⟨pods, h'⟩
  · exact h' ▸ s.change_putTest rfl
  · exact h' ▸ s.change_putTest (hu.trans (h.place_of_get? ht))
  · exact h' ▸ .fewer (fun _ => Table.mem_of_mem_erase) rfl
  · exact h' ▸ .of_eq rfl rfl

end Rehearsal

end Proctor
