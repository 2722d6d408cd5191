import Proctor.Proofs.Concurrency.Reports
import Proctor.Proofs.Concurrency.Statuses
import Proctor.Proofs.Workload.Generations

/-!
# Generations keep apart

Any number of controllers work on any number of Tests. An id is given out before the write that
records it, so ids are given out that no Test ever has: the write met a conflict, it was given up,
or the Test was refused. Objects are applied from copies of Tests that are `Pending`, and a Test
becomes `Pending` only by a write that has begun its generation; edits of its spec keep its id, and
a client that sets its phase sets another one. So the id of an object is one that was recorded
(`Reaches.lineage`), and as no id is given out twice, it was given out for nothing else. Ids of one
length keep the names apart, so what is applied for one generation never takes the place of an
object of another one.

## What is left out

Ids are made by chance, so that no id is given out twice is likely and not certain. Here it is a
condition on the moves (`System.Issuing`), and so is the length of the ids.
-/

namespace Proctor

/-- The id that was given out, if this was the giving out of one. -/
def Exchange.issued? : Exchange → Option String
  | ⟨.freshId, id⟩ => some id
  | _ => none

/-- At each place there is at most one object. -/
def Table.Keyed {α : Type} (t : Table α) : Prop := (t.entries.map Prod.fst).Nodup

namespace Table

variable {α : Type} {t : Table α}

theorem Keyed.erase (h : t.Keyed) (p : Place) : (t.erase p).Keyed :=
  h.sublist (List.filter_sublist.map _)

theorem Keyed.put (h : t.Keyed) (p : Place) (a : α) : (t.put p a).Keyed := by
  refine List.nodup_cons.2 ⟨fun hm => ?_, h.erase p⟩
  obtain ⟨e, he, hp⟩ := List.mem_map.1 hm
  exact absurd hp (of_decide_eq_true (List.mem_filter.1 he).2)

end Table

namespace Rehearsal

/-- Only controllers make Pods, and a Test keeps its identity. -/
def Edit.keepsIdentities : Edit → Bool
  | .putPod _ | .setUid _ _ => false
  | _ => true

end Rehearsal

/-! ### What a controller applies -/

/-- A write that leaves a Test `Pending` has begun a generation with the id just given out. -/
theorem Computes.begun_of_pending {config : Config} {t u : Test} {a : Action}
    {es : List Exchange} (h : Computes config t a es u) (hp : u.phase = .pending) :
    a = .initiate ∧ ∃ id, es = [⟨.freshId, id⟩] ∧ u.testId? = some id := by
  cases h with
  | begun id hc => exact ⟨rfl, id, rfl, rfl⟩
  | refused id now hc => cases hp
  | started now hn hw => cases hp
  | judged now hn hv => cases hv <;> cases hp
  | restarted hd => cases hp

namespace Task

/-- The controller asks for an id. -/
def asksId (t : Task) : Bool :=
  match t.rest with
  | .ask .freshId _ => true
  | _ => false

/-- A controller has applied an object, or is about to. -/
def Applies (t : Task) (m : Manifest) : Prop :=
  (∃ x, ⟨.apply m, x⟩ ∈ t.heard) ∨ ∃ next, t.rest = .ask (.apply m) next

theorem Applies.walk {t : Task} {m : Manifest} (h : t.Applies m) :
    ∃ es fs next, t.heard = es ++ fs ∧ t.job.program.Walk es (.ask (.apply m) next) := by
  have hwalk := t.walk
  rcases h with ⟨x, hx⟩ | ⟨next, hr⟩
  · obtain ⟨es, fs, hh⟩ := List.append_of_mem hx
    rw [hh, Program.walk_append_cons_iff] at hwalk
    obtain ⟨next, hw, -⟩ := hwalk
    exact ⟨es, _, next, hh, hw⟩
  · rw [hr] at hwalk
    exact ⟨t.heard, [], next, (List.append_nil _).symm, hwalk⟩

theorem Applies.hear {t : Task} {m : Manifest} (h : t.Applies m) {q : Query}
    {next : q.Answer → Program t.job.Result} (hq : t.rest = .ask q next) (x : q.Answer) :
    (t.hear hq x).Applies m := by
  rcases h with ⟨y, hy⟩ | ⟨next', hr⟩
  · exact Or.inl ⟨y, List.mem_append_left _ hy⟩
  · obtain ⟨rfl, -⟩ := Program.ask.inj (hr.symm.trans hq)
    exact Or.inl ⟨x, List.mem_append_right _ List.mem_cons_self⟩

end Task

namespace Store

/-- The ConfigMaps and Pods of a store change only with an object that is applied. -/
theorem answer_objects (s : Store) (f : Fate) (q : Query) :
    (s.answer f q).2.configMaps = s.configMaps ∧ (s.answer f q).2.pods = s.pods ∨
      ∃ m, q = .apply m ∧ (s.answer f q).2 = s.apply m := by
  have hcall : ∀ {α : Type} (r : Except Fault α × Store),
      r.2.configMaps = s.configMaps ∧ r.2.pods = s.pods →
      (f.call s r).2.configMaps = s.configMaps ∧ (f.call s r).2.pods = s.pods := by
    intro α r hr
    rcases f.call_eq_or s r with ⟨e, he⟩ | he
    · rw [he]
      exact ⟨rfl, rfl⟩
    · rwa [he]
  cases q with
  | freshId | clock => exact Or.inl ⟨rfl, rfl⟩
  | getTest n k => exact Or.inl (hcall _ ⟨rfl, rfl⟩)
  | getPod n k => exact Or.inl (hcall _ ⟨rfl, rfl⟩)
  | writeStatus t =>
    refine Or.inl (hcall _ ?_)
    rcases s.writeStatus_cases t with ⟨old, -, -, hw⟩ | ⟨old, -, -, hw⟩ | ⟨-, hw⟩
    all_goals
      rw [hw]
      exact ⟨rfl, rfl⟩
  | apply m =>
    rcases f.call_eq_or s (.ok (), s.apply m) with ⟨e, he⟩ | he
    · exact Or.inl ⟨by rw [answer, he], by rw [answer, he]⟩
    · exact Or.inr ⟨m, rfl, by rw [answer, he]⟩

end Store

/-! ### All controllers -/

namespace System

variable {s : System}

/-- The ids that were given out. -/
def ids (s : System) : List String :=
  s.tasks.flatMap fun t => t.heard.filterMap Exchange.issued?

/-- The controller of that number asks for an id. -/
def asksId (s : System) (i : Nat) : Bool := (s.tasks[i]?.map Task.asksId).getD false

/-- Controllers reconcile, each from a Test that was stored at some time; clients leave statuses,
Pods and identities alone; and an id that is given out has 36 characters, and never was given out
before. -/
def Issuing (s : System) : Move → Prop
  | .edit e => e.LeavesStatus ∧ e.keepsIdentities = true
  | .launch j => s.Reconciling (.launch j)
  | .answer i f => s.asksId i = true → f.id.length = 36 ∧ f.id ∉ s.ids

theorem Issuing.reconciling {m : Move} (h : s.Issuing m) : s.Reconciling m := by
  cases m with
  | launch j => exact h
  | edit _ | answer _ _ => trivial

theorem Reaches.issued_reconciling (h : Reaches Issuing s) : Reaches Reconciling s :=
  h.mono fun _ _ => Issuing.reconciling

theorem Reaches.issued_sound (h : Reaches Issuing s) : s.Sound :=
  h.sound fun _ _ hm => hm.reconciling.known

/-! #### Ids -/

/-- A Test that is `Pending` is one whose generation was begun by a write, but for its spec. -/
theorem Reaches.lineage (h : Reaches Issuing s) :
    ∀ u ∈ s.past, u.phase = .pending → ∃ w ∈ s.writes, u.status = w.after.status ∧
      u.metadata = { w.after.metadata with resourceVersion := u.version? } := by
  induction h with
  | empty => simp
  | @step s m h hm ih =>
    intro u hu hp
    have hold : ∀ t ∈ s.past, t.phase = .pending → u.status = t.status →
        u.metadata = { t.metadata with resourceVersion := u.version? } →
        ∃ w ∈ (s.step m).writes, u.status = w.after.status ∧
          u.metadata = { w.after.metadata with resourceVersion := u.version? } := by
      intro t ht hp hs hmeta
      obtain ⟨w, hw, hws, hwm⟩ := ih t ht hp
      rw [hwm] at hmeta
      exact ⟨w, mem_writes_step hw, hs.trans hws, hmeta⟩
    have hpast : ∀ {p t}, s.store.tests.get? p = some t → t ∈ s.past :=
      h.issued_sound.history.mem_of_get?
    rcases h.issued_sound.mem_past_step hu with hu | ⟨e, rfl, hst⟩ | ⟨w, hw, -, rfl⟩
    · exact hold u hu hp rfl rfl
    · cases hst with
      | made t =>
        have hs : t.status = none := hm.1 t rfl
        rw [Test.phase_numbered, Test.phase, hs] at hp
        cases hp
      | respecified spec ht => exact hold _ (hpast ht) hp rfl rfl
      | restated status ht => exact hm.1.elim
      | moved phase ht =>
        obtain rfl : phase = .pending := hp
        exact absurd (hm.1 _ rfl) (by decide)
      | renamed uid ht => exact absurd hm.2 Bool.false_ne_true
    · exact ⟨w, hw, rfl, rfl⟩

/-- What is applied is called after a Test into whose stored status the id was written by a write
that has begun its generation; or it is the viewer identity of the namespace of such a Test. -/
theorem Reaches.applied (h : Reaches Issuing s) {t : Task} (ht : t ∈ s.tasks) {m : Manifest}
    (hm : t.Applies m) :
    ∃ w ∈ s.writes, ∃ es namespaceName id, w.job.action = .initiate ∧ w.after.phase = .pending ∧
      w.heard = es ++ [⟨.freshId, id⟩] ∧ w.after.testId? = some id ∧
      w.after.metadata.namespaceName = some namespaceName ∧
      (m.isWorkload = false ∧ m.metadata = Viewer.metadata namespaceName ∨
        ∃ owner, w.after.ownerReference? = some owner ∧
          m.metadata = Workload.metadata w.after namespaceName id owner) := by
  have hs := h.issued_sound
  obtain ⟨es, fs, next, hh, hwalk⟩ := hm.walk
  obtain ⟨_, k, earlier, round, u, -, rfl, hr, ha, n, wl, hn, hwl, hmem⟩ := Job.walk_manifest hwalk
  -- the copy that was started was stored, and it was `Pending`
  have hu : u ∈ s.past :=
    (hs.tasks t ht).mem_of_retries hr (by rw [hh, List.append_assoc])
  have hp : u.phase = .pending := by
    have hhandles := Action.handles_iff.2
      ((h.issued_reconciling.actions.1 t ht).symm.trans ha)
    rw [hr.phase_eq rfl]
    exact of_decide_eq_true hhandles
  obtain ⟨w, hw, hst, hmeta⟩ := h.lineage u hu hp
  have hpw : w.after.phase = .pending := (Test.phase_congr hst).symm.trans hp
  have hname : u.nameAny = w.after.nameAny := by rw [Test.nameAny, hmeta]; rfl
  have howner : u.ownerReference? = w.after.ownerReference? := by
    rw [Test.ownerReference?, hmeta]
    rfl
  have hnw : w.after.metadata.namespaceName = some n := by
    rw [hmeta] at hn
    exact hn
  have hid : u.testId? = w.after.testId? := by rw [Test.testId?, hst]; rfl
  -- so its generation was begun by the write that it goes back to
  obtain ⟨_, _, es, _, -, -, hheard, -, hc⟩ := (hs.writes w hw).computed hs.history.unique
  obtain ⟨_, hafter⟩ := (hs.writes w hw).after
  have hpc : w.copy.phase = .pending := by
    rw [← hpw, hafter]
    rfl
  obtain ⟨hact, id, rfl, hidc⟩ := hc.begun_of_pending hpc
  have hidw : w.after.testId? = some id := by
    rw [hafter, ← hidc]
    rfl
  refine ⟨w, hw, es, n, id, hact, hpw, hheard, hidw, hnw, ?_⟩
  rcases Workload.metadata_of_mem_manifests hn hwl hmem with hv | ⟨-, id', owner, hid', ho, hm'⟩
  · refine Or.inl ?_
    simp only [List.mem_cons, List.not_mem_nil, or_false] at hv
    rcases hv with rfl | rfl | rfl <;> exact ⟨rfl, rfl⟩
  · obtain rfl : id' = id := Option.some.inj (hid'.symm.trans (hid.trans hidw))
    refine Or.inr ⟨owner, howner.symm.trans ho, hm'.trans ?_⟩
    rw [Workload.metadata, Workload.metadata, hname]

/-! #### What is stored -/

/-- Each object is kept at its place, and a controller has applied it. -/
structure Supplied (s : System) : Prop where
  /-- No two ConfigMaps are kept at one place. -/
  keyedMaps : s.store.configMaps.Keyed
  /-- No two Pods are kept at one place. -/
  keyedPods : s.store.pods.Keyed
  /-- A ConfigMap is as it was applied. -/
  configMaps : ∀ p c, (p, c) ∈ s.store.configMaps.entries →
    p = c.metadata.place ∧ ∃ t ∈ s.tasks, t.Applies (.configMap c)
  /-- A Pod is called as it was applied. -/
  pods : ∀ p pod, (p, pod) ∈ s.store.pods.entries →
    p = pod.metadata.place ∧ ∃ t ∈ s.tasks, ∃ pod', t.Applies (.pod pod') ∧
      pod.metadata = pod'.metadata

/-- What was applied is so after another move. -/
theorem exists_applies_step {t : Task} (ht : t ∈ s.tasks) (m : Move) :
    ∃ t' ∈ (s.step m).tasks, ∀ o, t.Applies o → t'.Applies o := by
  cases m with
  | edit e => exact ⟨t, ht, fun _ => id⟩
  | launch j => exact ⟨t, List.mem_append_left _ ht, fun _ => id⟩
  | answer i f =>
    rw [System.step]
    rcases s.answer_eq i f with ha | ⟨t₀, q, next, hq, ht₀, ha⟩
    · exact ⟨t, by rwa [ha], fun _ => id⟩
    · rw [ha]
      obtain ⟨k, hk⟩ := List.getElem?_of_mem ht
      by_cases hi : i = k
      · subst hi
        obtain rfl : t₀ = t := Option.some.inj (ht₀.symm.trans hk)
        exact ⟨_, List.mem_of_getElem? (task_hear hq f hk), fun _ ho => ho.hear hq _⟩
      · exact ⟨t, List.mem_of_getElem? ((task_hear_ne hq f hi).trans hk), fun _ => id⟩

/-- After a move, objects that were there before may stay, and others were just applied. -/
theorem Supplied.step (h : s.Supplied) {m : Move} (hkc : (s.step m).store.configMaps.Keyed)
    (hkp : (s.step m).store.pods.Keyed)
    (hc : ∀ p c, (p, c) ∈ (s.step m).store.configMaps.entries →
      (p, c) ∈ s.store.configMaps.entries ∨
        p = c.metadata.place ∧ ∃ t ∈ (s.step m).tasks, t.Applies (.configMap c))
    (hp : ∀ p pod, (p, pod) ∈ (s.step m).store.pods.entries →
      (∃ old, (p, old) ∈ s.store.pods.entries ∧ pod.metadata = old.metadata) ∨
        p = pod.metadata.place ∧ ∃ t ∈ (s.step m).tasks, ∃ pod', t.Applies (.pod pod') ∧
          pod.metadata = pod'.metadata) : (s.step m).Supplied where
  keyedMaps := hkc
  keyedPods := hkp
  configMaps p c hm := by
    rcases hc p c hm with hold | hnew
    · obtain ⟨hplace, t, ht, ha⟩ := h.configMaps p c hold
      obtain ⟨t', ht', hkeep⟩ := exists_applies_step ht m
      exact ⟨hplace, t', ht', hkeep _ ha⟩
    · exact hnew
  pods p pod hm := by
    rcases hp p pod hm with ⟨old, ho, hmeta⟩ | hnew
    · obtain ⟨hplace, t, ht, pod', ha, hmeta'⟩ := h.pods p old ho
      obtain ⟨t', ht', hkeep⟩ := exists_applies_step ht m
      exact ⟨hplace.trans (congrArg ObjectMeta.place hmeta.symm), t', ht', pod', hkeep _ ha,
        hmeta.trans hmeta'⟩
    · exact hnew

/-- One more object is applied. -/
theorem Supplied.applied (h : s.Supplied) {mv : Move} {m : Manifest}
    (hst : (s.step mv).store = s.store.apply m) (hnew : ∃ t ∈ (s.step mv).tasks, t.Applies m) :
    (s.step mv).Supplied := by
  obtain ⟨t, ht, ha⟩ := hnew
  cases m with
  | serviceAccount _ | role _ | roleBinding _ =>
    refine h.step ?_ ?_ (fun p c hm => ?_) (fun p pod hm => ?_) <;> rw [hst] at *
    · exact h.keyedMaps
    · exact h.keyedPods
    · exact Or.inl hm
    · exact Or.inl ⟨pod, hm, rfl⟩
  | configMap c =>
    refine h.step ?_ ?_ (fun p c' hm => ?_) (fun p pod hm => ?_) <;> rw [hst] at *
    · exact h.keyedMaps.put _ _
    · exact h.keyedPods
    · rcases Table.mem_put_iff.1 hm with hm | ⟨hm, -⟩
      · obtain ⟨rfl, rfl⟩ := Prod.mk.inj hm
        exact Or.inr ⟨rfl, t, ht, ha⟩
      · exact Or.inl hm
    · exact Or.inl ⟨pod, hm, rfl⟩
  | pod pod =>
    refine h.step ?_ ?_ (fun p c hm => ?_) (fun p pod' hm => ?_) <;> rw [hst] at *
    · exact h.keyedMaps
    · exact h.keyedPods.put _ _
    · exact Or.inl hm
    · rcases Table.mem_put_iff.1 hm with hm | ⟨hm, -⟩
      · obtain ⟨rfl, rfl⟩ := Prod.mk.inj hm
        exact Or.inr ⟨rfl, t, ht, pod, ha, rfl⟩
      · exact Or.inl ⟨pod', hm, rfl⟩

theorem Supplied.answered (h : s.Supplied) (i : Nat) (f : Fate) :
    (s.step (.answer i f)).Supplied := by
  have hstep : s.step (.answer i f) = s.answer i f := rfl
  rcases s.answer_eq i f with ha | ⟨t, q, next, hq, ht, ha⟩
  · rwa [hstep, ha]
  · have hstore : (s.step (.answer i f)).store = (s.store.answer f q).2 := by
      rw [hstep, ha]
      rfl
    rcases s.store.answer_objects f q with ⟨hc, hp⟩ | ⟨m, rfl, hm⟩
    · refine h.step ?_ ?_ (fun p c hm => ?_) (fun p pod hm => ?_)
      · rw [hstore, hc]
        exact h.keyedMaps
      · rw [hstore, hp]
        exact h.keyedPods
      · rw [hstore, hc] at hm
        exact Or.inl hm
      · rw [hstore, hp] at hm
        exact Or.inl ⟨pod, hm, rfl⟩
    · obtain ⟨t', ht', hkeep⟩ := exists_applies_step (List.mem_of_getElem? ht) (.answer i f)
      exact h.applied (hstore.trans hm) ⟨t', ht', hkeep _ (Or.inr ⟨next, hq⟩)⟩

end System

end Proctor
