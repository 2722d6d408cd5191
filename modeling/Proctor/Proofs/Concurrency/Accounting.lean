import Proctor.Proofs.Concurrency.System
import Proctor.Proofs.Lists

/-!
# The account of all writes

However the moves of a system are ordered, a write that the store accepted was written over the very
Test that the controller had run its action on. For the controller wrote under the version of its
copy, which was stored at some time and so is the only Test that ever had this version
(`Write.Accounted.computed`). And the version is spent by the write, so no other write under it can
be accepted any more (`System.Sound.distinct`).
-/

namespace Proctor

/-! ### One controller -/

/-- Every copy that a controller has had in hand was stored at some time. -/
structure Job.FromStore (j : Job) (heard : List Exchange) (past : List Test) : Prop where
  /-- The one that it set out with. -/
  observed : j.observed ∈ past
  /-- Those that it read. -/
  read : ∀ namespaceName name t,
    ⟨.getTest namespaceName name, .ok (some t)⟩ ∈ heard → t ∈ past

namespace Job.FromStore

variable {j : Job} {heard : List Exchange} {past past' : List Test}

theorem mono (h : j.FromStore heard past) (hp : ∀ t ∈ past, t ∈ past') :
    j.FromStore heard past' where
  observed := hp _ h.observed
  read namespaceName name t ht := hp _ (h.read namespaceName name t ht)

/-- The copy of the last round was stored at some time. -/
theorem mem_of_retries (h : j.FromStore heard past) {a : Action} {config : Config}
    {namespaceName name : String} {phase : Phase} {k : Nat} {t : Test}
    {earlier round : List Exchange}
    (hr : a.Retries config namespaceName name phase k j.observed earlier t)
    (hh : heard = earlier ++ round) : t ∈ past := by
  rcases hr.eq_or_mem with ⟨rfl, -⟩ | ⟨-, ht⟩
  · exact h.observed
  · exact h.read _ _ t (hh ▸ List.mem_append_left _ ht)

end Job.FromStore

/-! ### One write -/

namespace Write

variable {w : Write} {past past' : List Test}

/-- A write that was asked for by its controller, and that the store accepted. -/
structure Accounted (w : Write) (past : List Test) : Prop where
  /-- The copies that its controller had had in hand were stored. -/
  fromStore : w.job.FromStore w.heard past
  /-- After what it had heard, the controller asked for the write. -/
  asked : ∃ next, w.job.program.Walk w.heard (.ask (.writeStatus w.copy) next)
  /-- It was written over a Test that was stored. -/
  before : w.before ∈ past
  /-- It was written under the version of that Test. -/
  version : w.before.version? = w.copy.version?
  /-- Of that Test it changed the status alone. -/
  after : ∃ n, w.after = ({ w.before with status := w.copy.status } : Test).numbered n

theorem Accounted.mono (h : w.Accounted past) (hp : ∀ t ∈ past, t ∈ past') : w.Accounted past' :=
  { h with fromStore := h.fromStore.mono hp, before := hp _ h.before }

/-- What was written had been computed by one run of the action on the very Test that it was written
over. -/
theorem Accounted.computed (h : w.Accounted past)
    (hu : ∀ t ∈ past, ∀ u ∈ past, t.version? = u.version? → t = u) :
    ∃ namespaceName k earlier round,
      w.job.observed.metadata.namespaceName = some namespaceName ∧ k < w.job.config.attempts ∧
      w.heard = earlier ++ round ∧
      w.job.action.Retries w.job.config namespaceName w.job.observed.nameAny w.job.observed.phase k
        w.job.observed earlier w.before ∧
      Computes w.job.config w.before w.job.action round w.copy := by
  obtain ⟨next, hw⟩ := h.asked
  obtain ⟨-, namespaceName, k, earlier, round, t, hn, hk, hh, hr, hc⟩ := Job.walk_write hw
  have ht : t ∈ past := h.fromStore.mem_of_retries hr hh
  have hv : w.before.version? = t.version? :=
    h.version.trans (congrArg ObjectMeta.resourceVersion hc.metadata_eq)
  obtain rfl : w.before = t := hu _ h.before _ ht hv
  exact ⟨namespaceName, k, earlier, round, hn, hk, hh, hr, hc⟩

end Write

/-! ### All writes -/

namespace System

variable {s : System} {store : Store}

/-- Every controller set out with a Test that was stored at some time, and every write is accounted
for. -/
structure Sound (s : System) : Prop where
  /-- What was ever stored is the history of the store. -/
  history : s.store.History s.past
  /-- The copies that controllers have in hand were stored. -/
  tasks : ∀ t ∈ s.tasks, t.job.FromStore t.heard s.past
  /-- The writes are accounted for. -/
  writes : ∀ w ∈ s.writes, w.Accounted s.past
  /-- A version that was written under is not stored any more. -/
  spent : ∀ w ∈ s.writes, s.store.Spent w.before.version?
  /-- No two writes were under one version. -/
  distinct : (s.writes.map fun w => w.before.version?).Nodup
  /-- A controller that was told of a success did write. -/
  told : ∀ t ∈ s.tasks, ∀ es copy after fs,
    t.heard = es ++ ⟨.writeStatus copy, .ok after⟩ :: fs →
    ∃ w ∈ s.writes, w.job = t.job ∧ w.heard = es ∧ w.copy = copy ∧ w.after = after

/-- A controller sets out only with a Test that was stored at some time. -/
def Known (s : System) : Move → Prop
  | .launch j => j.observed ∈ s.past
  | .edit _ | .answer _ _ => True

theorem Sound.empty : Sound {} where
  history := .empty
  tasks := by simp
  writes := by simp
  spent := by simp
  distinct := List.nodup_nil
  told := by simp

theorem mem_past_keep {t : Test} (h : t ∈ s.past) : t ∈ (s.keep store).past :=
  List.mem_append_right _ h

theorem Sound.keep (h : s.Sound) (hc : s.store.Change store) : (s.keep store).Sound where
  history := h.history.change hc
  tasks t ht := (h.tasks t ht).mono fun _ => mem_past_keep
  writes w hw := (h.writes w hw).mono fun _ => mem_past_keep
  spent w hw := (h.spent w hw).change h.history (h.writes w hw).before hc
  distinct := h.distinct
  told := h.told

/-! #### The moves -/

theorem Sound.launch (h : s.Sound) {j : Job} (hj : j.observed ∈ s.past) :
    (s.step (.launch j)).Sound where
  history := h.history
  writes := h.writes
  spent := h.spent
  distinct := h.distinct
  tasks t ht := by
    rcases List.mem_append.1 ht with ht | ht
    · exact h.tasks t ht
    · obtain rfl := List.mem_singleton.1 ht
      exact ⟨hj, by simp [Task.begin]⟩
  told t ht es copy after fs hh := by
    rcases List.mem_append.1 ht with ht | ht
    · exact h.told t ht es copy after fs hh
    · obtain rfl := List.mem_singleton.1 ht
      simp [Task.begin] at hh

theorem answer_eq (s : System) (i : Nat) (f : Fate) :
    s.answer i f = s ∨
      ∃ (t : Task) (q : Query) (next : q.Answer → Program t.job.Result) (h : t.rest = .ask q next),
        s.tasks[i]? = some t ∧ s.answer i f = s.hear i t h f := by
  rw [answer]
  split
  · exact Or.inl rfl
  · next t ht =>
    split
    · exact Or.inl rfl
    · next q next hq => exact Or.inr ⟨t, q, next, hq, ht, rfl⟩

theorem answer_of_done {i : Nat} {t : Task} {r : t.job.Result} (ht : s.tasks[i]? = some t)
    (hr : t.rest = .done r) (f : Fate) : s.answer i f = s := by
  rcases s.answer_eq i f with h | ⟨t', q, next, hq, ht', -⟩
  · exact h
  · obtain rfl : t' = t := Option.some.inj (ht'.symm.trans ht)
    rw [hr] at hq
    cases hq

theorem answer_of_ask {i : Nat} {t : Task} {q : Query} {next : q.Answer → Program t.job.Result}
    (ht : s.tasks[i]? = some t) (hq : t.rest = .ask q next) (f : Fate) :
    s.answer i f = s.hear i t hq f := by
  rw [answer]
  split
  · next h =>
    rw [ht] at h
    cases h
  · next t' h =>
    obtain rfl : t = t' := Option.some.inj (ht.symm.trans h)
    split
    · next h' =>
      rw [hq] at h'
      cases h'
    · next q' next' h' =>
      obtain ⟨rfl, h⟩ := Program.ask.inj (hq.symm.trans h')
      cases h
      rfl

section Hear

variable {i : Nat} {t : Task} {q : Query} {next : q.Answer → Program t.job.Result}
  (hq : t.rest = .ask q next) (f : Fate)

theorem store_hear : (s.hear i t hq f).store = (s.store.answer f q).2 := rfl

theorem task_hear (ht : s.tasks[i]? = some t) :
    (s.hear i t hq f).tasks[i]? = some (t.hear hq (s.store.answer f q).1) := by
  obtain ⟨hi, -⟩ := List.getElem?_eq_some_iff.1 ht
  exact List.getElem?_set_self hi

/-- The other controllers stand where they stood. -/
theorem task_hear_ne {k : Nat} (hk : i ≠ k) : (s.hear i t hq f).tasks[k]? = s.tasks[k]? :=
  List.getElem?_set_ne hk

theorem mem_tasks_hear {t' : Task} (h : t' ∈ (s.hear i t hq f).tasks) :
    t' ∈ s.tasks ∨ t' = t.hear hq (s.store.answer f q).1 :=
  List.mem_or_eq_of_mem_set h

/-- What the answering of a question comes to: nothing is written, or a status is written over the
Test that is stored at its place. -/
theorem hear_cases :
    (⟨q, (s.store.answer f q).1⟩ : Exchange).accepted? = none ∧
      (s.hear i t hq f).store.tests = s.store.tests ∧
      (s.hear i t hq f).store.versions = s.store.versions ∧
      (s.hear i t hq f).writes = s.writes ∨
    ∃ copy old,
      (⟨q, (s.store.answer f q).1⟩ : Exchange) =
        ⟨.writeStatus copy, .ok (s.store.overwritten old copy)⟩ ∧
      s.store.tests.get? copy.home = some old ∧ old.version? = copy.version? ∧
      (s.hear i t hq f).store =
        (s.store.putTest copy.home { old with status := copy.status }).1 ∧
      (s.hear i t hq f).writes =
        ⟨t.job, t.heard, old, copy, s.store.overwritten old copy⟩ :: s.writes := by
  rcases s.store.answer_cases f q with ⟨he, ht, hv⟩ | ⟨copy, old, he, ho, hv, hs⟩
  · exact Or.inl ⟨he, ht, hv, by simp [hear, write?, he]⟩
  · refine Or.inr ⟨copy, old, he, ho, hv, hs, ?_⟩
    simp [hear, write?, he, Exchange.accepted?, ho]

theorem change_hear (h : s.store.History s.past) :
    s.store.Change (s.hear i t hq f).store := by
  rcases s.hear_cases (i := i) hq f with ⟨-, ht, hv, -⟩ | ⟨copy, old, -, ho, -, hs, -⟩
  · exact .of_eq ht hv
  · rw [hs]
    exact s.store.change_putTest (show old.metadata.place = copy.home from h.place_of_get? ho)

theorem fromStore_hear (h : s.Sound) (ht : t ∈ s.tasks) :
    t.job.FromStore (t.heard ++ [⟨q, (s.store.answer f q).1⟩]) s.past where
  observed := (h.tasks t ht).observed
  read namespaceName name u hu := by
    rcases List.mem_append.1 hu with hu | hu
    · exact (h.tasks t ht).read _ _ u hu
    · exact h.history.mem_of_get? (Store.get?_of_answer_getTest (List.mem_singleton.1 hu).symm)

theorem mem_past_hear {u : Test} (h : u ∈ s.past) : u ∈ (s.hear i t hq f).past :=
  List.mem_append_right _ h

theorem Sound.tasks_hear (h : s.Sound) (ht : t ∈ s.tasks) :
    ∀ t' ∈ (s.hear i t hq f).tasks, t'.job.FromStore t'.heard (s.hear i t hq f).past := by
  intro t' ht'
  rcases mem_tasks_hear hq f ht' with ht' | rfl
  · exact (h.tasks t' ht').mono fun _ => mem_past_hear hq f
  · exact (fromStore_hear f h ht).mono fun _ => mem_past_hear hq f

/-- If the writes go on with one for the answer, should it tell of a success, they account for all
that controllers were told. -/
theorem Sound.told_hear (h : s.Sound) (ht : t ∈ s.tasks) {writes : List Write}
    (hold : ∀ w ∈ s.writes, w ∈ writes)
    (hnew : ∀ copy after,
      (⟨q, (s.store.answer f q).1⟩ : Exchange) = ⟨.writeStatus copy, .ok after⟩ →
      ∃ w ∈ writes, w.job = t.job ∧ w.heard = t.heard ∧ w.copy = copy ∧ w.after = after) :
    ∀ t' ∈ (s.hear i t hq f).tasks, ∀ es copy after fs,
      t'.heard = es ++ ⟨.writeStatus copy, .ok after⟩ :: fs →
      ∃ w ∈ writes, w.job = t'.job ∧ w.heard = es ∧ w.copy = copy ∧ w.after = after := by
  intro t' ht' es copy after fs hh
  rcases mem_tasks_hear hq f ht' with ht' | rfl
  · obtain ⟨w, hw, hr⟩ := h.told t' ht' es copy after fs hh
    exact ⟨w, hold w hw, hr⟩
  · rcases append_singleton_eq_append_cons_iff.1 hh with ⟨-, rfl, hx⟩ | ⟨fs', -, hh'⟩
    · exact hnew copy after hx.symm
    · obtain ⟨w, hw, hr⟩ := h.told t ht es copy after fs' hh'
      exact ⟨w, hold w hw, hr⟩

/-- An answer that is not a write that was accepted. -/
theorem Sound.hear_quiet (h : s.Sound) (ht : t ∈ s.tasks)
    (he : (⟨q, (s.store.answer f q).1⟩ : Exchange).accepted? = none)
    (hw : (s.hear i t hq f).writes = s.writes) : (s.hear i t hq f).Sound := by
  have hk := h.keep (change_hear (i := i) hq f h.history)
  exact {
    history := hk.history
    tasks := h.tasks_hear hq f ht
    writes := hw ▸ hk.writes
    spent := hw ▸ hk.spent
    distinct := hw ▸ hk.distinct
    told := by
      rw [hw]
      refine h.told_hear hq f ht (fun _ => id) fun copy after hx => ?_
      rw [hx] at he
      cases he }

/-- A write that was accepted. -/
theorem Sound.hear_write (h : s.Sound) (ht : t ∈ s.tasks) {copy old : Test}
    (he : (⟨q, (s.store.answer f q).1⟩ : Exchange) =
      ⟨.writeStatus copy, .ok (s.store.overwritten old copy)⟩)
    (ho : s.store.tests.get? copy.home = some old) (hv : old.version? = copy.version?)
    (hs : (s.hear i t hq f).store =
      (s.store.putTest copy.home { old with status := copy.status }).1)
    (hw : (s.hear i t hq f).writes =
      ⟨t.job, t.heard, old, copy, s.store.overwritten old copy⟩ :: s.writes) :
    (s.hear i t hq f).Sound := by
  have hk := h.keep (change_hear (i := i) hq f h.history)
  have hspent : (s.hear i t hq f).store.Spent old.version? :=
    h.history.spent_of_put ho (by rw [hs, Store.putTest_eq])
  obtain rfl : q = .writeStatus copy := congrArg Exchange.query he
  exact {
    history := hk.history
    tasks := h.tasks_hear hq f ht
    writes := by
      rw [hw]
      intro w hw'
      rcases List.mem_cons.1 hw' with rfl | hw'
      · exact {
          fromStore := (h.tasks t ht).mono fun _ => mem_past_hear hq f
          asked := ⟨next, hq ▸ t.walk⟩
          before := mem_past_hear hq f (h.history.mem_of_get? ho)
          version := hv
          after := ⟨_, rfl⟩ }
      · exact hk.writes w hw'
    spent := by
      rw [hw]
      intro w hw'
      rcases List.mem_cons.1 hw' with rfl | hw'
      · exact hspent
      · exact hk.spent w hw'
    distinct := by
      rw [hw, List.map_cons, List.nodup_cons]
      refine ⟨fun hm => ?_, h.distinct⟩
      -- the version was still stored, so no write can have been under it
      obtain ⟨w, hw', hv'⟩ := List.mem_map.1 hm
      exact h.spent w hw' _ (Table.mem_of_get? ho) hv'.symm
    told := by
      rw [hw]
      refine h.told_hear hq f ht (fun _ => List.mem_cons_of_mem _) fun u after hx => ?_
      rw [he] at hx
      cases hx
      exact ⟨_, List.mem_cons_self, rfl, rfl, rfl, rfl⟩ }

theorem Sound.hear (h : s.Sound) (ht : t ∈ s.tasks) : (s.hear i t hq f).Sound := by
  rcases s.hear_cases (i := i) hq f with ⟨he, -, -, hw⟩ | ⟨copy, old, he, ho, hv, hs, hw⟩
  · exact h.hear_quiet hq f ht he hw
  · exact h.hear_write hq f ht he ho hv hs hw

end Hear

/-- What an answer comes to: no Test changes and nothing is written, or a controller that was at
work has written a status over the Test that is stored at its place. -/
theorem answer_cases (s : System) (i : Nat) (f : Fate) :
    (s.answer i f).store.tests = s.store.tests ∧ (s.answer i f).writes = s.writes ∨
      ∃ t w, s.tasks[i]? = some t ∧ (∃ q next, t.rest = .ask q next) ∧
        (s.answer i f).writes = w :: s.writes ∧ w.job = t.job ∧ w.heard = t.heard ∧
        s.store.tests.get? w.copy.home = some w.before ∧
        w.after = s.store.overwritten w.before w.copy ∧
        (s.answer i f).store =
          (s.store.putTest w.copy.home { w.before with status := w.copy.status }).1 := by
  rcases s.answer_eq i f with ha | ⟨t, q, next, hq, ht, ha⟩
  · rw [ha]
    exact Or.inl ⟨rfl, rfl⟩
  · rw [ha]
    rcases s.hear_cases (i := i) hq f with ⟨-, hts, -, hw⟩ | ⟨copy, old, -, ho, -, hst, hw⟩
    · exact Or.inl ⟨hts, hw⟩
    · exact Or.inr ⟨t, _, ht, ⟨q, next, hq⟩, hw, rfl, rfl, ho, rfl, hst⟩

/-! #### All runs -/

theorem Sound.step (h : s.Sound) {m : Move} (hm : s.Known m) : (s.step m).Sound := by
  cases m with
  | edit e => exact h.keep (e.change_after h.history)
  | launch j => exact h.launch hm
  | answer i f =>
    rw [System.step]
    rcases s.answer_eq i f with ha | ⟨t, q, next, hq, ht, ha⟩
    · rwa [ha]
    · rw [ha]
      exact h.hear hq f (List.mem_of_getElem? ht)

theorem Reaches.sound {allowed : System → Move → Prop} (hk : ∀ s m, allowed s m → s.Known m)
    (h : Reaches allowed s) : s.Sound := by
  induction h with
  | empty => exact .empty
  | step _ hm ih => exact ih.step (hk _ _ hm)

/-- A Test that is stored after a move was stored before, or an edit has stored it, or a controller
has written its status. -/
theorem Sound.mem_past_step (h : s.Sound) {m : Move} {u : Test} (hu : u ∈ (s.step m).past) :
    u ∈ s.past ∨ (∃ e, m = .edit e ∧ e.Stores s.store u) ∨
      ∃ w ∈ (s.step m).writes, w.before ∈ s.past ∧ u = w.after := by
  cases m with
  | launch j => exact Or.inl hu
  | edit e =>
    rcases List.mem_append.1 hu with hu | hu
    · obtain ⟨⟨p, u⟩, he, rfl⟩ := List.mem_map.1 hu
      exact (Rehearsal.Edit.mem_after he).imp (h.history.stored _) fun hst => Or.inl ⟨e, rfl, hst⟩
    · exact Or.inl hu
  | answer i f =>
    rw [System.step] at hu ⊢
    rcases s.answer_eq i f with ha | ⟨t, q, next, hq, ht, ha⟩
    · rw [ha] at hu
      exact Or.inl hu
    · rw [ha] at hu ⊢
      rcases s.hear_cases (i := i) hq f with ⟨-, htests, -, -⟩ | ⟨copy, old, -, ho, -, hst, hw⟩
      · have hfewer : ∀ e ∈ (s.hear i t hq f).store.tests.entries, e ∈ s.store.tests.entries := by
          rw [htests]
          exact fun _ => id
        exact Or.inl (h.history.mem_fewer hfewer hu)
      · have hput : (s.hear i t hq f).store.tests =
            s.store.tests.put copy.home (s.store.overwritten old copy) := by
          rw [hst]
          rfl
        rcases h.history.mem_put hput hu with rfl | hu
        · exact Or.inr (Or.inr ⟨_, hw ▸ List.mem_cons_self, h.history.mem_of_get? ho, rfl⟩)
        · exact Or.inl hu

/-- What is true of the jobs that controllers set out with is true of those at work, and of those
that have written. -/
theorem Reaches.jobs {allowed : System → Move → Prop} {P : Job → Prop}
    (hP : ∀ s j, allowed s (.launch j) → P j) (h : Reaches allowed s) :
    (∀ t ∈ s.tasks, P t.job) ∧ ∀ w ∈ s.writes, P w.job := by
  induction h with
  | empty => simp
  | @step s m _ hm ih =>
    cases m with
    | edit e => exact ih
    | launch j =>
      refine ⟨fun t ht => ?_, ih.2⟩
      rcases List.mem_append.1 ht with ht | ht
      · exact ih.1 t ht
      · obtain rfl := List.mem_singleton.1 ht
        exact hP s j hm
    | answer i f =>
      rw [System.step]
      rcases s.answer_eq i f with ha | ⟨t, q, next, hq, ht, ha⟩
      · rwa [ha]
      · have hj : P t.job := ih.1 t (List.mem_of_getElem? ht)
        rw [ha]
        refine ⟨fun t' ht' => ?_, fun w hw => ?_⟩
        · rcases mem_tasks_hear hq f ht' with ht' | rfl
          · exact ih.1 t' ht'
          · exact hj
        · rcases s.hear_cases (i := i) hq f with ⟨-, -, -, he⟩ | ⟨copy, old, -, -, -, -, he⟩
          · exact ih.2 w (he ▸ hw)
          · rcases List.mem_cons.1 (he ▸ hw) with rfl | hw
            · exact hj
            · exact ih.2 w hw

end System

end Proctor
