import Proctor.Proofs.Concurrency.Applied
import Proctor.Proofs.Concurrency.Statuses

/-!
# A Test runs beside its own workload

A start applies the objects of its copy first and writes the status then, under the version of the
copy. If the write is refused it begins again with a newer copy, which may have another spec and
another id, so it may apply many objects that are of no use later. But the write that is accepted is
one over the copy of the last round, and what was applied in that round was applied last. So as long
as nobody else applies anything, the store holds the workload of the very Test that is `Running`
then.

## What is left out

Nothing is said of later moments. Once the Test is `Running` its workload is not kept there by
anyone: a Pod may be deleted, and is not applied again.
-/

namespace Proctor

/-! ### Objects that are stored -/

/-- One object takes the place of another one. -/
def Manifest.Replaces (m m' : Manifest) : Prop :=
  m.kind = m'.kind ∧ m.metadata.place = m'.metadata.place

namespace Store

variable {s : Store} {m m' : Manifest}

/-- The store has an object just as it was applied. Of a Pod the cluster itself tells the status. -/
def Holds (s : Store) : Manifest → Prop
  | .configMap c => s.configMaps.get? c.metadata.place = some c
  | .pod p => ∃ pod, s.pods.get? p.metadata.place = some pod ∧
      pod.metadata = p.metadata ∧ pod.spec = p.spec
  | .serviceAccount a => s.serviceAccounts.get? a.metadata.place = some a
  | .role r => s.roles.get? r.metadata.place = some r
  | .roleBinding b => s.roleBindings.get? b.metadata.place = some b

theorem holds_apply (s : Store) (m : Manifest) : (s.apply m).Holds m := by
  cases m with
  | pod p => exact ⟨_, (Table.get?_put ..).trans (if_pos rfl), rfl, rfl⟩
  | configMap _ | serviceAccount _ | role _ | roleBinding _ =>
    exact (Table.get?_put ..).trans (if_pos rfl)

/-- An object stays until another one takes its place. -/
theorem Holds.apply (h : s.Holds m) (hr : ¬ m'.Replaces m) : (s.apply m').Holds m := by
  have hp : m'.kind = m.kind → m.metadata.place ≠ m'.metadata.place :=
    fun hk he => hr ⟨hk, he.symm⟩
  -- only a table of the same kind has changed
  cases m' <;> cases m
  case pod.pod =>
    obtain ⟨pod, hg, hs⟩ := h
    exact ⟨pod, (Table.get?_put ..).trans ((if_neg (hp rfl)).trans hg), hs⟩
  all_goals first
    | exact h
    | exact (Table.get?_put ..).trans ((if_neg (hp rfl)).trans h)

theorem Holds.putTest (h : s.Holds m) (p : Place) (t : Test) : (s.putTest p t).1.Holds m := by
  cases m <;> exact h

theorem Holds.writeStatus (h : s.Holds m) (t : Test) : (s.writeStatus t).2.Holds m := by
  rcases s.writeStatus_cases t with ⟨old, -, -, hw⟩ | ⟨old, -, -, hw⟩ | ⟨-, hw⟩
  · rw [hw]
    exact h.putTest _ _
  · rwa [hw]
  · rwa [hw]

/-- Answers leave an object as it is, but for another one that is applied in its place. -/
theorem Holds.answer (h : s.Holds m) {f : Fate} {q : Query}
    (hr : ∀ m', (⟨q, (s.answer f q).1⟩ : Exchange) = ⟨.apply m', .ok ()⟩ → ¬ m'.Replaces m) :
    (s.answer f q).2.Holds m := by
  have hcall : ∀ {α : Type} {r : Except Fault α × Store}, (f.fault = none → r.2.Holds m) →
      (f.call s r).2.Holds m := by
    intro α r hm
    rw [Fate.call]
    cases hf : f.fault with
    | none => exact hm hf
    | some e => exact h
  cases q with
  | freshId | clock => exact h
  | getTest n k => exact hcall fun _ => h
  | getPod n k => exact hcall fun _ => h
  | writeStatus t => exact hcall fun _ => h.writeStatus t
  | apply m' =>
    refine hcall fun hf => h.apply (hr m' ?_)
    rw [Store.answer, Fate.call, hf]

end Store

namespace Rehearsal

/-- An edit neither stores nor deletes a Pod. Others may edit Tests, and the cluster may tell of
Pods. -/
def Edit.sparesPods : Edit → Bool
  | .putPod _ | .deletePod _ => false
  | _ => true

/-- What the cluster tells of a Pod is no part of what was applied. -/
theorem holds_of_changePod {s s' : Store} {m : Manifest} {p : Place}
    {status : Option (Option PodStatus)} {r : EditAnswer} (h : s.Holds m)
    (hc : changePod s p status = .ok (r, s')) : s'.Holds m := by
  obtain ⟨pod, st, hp, rfl⟩ := changePod_eq_ok hc
  cases m with
  | pod q =>
    obtain ⟨pod', hg, hs⟩ := h
    by_cases he : q.metadata.place = p
    · obtain rfl : pod' = pod := Option.some.inj (hg.symm.trans (he ▸ hp))
      exact ⟨_, (Table.get?_put ..).trans (if_pos he), hs⟩
    · exact ⟨pod', (Table.get?_put ..).trans ((if_neg he).trans hg), hs⟩
  | configMap _ | serviceAccount _ | role _ | roleBinding _ => exact h

theorem Edit.holds_after {e : Edit} (he : e.sparesPods = true) {s : Store} {m : Manifest}
    (h : s.Holds m) : (e.after s).Holds m := by
  rcases e.after_eq_or s with ha | ⟨r, ha⟩
  · rwa [ha]
  · cases e with
    | podStatus p status => exact holds_of_changePod h ha
    | generationStatus p status =>
      simp only [perform] at ha
      split at ha
      · cases ha
      · exact holds_of_changePod h ha
    | putPod _ | deletePod _ => cases he
    | putTest t =>
      cases t with
      | none => cases ha
      | some t => exact h.putTest t.metadata.place t
    | setSpec _ _ | setStatus _ _ | setPhase _ _ | setUid _ _ =>
      obtain ⟨t, b, -, -, hs⟩ := changeTest_eq_ok ha
      rw [hs]
      exact h.putTest _ _
    | deleteTest p => cases m <;> exact h

end Rehearsal

/-! ### What a controller has applied -/

/-- The object was applied, and none took its place since. -/
def Lasting (heard : List Exchange) (m : Manifest) : Prop :=
  ∃ earlier later, heard = earlier ++ ⟨.apply m, .ok ()⟩ :: later ∧
    ∀ m', ⟨.apply m', .ok ()⟩ ∈ later → ¬ m'.Replaces m

theorem not_lasting_nil (m : Manifest) : ¬ Lasting [] m := by
  rintro ⟨earlier, later, h, -⟩
  simp at h

theorem lasting_append_singleton {heard : List Exchange} {e : Exchange} {m : Manifest}
    (h : Lasting (heard ++ [e]) m) :
    e = ⟨.apply m, .ok ()⟩ ∨
      Lasting heard m ∧ ∀ m', e = ⟨.apply m', .ok ()⟩ → ¬ m'.Replaces m := by
  obtain ⟨earlier, later, hh, hl⟩ := h
  rcases append_singleton_eq_append_cons_iff.1 hh with ⟨-, -, he⟩ | ⟨later, rfl, rfl⟩
  · exact Or.inl he.symm
  · refine Or.inr ⟨⟨earlier, later, rfl, fun m' hm => hl m' (List.mem_append_left _ hm)⟩, ?_⟩
    rintro m' rfl
    exact hl m' (List.mem_append_right _ (List.mem_singleton_self _))

/-- If what a controller has applied is stored, it is so after one more answer. -/
theorem Store.holds_of_lasting {s : Store} {heard : List Exchange} {f : Fate} {q : Query}
    (h : ∀ m, Lasting heard m → s.Holds m) {m : Manifest}
    (hm : Lasting (heard ++ [⟨q, (s.answer f q).1⟩]) m) : (s.answer f q).2.Holds m := by
  rcases lasting_append_singleton hm with he | ⟨hold, hr⟩
  · obtain rfl : q = .apply m := congrArg Exchange.query he
    have hx : (s.answer f (.apply m)).1 = .ok () := by simpa using he
    rcases f.call_eq_or s (.ok (), s.apply m) with ⟨e, hc⟩ | hc
    · rw [Store.answer, hc] at hx
      cases hx
    · rw [Store.answer, hc]
      exact s.holds_apply m
  · exact (h m hold).answer hr

theorem lasting_of_mem {ms : List Manifest} {m : Manifest} (hm : m ∈ ms)
    (hk : ms.Pairwise fun m m' => m.kind ≠ m'.kind) (earlier : List Exchange) (now : Instant) :
    Lasting (earlier ++ (ms.map (fun m => ⟨.apply m, .ok ()⟩) ++ [⟨.clock, now⟩])) m := by
  obtain ⟨before, after, rfl⟩ := List.append_of_mem hm
  refine ⟨earlier ++ before.map (fun m => ⟨.apply m, .ok ()⟩), _, by simp; rfl, ?_⟩
  intro m' hm' hr
  rcases List.mem_append.1 hm' with hm' | hm'
  · obtain ⟨m'', hin, he⟩ := List.mem_map.1 hm'
    cases he
    exact List.rel_of_pairwise_cons (List.pairwise_append.1 hk).2.1 hin hr.1.symm
  · cases List.mem_singleton.1 hm'

/-- A start that gets to its write has applied its workload, and nothing in its place. -/
theorem Computes.lasting_workload {config : Config} {t u : Test} {round : List Exchange}
    (h : Computes config t .start round u) (earlier : List Exchange) :
    ∃ (namespaceName : String) (w : Workload), t.workload config = .ok w ∧
      ∀ m ∈ w.manifests namespaceName, Lasting (earlier ++ round) m := by
  cases h with
  | @started n w now hn hw =>
    refine ⟨n, w, hw, fun m hm => lasting_of_mem hm ?_ earlier now⟩
    simp [Workload.manifests, Manifest.kind]

/-- The workload is a matter of the spec, the id and what the metadata tell but for the version. -/
theorem Test.workload_numbered (t : Test) (n : Nat) (config : Config) :
    (t.numbered n).workload config = t.workload config := rfl

theorem Test.testId?_withStatus {t : Test} {change : Status → Status}
    (hc : ∀ st, (change st).testId = st.testId) : (t.withStatus change).testId? = t.testId? := by
  rw [testId?, testId?, withStatus, Option.bind_some, hc]
  cases t.status <;> rfl

theorem Test.workload_withStatus {t : Test} {change : Status → Status}
    (hc : ∀ st, (change st).testId = st.testId) (config : Config) :
    (t.withStatus change).workload config = t.workload config := by
  rw [workload, workload, testId?_withStatus hc]
  rfl

/-- What a start wants to be stored has the workload of the Test that it ran on. -/
theorem Computes.started_same {config : Config} {t u : Test} {round : List Exchange}
    (h : Computes config t .start round u) (n : Nat) :
    (({ t with status := u.status } : Test).numbered n).phase = .running ∧
      (({ t with status := u.status } : Test).numbered n).workload config = t.workload config := by
  cases h with
  | started now hn hw =>
    exact ⟨rfl, (Test.workload_numbered _ n config).trans
      (Test.workload_withStatus (fun _ => rfl) config)⟩

namespace System

variable {s : System} {n : Nat}

/-- Only the controller of that number is at work. Others edit Tests, and the cluster tells of
Pods. -/
def OnlyTask (n : Nat) (_ : System) : Move → Prop
  | .edit e => e.sparesPods = true
  | .launch _ => False
  | .answer i _ => i = n

/-- What the controller of that number has applied is stored. -/
def Stocked (n : Nat) (j : Job) (s : System) : Prop :=
  ∃ t, s.tasks[n]? = some t ∧ t.job = j ∧ ∀ m, Lasting t.heard m → s.store.Holds m

theorem stocked_launch (s : System) (j : Job) :
    (s.step (.launch j)).Stocked s.tasks.length j :=
  ⟨.begin j, by simp [step], rfl, fun m hm => absurd hm (not_lasting_nil m)⟩

theorem Stocked.step {j : Job} (h : s.Stocked n j) {m : Move} (hm : s.OnlyTask n m) :
    (s.step m).Stocked n j := by
  obtain ⟨t, ht, hj, hh⟩ := h
  cases m with
  | launch j => exact hm.elim
  | edit e => exact ⟨t, ht, hj, fun m hl => Rehearsal.Edit.holds_after hm (hh m hl)⟩
  | answer i f =>
    obtain rfl : i = n := hm
    rw [System.step]
    rcases s.answer_eq i f with ha | ⟨t', q, next, hq, ht', ha⟩
    · rw [ha]
      exact ⟨t, ht, hj, hh⟩
    · obtain rfl : t' = t := Option.some.inj (ht'.symm.trans ht)
      rw [ha]
      exact ⟨_, task_hear hq f ht, hj, fun m => Store.holds_of_lasting hh⟩

theorem Stocked.run {j : Job} (h : s.Stocked n j) {ms : List Move}
    (hm : AllAllowed (OnlyTask n) s ms) : (s.run ms).Stocked n j := by
  induction ms generalizing s with
  | nil => exact h
  | cons m ms ih => exact ih (h.step hm.1) hm.2

theorem OnlyTask.known {m : Move} (h : s.OnlyTask n m) : s.Known m := by
  cases m with
  | launch j => exact h.elim
  | edit _ | answer _ _ => trivial

/-- A controller sets out to start a Test with any copy that was ever stored, and others edit Tests
while it is at work. When its write is accepted, the store holds the ConfigMap of the workload of
the Test that is stored then, and a Pod with the metadata and the spec of that workload. -/
theorem running_beside_workload {s₁ s₂ : System} (h : Reaches Known s) {j : Job}
    (hj : j.observed ∈ s.past) (ha : j.action = .start) {ms : List Move}
    (hm : AllAllowed (OnlyTask s.tasks.length) (s.step (.launch j)) ms)
    (hs₁ : (s.step (.launch j)).run ms = s₁) {f : Fate}
    (hs₂ : s₁.step (.answer s.tasks.length f) = s₂) {w : Write} (hw : s₂.writes = w :: s₁.writes) :
    s₂.store.tests.get? w.copy.home = some w.after ∧ w.after.phase = .running ∧
      ∃ namespaceName id wl, w.after.metadata.namespaceName = some namespaceName ∧
        w.after.testId? = some id ∧ w.after.workload j.config = .ok wl ∧
        s₂.store.configMaps.get? ⟨namespaceName, generationName w.after.nameAny id⟩ =
          some wl.configMap ∧
        ∃ pod, s₂.store.pods.get? ⟨namespaceName, generationName w.after.nameAny id⟩ = some pod ∧
          pod.metadata = wl.pod.metadata ∧ pod.spec = wl.pod.spec := by
  have hlaunch : Reaches Known (s.step (.launch j)) := h.step hj
  have h₁ : Reaches Known s₁ := hs₁ ▸ hlaunch.run (hm.mono fun _ _ => OnlyTask.known)
  obtain ⟨t, ht, rfl, hh⟩ : s₁.Stocked s.tasks.length j := hs₁ ▸ (s.stocked_launch j).run hm
  have hanswer : s₁.Known (.answer s.tasks.length f) := trivial
  have hsound := (hs₂ ▸ h₁.step hanswer : Reaches Known s₂).sound fun _ _ => id
  obtain ⟨_, _, earlier, round, -, -, hheard, -, hc⟩ :=
    (hsound.writes w (hw ▸ List.mem_cons_self)).computed hsound.history.unique
  rw [System.step] at hs₂
  subst hs₂
  rcases s₁.answer_cases s.tasks.length f with
    ⟨-, hquiet⟩ | ⟨t', w', ht', -, hw', hj', hheard', ho, hafter, hst⟩
  · exact absurd (congrArg List.length (hw.symm.trans hquiet)) (by simp)
  obtain rfl : w = w' := (List.cons.inj (hw.symm.trans hw')).1
  obtain rfl : t' = t := Option.some.inj (ht'.symm.trans ht)
  rw [hj', ha] at hc
  obtain ⟨namespaceName, wl, hwl, hlast⟩ := hc.lasting_workload earlier
  have hholds : ∀ m ∈ wl.manifests namespaceName,
      (s₁.answer s.tasks.length f).store.Holds m := by
    intro m hmem
    rw [hst]
    exact (hh m (hheard' ▸ hheard ▸ hlast m hmem)).putTest _ _
  obtain ⟨hrun, hsame⟩ := hc.started_same (s₁.store.versions + 1)
  rw [show (({ w.before with status := w.copy.status } : Test).numbered _) = w.after from
    hafter.symm] at hrun hsame
  have hwl' : w.after.workload t'.job.config = .ok wl := hsame.trans hwl
  obtain ⟨-, namespaceName', id, hn, hid, hplace, -, hpod⟩ := Test.workload_eq_ok hwl'
  have hconfigMap := hholds (.configMap wl.configMap) (by simp [Workload.manifests])
  obtain ⟨pod, hget, hmeta, hspec⟩ := hholds (.pod wl.pod) (by simp [Workload.manifests])
  rw [Store.Holds, hplace] at hconfigMap
  rw [hpod, hplace] at hget
  refine ⟨?_, hrun, namespaceName', id, wl, hn, hid, hwl', hconfigMap, pod, hget, hmeta, hspec⟩
  rw [hst, hafter]
  exact (Table.get?_put ..).trans (if_pos rfl)

/-- The Test that greets, once its first generation is begun. -/
def waiting : Test :=
  let status := Status.begun "2" (greeting.digest controllerVersion) controllerVersion
  ({ greeter with status := some status } : Test).numbered 2

/-- What happens until a controller that starts the Test writes again: its source is edited before
its Pod is applied, so the first write is refused. -/
def overtaking : List Move :=
  List.replicate 4 (.answer 1 plainFate) ++
    .edit (.setSpec greeted (some { greeter.spec with source := parting })) ::
      List.replicate 10 (.answer 1 plainFate)

/-- The controller is about to write for the second time. -/
def overtaken : System := (begun.step (.launch (.act .start {} waiting))).run overtaking

theorem allAllowed_overtaking (s : System) : AllAllowed (OnlyTask 1) s overtaking := by
  have h : ∀ n s, AllAllowed (OnlyTask 1) s (List.replicate n (.answer 1 plainFate)) :=
    AllAllowed.replicate fun _ => rfl
  exact (h 4 s).append ⟨rfl, h 10 _⟩

theorem parting_beside_workload : waiting ∈ begun.past ∧
    ∃ w c, (overtaken.step (.answer 1 plainFate)).writes = w :: overtaken.writes ∧
      w.after.phase = .running ∧
      (overtaken.step (.answer 1 plainFate)).store.configMaps.get?
        ⟨"default", "test-hello-2"⟩ = some c ∧
      c.data = some (.ofList [("hello.feature", "Feature: goodbye")]) := by
  have h : Reaches Known begun := tended_begun.mono fun _ _ hm => hm.reconciling.known
  have hmem : waiting ∈ begun.past := .head _
  have hwritten : ∃ w, (overtaken.step (.answer 1 plainFate)).writes = w :: overtaken.writes ∧
      w.after.metadata.namespaceName = some "default" ∧ w.after.nameAny = "hello" ∧
      w.after.testId? = some "2" ∧ w.after.spec = { greeter.spec with source := parting } :=
    ⟨_, rfl, rfl, rfl, rfl, rfl⟩
  obtain ⟨w, hw, hns, hname, hid, hspec⟩ := hwritten
  obtain ⟨-, hrun, namespaceName, id, wl, hns', hid', hwl, hc, -⟩ :=
    running_beside_workload h (j := .act .start {} waiting) hmem rfl (allAllowed_overtaking _) rfl
      rfl hw
  obtain rfl : "default" = namespaceName := Option.some.inj (hns.symm.trans hns')
  obtain rfl : "2" = id := Option.some.inj (hid.symm.trans hid')
  obtain ⟨-, _, _, -, -, -, hdata, -⟩ := Test.workload_eq_ok hwl
  rw [hname] at hc
  rw [hspec] at hdata
  exact ⟨hmem, w, wl.configMap, hw, hrun, hc, hdata⟩

end System

end Proctor
