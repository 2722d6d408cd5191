import Proctor.Proofs.Concurrency.System
import Proctor.Proofs.Workload.Generations

/-!
# What was applied is stored

The ConfigMap that a controller has applied last at a place is the one that the store holds there,
as long as nobody else applies anything. A start that gets to its write has applied the ConfigMap of
the Test that it writes over, whatever the rounds before it applied.
-/

namespace Proctor

/-- The ConfigMap that was applied, if this was the applying of one. -/
def Exchange.configMap? : Exchange → Option ConfigMap
  | ⟨.apply (.configMap c), .ok ()⟩ => some c
  | _ => none

theorem Exchange.configMap?_eq_some_iff {e : Exchange} {c : ConfigMap} :
    e.configMap? = some c ↔ e = ⟨.apply (.configMap c), .ok ()⟩ := by
  constructor
  · intro h
    obtain ⟨q, x⟩ := e
    cases q with
    | apply m =>
      cases m with
      | configMap c' =>
        rcases x with f | ⟨⟩
        · cases h
        · cases h
          rfl
      | pod _ | serviceAccount _ | role _ | roleBinding _ => cases h
    | freshId | clock | getTest _ _ | getPod _ _ | writeStatus _ => cases h
  · rintro rfl
    rfl

/-- The ConfigMap that was applied last at a place. -/
def lastConfigMap? (heard : List Exchange) (p : Place) : Option ConfigMap :=
  (heard.filterMap Exchange.configMap?).reverse.find? fun c => c.metadata.place = p

theorem lastConfigMap?_append_none {heard : List Exchange} {e : Exchange} {p : Place}
    (h : e.configMap? = none) : lastConfigMap? (heard ++ [e]) p = lastConfigMap? heard p := by
  simp [lastConfigMap?, h]

theorem lastConfigMap?_append_some {heard : List Exchange} {e : Exchange} {p : Place}
    {c : ConfigMap} (h : e.configMap? = some c) :
    lastConfigMap? (heard ++ [e]) p =
      if c.metadata.place = p then some c else lastConfigMap? heard p := by
  simp only [lastConfigMap?, List.filterMap_append, List.filterMap_cons, h, List.filterMap_nil,
    List.reverse_append, List.reverse_cons, List.reverse_nil, List.nil_append, List.find?_cons,
    List.singleton_append]
  by_cases hp : c.metadata.place = p <;> simp [hp]

namespace Store

variable {s : Store} {f : Fate} {q : Query}

@[simp] theorem configMaps_writeStatus (s : Store) (t : Test) :
    (s.writeStatus t).2.configMaps = s.configMaps := by
  rcases s.writeStatus_cases t with ⟨old, -, -, hw⟩ | ⟨old, -, -, hw⟩ | ⟨-, hw⟩
  · rw [hw]
    rfl
  · rw [hw]
  · rw [hw]

/-- The ConfigMaps of a store change only with one that is applied. -/
theorem configMaps_answer (s : Store) (f : Fate) (q : Query) :
    (s.answer f q).2.configMaps =
      match (⟨q, (s.answer f q).1⟩ : Exchange).configMap? with
      | some c => s.configMaps.put c.metadata.place c
      | none => s.configMaps := by
  cases q with
  | freshId | clock => rfl
  | getTest n m =>
    rcases f.call_eq_or s (.ok (s.tests.get? ⟨n, m⟩), s) with ⟨e, he⟩ | he <;>
      simp only [answer, he] <;> rfl
  | getPod n m =>
    rcases f.call_eq_or s (.ok (s.pods.get? ⟨n, m⟩), s) with ⟨e, he⟩ | he <;>
      simp only [answer, he] <;> rfl
  | writeStatus u =>
    show (f.call s (s.writeStatus u)).2.configMaps = s.configMaps
    rcases f.call_eq_or s (s.writeStatus u) with ⟨e, he⟩ | he
    · rw [he]
    · rw [he, configMaps_writeStatus]
  | apply m =>
    rcases f.call_eq_or s (.ok (), s.apply m) with ⟨e, he⟩ | he
    · cases m <;> simp only [answer, he] <;> rfl
    · cases m <;> simp only [answer, he] <;> rfl

/-- If the store holds what was applied last, it does so after one more answer. -/
theorem holds_answer {heard : List Exchange}
    (h : ∀ p c, lastConfigMap? heard p = some c → s.configMaps.get? p = some c) :
    ∀ p c, lastConfigMap? (heard ++ [⟨q, (s.answer f q).1⟩]) p = some c →
      (s.answer f q).2.configMaps.get? p = some c := by
  intro p c hc
  rw [configMaps_answer]
  cases he : (⟨q, (s.answer f q).1⟩ : Exchange).configMap? with
  | none =>
    rw [lastConfigMap?_append_none he] at hc
    exact h p c hc
  | some c' =>
    rw [lastConfigMap?_append_some he] at hc
    simp only [Table.get?_put]
    by_cases hp : c'.metadata.place = p
    · rw [if_pos hp] at hc
      rw [if_pos hp.symm]
      exact hc
    · rw [if_neg hp] at hc
      rw [if_neg fun h => hp h.symm]
      exact h p c hc

end Store

/-! ### Workloads -/

/-- A workload is that of a valid Test with an id. Its objects are one generation's, and its
ConfigMap holds the files of the spec. -/
theorem Test.workload_eq_ok {t : Test} {config : Config} {w : Workload}
    (h : t.workload config = .ok w) :
    t.check = .ok () ∧ ∃ namespaceName id,
      t.metadata.namespaceName = some namespaceName ∧ t.testId? = some id ∧
      w.configMap.metadata.place = ⟨namespaceName, generationName t.nameAny id⟩ ∧
      w.configMap.data = some (Workload.configData t.spec) ∧
      w.pod.metadata = w.configMap.metadata := by
  obtain ⟨hc, namespaceName, id, owner, hn, hi, -, rfl⟩ := workload_eq_ok_iff.1 h
  exact ⟨hc, namespaceName, id, hn, hi, rfl, rfl, rfl⟩

/-- A start that gets to its write has last applied the ConfigMap of the Test that it ran on. -/
theorem Computes.lastConfigMap?_start {config : Config} {t u : Test} {round : List Exchange}
    (h : Computes config t .start round u) (earlier : List Exchange) :
    t.check = .ok () ∧ ∃ namespaceName id c,
      t.metadata.namespaceName = some namespaceName ∧ t.testId? = some id ∧
      lastConfigMap? (earlier ++ round) ⟨namespaceName, generationName t.nameAny id⟩ = some c ∧
      c.data = some (Workload.configData t.spec) := by
  cases h with
  | @started n w now hn hw =>
    obtain ⟨hc, namespaceName, id, hn', hi, hp, hd, -⟩ := Test.workload_eq_ok hw
    refine ⟨hc, namespaceName, id, w.configMap, hn', hi, ?_, hd⟩
    -- of the objects of a workload one is a ConfigMap
    have hf : List.filterMap Exchange.configMap?
        ((w.manifests n).map (fun m => ⟨.apply m, .ok ()⟩) ++ [⟨.clock, now⟩]) =
          [w.configMap] := rfl
    rw [lastConfigMap?, List.filterMap_append, hf, List.reverse_append]
    simp [hp]

end Proctor
