import Proctor.Workload.Basic

/-!
# When there is a workload

The workload of a Test is computed if nothing that it is made of is missing: the Test has to be
valid, and it needs a namespace, an id and an identity as an owner, which is a name with a uid. If
several of them are missing, one is told, in just this order (`Test.Lacks`).
-/

namespace Proctor

namespace Test

/-- What is told of a Test from which no workload can be computed: of all that it lacks, what comes
first here. -/
inductive Lacks (t : Test) : Fault → Prop where
  /-- It is not valid. -/
  | validity {f : Fault} (h : t.check = .error f) : t.Lacks f
  /-- It is in no namespace. -/
  | placement (hc : t.check = .ok ()) (hn : t.metadata.namespaceName = none) :
    t.Lacks .missingNamespace
  /-- No generation was begun. -/
  | generation (hc : t.check = .ok ()) (hn : t.metadata.namespaceName ≠ none)
    (hi : t.testId? = none) : t.Lacks (.missingTestId t.nameAny)
  /-- It cannot be referred to as an owner. -/
  | identity (hc : t.check = .ok ()) (hn : t.metadata.namespaceName ≠ none)
    (hi : t.testId? ≠ none) (ho : t.metadata.name = none ∨ t.metadata.uid = none) :
    t.Lacks (.internal (.noUid t.nameAny))

variable {t : Test} {config : Config} {f : Fault} {w : Workload}

theorem ownerReference?_eq_none_iff :
    t.ownerReference? = none ↔ t.metadata.name = none ∨ t.metadata.uid = none := by
  rw [ownerReference?]
  cases t.metadata.name with
  | none => simp
  | some name => cases t.metadata.uid <;> simp

/-- Either something is missing and the first of it is told, or the workload is made of what is
there. -/
theorem workload_cases (t : Test) (config : Config) :
    (∃ f, t.workload config = .error f ∧ t.Lacks f) ∨
      t.check = .ok () ∧ ∃ namespaceName id owner,
        t.metadata.namespaceName = some namespaceName ∧ t.testId? = some id ∧
        t.ownerReference? = some owner ∧
        t.workload config = .ok {
          configMap := {
            metadata := Workload.metadata t namespaceName id owner
            data := some (Workload.configData t.spec) }
          pod := {
            metadata := Workload.metadata t namespaceName id owner
            spec := some (Workload.podSpec t namespaceName id config) } } := by
  rw [workload]
  cases hc : t.check with
  | error f => exact Or.inl ⟨f, rfl, .validity hc⟩
  | ok u =>
    cases hn : t.metadata.namespaceName with
    | none => exact Or.inl ⟨_, rfl, .placement hc hn⟩
    | some namespaceName =>
      have hn' : t.metadata.namespaceName ≠ none := by simp [hn]
      cases hi : t.testId? with
      | none => exact Or.inl ⟨_, rfl, .generation hc hn' hi⟩
      | some id =>
        rw [ownerReference]
        cases ho : t.ownerReference? with
        | none =>
          exact Or.inl ⟨_, rfl, .identity hc hn' (by simp [hi]) (ownerReference?_eq_none_iff.1 ho)⟩
        | some owner => exact Or.inr ⟨rfl, namespaceName, id, owner, rfl, rfl, rfl, rfl⟩

/-- The workload of a Test exists just if the Test is valid and has a namespace, an id and an
identity; and what its objects are called is a matter of these and of its name. -/
theorem workload_eq_ok_iff :
    t.workload config = .ok w ↔
      t.check = .ok () ∧ ∃ namespaceName id owner,
        t.metadata.namespaceName = some namespaceName ∧ t.testId? = some id ∧
        t.ownerReference? = some owner ∧
        w = {
          configMap := {
            metadata := Workload.metadata t namespaceName id owner
            data := some (Workload.configData t.spec) }
          pod := {
            metadata := Workload.metadata t namespaceName id owner
            spec := some (Workload.podSpec t namespaceName id config) } } := by
  constructor
  · intro h
    rcases t.workload_cases config with ⟨f, hf, -⟩ | ⟨hc, namespaceName, id, owner, hn, hi, ho, hw⟩
    · rw [hf] at h
      cases h
    · rw [hw] at h
      cases h
      exact ⟨hc, namespaceName, id, owner, hn, hi, ho, rfl⟩
  · rintro ⟨hc, namespaceName, id, owner, hn, hi, ho, rfl⟩
    rw [workload, hc, hn, hi, ownerReference, ho]
    rfl

/-- Where there is no workload, the first of what is missing is told. -/
theorem workload_eq_error_iff : t.workload config = .error f ↔ t.Lacks f := by
  constructor
  · intro h
    rcases t.workload_cases config with ⟨g, hg, hl⟩ | ⟨-, _, _, _, -, -, -, hw⟩
    · rw [hg] at h
      cases h
      exact hl
    · rw [hw] at h
      cases h
  · intro h
    cases h with
    | validity hc =>
      rw [workload, hc]
      rfl
    | placement hc hn =>
      rw [workload, hc, hn]
      rfl
    | generation hc hn hi =>
      obtain ⟨namespaceName, hn⟩ := Option.ne_none_iff_exists'.1 hn
      rw [workload, hc, hn, hi]
      rfl
    | identity hc hn hi ho =>
      obtain ⟨namespaceName, hn⟩ := Option.ne_none_iff_exists'.1 hn
      obtain ⟨id, hi⟩ := Option.ne_none_iff_exists'.1 hi
      rw [workload, hc, hn, hi, ownerReference, ownerReference?_eq_none_iff.2 ho]
      rfl

/-- There is a workload just if nothing is missing. -/
theorem exists_workload_iff :
    (∃ w, t.workload config = .ok w) ↔
      t.check = .ok () ∧ t.metadata.namespaceName ≠ none ∧ t.testId? ≠ none ∧
        t.metadata.name ≠ none ∧ t.metadata.uid ≠ none := by
  have howner : (t.metadata.name ≠ none ∧ t.metadata.uid ≠ none) ↔ t.ownerReference? ≠ none := by
    rw [ne_eq, ne_eq, ne_eq, ownerReference?_eq_none_iff, not_or]
  rw [howner]
  simp only [workload_eq_ok_iff, Option.ne_none_iff_exists']
  constructor
  · rintro ⟨_, hc, namespaceName, id, owner, hn, hi, ho, rfl⟩
    exact ⟨hc, ⟨namespaceName, hn⟩, ⟨id, hi⟩, owner, ho⟩
  · rintro ⟨hc, ⟨namespaceName, hn⟩, ⟨id, hi⟩, owner, ho⟩
    exact ⟨_, hc, namespaceName, id, owner, hn, hi, ho, rfl⟩

end Test

end Proctor
