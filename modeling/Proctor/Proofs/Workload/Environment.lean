import Mathlib.Data.List.Nodup
import Proctor.Proofs.Workload.Acceptance

/-!
# The variables of a run

The variables of a run are of two kinds. Some of them the controller sets itself: those that every
run has, one for a Secret, and one for settings. No two of these have the same name. The others are
asked for by the spec, and nobody looks whether their names are taken: each entry that can be read
gives a variable. So all names are different just if the spec asks for different names and for none
that the controller uses (`Workload.nodup_names_env_iff`), and what the controller sets stays
unchallenged unless the spec asks for its name with another value (`Workload.only_of_name_iff`).
-/

namespace Proctor

namespace Workload

variable {t : Test} {namespaceName id : String} {entries : List String} {v : EnvVar}

/-! ### What the controller sets and what is asked for -/

/-- The variables that the controller sets itself. -/
def ownEnv (t : Test) (namespaceName id : String) : List EnvVar :=
  frameworkEnv t.nameAny namespaceName id ++ secretEnv t.spec.secret ++
    settingsEnv t.spec.settings

/-- The variables of a run are those that the controller sets and those that are asked for. -/
theorem env_perm (t : Test) (namespaceName id : String) :
    (env t namespaceName id).Perm (ownEnv t namespaceName id ++ userEnv t.spec.env) := by
  rw [env, ownEnv, List.append_assoc, List.append_assoc _ (settingsEnv _)]
  exact List.perm_append_comm.append_left _

theorem mem_userEnv_iff :
    v ∈ userEnv entries ↔ ∃ e ∈ entries.filterMap envVariable?, EnvVar.ofValue e.1 e.2 = v :=
  List.mem_map

theorem map_name_userEnv (entries : List String) :
    (userEnv entries).map EnvVar.name = (entries.filterMap envVariable?).map Prod.fst := by
  rw [userEnv, List.map_map]
  rfl

theorem secretEnv_cases (secret : Option String) :
    secretEnv secret = [] ∨ secretEnv secret = [.ofValue "YAKS_SECRETS_PATH" secretsPath] := by
  cases secret with
  | none => exact Or.inl rfl
  | some s => exact Or.inr rfl

theorem settingsEnv_cases (settings : Option Settings) :
    settingsEnv settings = [] ∨ ∃ x, settingsEnv settings = [.ofValue "YAKS_SETTINGS_FILE" x] ∨
      settingsEnv settings = [.ofValue "YAKS_DEPENDENCIES" x] := by
  cases settings with
  | none => exact Or.inl rfl
  | some s =>
    rw [settingsEnv]
    cases s.fileName? with
    | some file => exact Or.inr ⟨_, Or.inl rfl⟩
    | none =>
      cases Text.isBlankText s.content with
      | true => exact Or.inl rfl
      | false => exact Or.inr ⟨_, Or.inr rfl⟩

/-- The controller sets no name twice. -/
theorem nodup_names_ownEnv (t : Test) (namespaceName id : String) :
    ((ownEnv t namespaceName id).map EnvVar.name).Nodup := by
  rw [ownEnv, frameworkEnv]
  rcases secretEnv_cases t.spec.secret with hs | hs <;>
    rcases settingsEnv_cases t.spec.settings with hc | ⟨x, hc | hc⟩ <;>
    · rw [hs, hc]
      simp [EnvVar.ofValue]

/-- What the controller sets has a name and a value and nothing else. -/
theorem eq_ofValue_of_mem_ownEnv (h : v ∈ ownEnv t namespaceName id) :
    ∃ name value, v = .ofValue name value := by
  rw [ownEnv, List.mem_append, List.mem_append] at h
  rcases h with (h | h) | h
  · simp only [frameworkEnv, List.mem_cons, List.not_mem_nil, or_false] at h
    rcases h with rfl | rfl | rfl | rfl | rfl <;> exact ⟨_, _, rfl⟩
  · rcases secretEnv_cases t.spec.secret with hs | hs <;> rw [hs] at h
    · cases h
    · obtain rfl := List.mem_singleton.1 h
      exact ⟨_, _, rfl⟩
  · rcases settingsEnv_cases t.spec.settings with hc | ⟨x, hc | hc⟩ <;> rw [hc] at h
    · cases h
    · obtain rfl := List.mem_singleton.1 h
      exact ⟨_, _, rfl⟩
    · obtain rfl := List.mem_singleton.1 h
      exact ⟨_, _, rfl⟩

/-! ### Both together -/

/-- No two variables of a run have the same name just if the spec asks for no name twice and for
none that the controller uses. -/
theorem nodup_names_env_iff :
    ((env t namespaceName id).map EnvVar.name).Nodup ↔
      ((t.spec.env.filterMap envVariable?).map Prod.fst).Nodup ∧
        ∀ e ∈ t.spec.env.filterMap envVariable?,
          e.1 ∉ (ownEnv t namespaceName id).map EnvVar.name := by
  rw [((env_perm t namespaceName id).map _).nodup_iff, List.map_append, List.nodup_append,
    map_name_userEnv]
  constructor
  · rintro ⟨-, hasked, hapart⟩
    exact ⟨hasked, fun e he hown => hapart _ hown _ (List.mem_map_of_mem he) rfl⟩
  · rintro ⟨hasked, hapart⟩
    refine ⟨nodup_names_ownEnv t namespaceName id, hasked, ?_⟩
    rintro name hown _ hname rfl
    obtain ⟨e, he, rfl⟩ := List.mem_map.1 hname
    exact hapart e he hown

/-- All variables of the name of one that the controller sets are that same one just if the spec
does not ask for the name with another value. -/
theorem only_of_name_iff (hv : v ∈ ownEnv t namespaceName id) :
    (∀ u ∈ env t namespaceName id, u.name = v.name → u = v) ↔
      ∀ e ∈ t.spec.env.filterMap envVariable?, e.1 = v.name → v.value = some e.2 := by
  have hmem : ∀ u, u ∈ env t namespaceName id ↔
      u ∈ ownEnv t namespaceName id ∨ u ∈ userEnv t.spec.env :=
    fun u => (env_perm t namespaceName id).mem_iff.trans List.mem_append
  constructor
  · intro h e he hname
    rw [← h (.ofValue e.1 e.2) ((hmem _).2 (Or.inr (mem_userEnv_iff.2 ⟨e, he, rfl⟩))) hname]
    rfl
  · intro h u hu hname
    rcases (hmem u).1 hu with hu | hu
    · exact List.inj_on_of_nodup_map (nodup_names_ownEnv t namespaceName id) hu hv hname
    · obtain ⟨e, he, rfl⟩ := mem_userEnv_iff.1 hu
      obtain ⟨name, value, rfl⟩ := eq_ofValue_of_mem_ownEnv hv
      obtain rfl : value = e.2 := Option.some.inj (h e he hname)
      exact congrArg (EnvVar.ofValue · e.2) hname

end Workload

/-! ### Workloads -/

namespace Test

/-- The variables of a workload's container are those that the controller sets, of which no two have
the same name, and one for each entry of the spec that can be read. All names are different, so that
a list keyed by name takes them, just if the entries ask for different names and for none that the
controller uses. A variable that the controller sets is always there, and all variables of its name
are that same one just if no entry asks for the name with another value. -/
theorem variables_distinct_iff {t : Test} {config : Config} {w : Workload}
    (h : t.workload config = .ok w) :
    ∃ namespaceName id spec container vars,
      t.metadata.namespaceName = some namespaceName ∧ t.testId? = some id ∧
      w.pod.spec = some spec ∧ spec.containers = [container] ∧ container.env = some vars ∧
      let own := Workload.ownEnv t namespaceName id
      let asked := t.spec.env.filterMap envVariable?
      vars.Perm (own ++ asked.map fun e => .ofValue e.1 e.2) ∧
      (own.map EnvVar.name).Nodup ∧
      ((vars.map EnvVar.name).Nodup ↔
        (asked.map Prod.fst).Nodup ∧ ∀ e ∈ asked, e.1 ∉ own.map EnvVar.name) ∧
      ∀ v ∈ own, v ∈ vars ∧
        ((∀ u ∈ vars, u.name = v.name → u = v) ↔
          ∀ e ∈ asked, e.1 = v.name → v.value = some e.2) := by
  obtain ⟨-, namespaceName, id, owner, hn, hi, -, rfl⟩ := workload_eq_ok_iff.1 h
  have hperm := Workload.env_perm t namespaceName id
  exact ⟨namespaceName, id, _, _, _, hn, hi, rfl, rfl, rfl, hperm,
    Workload.nodup_names_ownEnv t namespaceName id, Workload.nodup_names_env_iff,
    fun v hv => ⟨hperm.mem_iff.2 (List.mem_append_left _ hv), Workload.only_of_name_iff hv⟩⟩

/-- A Test that asks for variables. -/
def asking (entries : List String) : Test :=
  { metadata := { name := some "hello", namespaceName := some "default", uid := some "uid" }
    spec :=
      { source := { name := "hello.feature", content := "Feature: hello" }
        settings := some { name := some "yaks.properties", content := "a=b" }
        env := entries }
    status := some { phase := .pending, testId := some "1" } }

theorem exists_workload_asking {entries : List String} (h : (asking entries).check = .ok ()) :
    ∃ w, (asking entries).workload {} = .ok w :=
  exists_workload_iff.2 ⟨h, by simp [asking], by simp [asking, testId?], by simp [asking],
    by simp [asking]⟩

theorem asking_distinct :
    ∃ w spec container vars, (asking ["FOO=bar", "broken", " BAR = foo "]).workload {} = .ok w ∧
      w.pod.spec = some spec ∧ spec.containers = [container] ∧ container.env = some vars ∧
      (vars.map EnvVar.name).Nodup := by
  obtain ⟨w, hw⟩ : ∃ w, (asking ["FOO=bar", "broken", " BAR = foo "]).workload {} = .ok w :=
    exists_workload_asking rfl
  obtain ⟨namespaceName, id, spec, container, vars, hn, hi, hs, hc, hv, -, -, hiff, -⟩ :=
    variables_distinct_iff hw
  cases hn
  cases hi
  exact ⟨w, spec, container, vars, hw, hs, hc, hv, hiff.2 ⟨by decide, by decide⟩⟩

/-- Entries that ask for one name twice, and for one that the controller uses, are granted. -/
theorem asking_repeats :
    ∃ w spec container vars, (asking ["A=1", " A = 2 ", "YAKS_TEST_ID=2"]).workload {} = .ok w ∧
      w.pod.spec = some spec ∧ spec.containers = [container] ∧ container.env = some vars ∧
      ¬ (vars.map EnvVar.name).Nodup ∧ EnvVar.ofValue "YAKS_TEST_ID" "1" ∈ vars ∧
      EnvVar.ofValue "YAKS_TEST_ID" "2" ∈ vars := by
  obtain ⟨w, hw⟩ : ∃ w, (asking ["A=1", " A = 2 ", "YAKS_TEST_ID=2"]).workload {} = .ok w :=
    exists_workload_asking rfl
  obtain ⟨-, _, _, _, hn, hi, -, rfl⟩ := workload_eq_ok_iff.1 hw
  cases hn
  cases hi
  exact ⟨_, _, _, _, hw, rfl, rfl, rfl, by decide, by decide, by decide⟩

end Test

end Proctor
