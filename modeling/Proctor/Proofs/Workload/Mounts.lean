import Mathlib.Data.List.Forall2
import Proctor.Proofs.Workload.Files

/-!
# What a Pod is told and what it finds

The ConfigMap, the volumes and the variables of a run are made apart from each other, and each of
them looks by itself whether there are settings, whether these have a name and whether there is a
Secret. They agree: of the Secret a run is told, and finds, all or nothing (`SecretTold`); and of
the settings it is told the path of a file that the ConfigMap has, or their text, and then the
ConfigMap has nothing of them (`SettingsTold`).

## What is left out

That what is mounted can be read at its path is the work of the cluster. Of the Secret a Test has
but the name, and nobody looks whether there is one of that name.
-/

namespace Proctor

theorem EnvVar.ofValue_inj {name name' value value' : String} :
    EnvVar.ofValue name value = .ofValue name' value' ↔ name = name' ∧ value = value' := by
  simp [ofValue]

namespace Workload

/-! ### The Secret -/

/-- What a run is told of its Secret, the volume and the mount: all of it, or nothing. -/
inductive SecretTold : Option String → List EnvVar → List Volume → List VolumeMount → Prop where
  /-- There is no Secret. -/
  | absent : SecretTold none [] [] []
  /-- There is one, and it is mounted where the run is told to look for it. -/
  | mounted (secret : String) :
    SecretTold (some secret) [.ofValue "YAKS_SECRETS_PATH" "/etc/yaks/secrets"]
      [{ name := "secrets", secret := some { secretName := some secret } }]
      [.readOnlyAt "/etc/yaks/secrets" "secrets"]

/-- The volumes and mounts of a run are those of its files and those of its Secret. -/
theorem exists_secretTold (configMap : String) (secret : Option String) :
    ∃ secretVolumes secretMounts,
      SecretTold secret (secretEnv secret) secretVolumes secretMounts ∧
      volumes configMap secret =
        { name := "tests", configMap := some { name := configMap } } :: secretVolumes ∧
      mounts secret = .readOnlyAt "/etc/yaks/tests" "tests" :: secretMounts := by
  cases secret with
  | none => exact ⟨[], [], .absent, rfl, rfl⟩
  | some secret => exact ⟨_, _, .mounted secret, rfl, rfl⟩

/-- Volumes and mounts have the same names, of which no two are the same. -/
theorem SecretTold.names {secret : Option String} {vars : List EnvVar}
    {secretVolumes : List Volume} {secretMounts : List VolumeMount}
    (h : SecretTold secret vars secretVolumes secretMounts) :
    secretVolumes.map Volume.name = secretMounts.map VolumeMount.name ∧
      ("tests" :: secretVolumes.map Volume.name).Nodup := by
  cases h with
  | absent => exact ⟨rfl, by simp⟩
  | mounted secret => exact ⟨rfl, by simp⟩

/-! ### The variables that are asked for -/

/-- Each entry that can be read gives one variable, in the order of the entries. -/
theorem forall₂_userEnv (entries : List String) :
    List.Forall₂
      (fun entry v => ∃ name value, envVariable? entry = some (name, value) ∧
        v = EnvVar.ofValue name value)
      (entries.filter fun entry => (envVariable? entry).isSome) (userEnv entries) := by
  induction entries with
  | nil => exact .nil
  | cons entry rest ih =>
    rw [userEnv]
    cases he : envVariable? entry with
    | none =>
      rw [List.filter_cons_of_neg (by simp [he]), List.filterMap_cons_none he]
      exact ih
    | some e =>
      rw [List.filter_cons_of_pos (by simp [he]), List.filterMap_cons_some he]
      exact .cons ⟨e.1, e.2, he, rfl⟩ ih

/-! ### The settings -/

/-- What a run is told of its settings, and what the ConfigMap has of them. -/
structure SettingsTold (s : Spec) (data : StringMap) (vars : List EnvVar) : Prop where
  /-- There is one variable at most. -/
  length_le : vars.length ≤ 1
  /-- It tells where a file is, or it tells a text. -/
  shape : ∀ v ∈ vars,
    (∃ name, v = .ofValue "YAKS_SETTINGS_FILE" ("/etc/yaks/tests/" ++ name)) ∨
      ∃ text, v = .ofValue "YAKS_DEPENDENCIES" text
  /-- A file is told just if the settings have a name, and under this name. -/
  file_iff : ∀ name,
    EnvVar.ofValue "YAKS_SETTINGS_FILE" ("/etc/yaks/tests/" ++ name) ∈ vars ↔
      s.settingsName? = some name
  /-- A text is told just if it is that of settings without a name, and not blank. -/
  text_iff : ∀ text, EnvVar.ofValue "YAKS_DEPENDENCIES" text ∈ vars ↔
    s.settingsName? = none ∧ s.settings.map Settings.content = some text ∧ Text.trim text ≠ ""
  /-- The file of the settings has their text. -/
  stored : ∀ settings name, s.settings = some settings → s.settingsName? = some name →
    data.get? name = some settings.content
  /-- Settings without a name have no file. -/
  spared : s.settingsName? = none →
    ∀ name, name ∈ data.keys ↔ name = s.source.name ∨ ∃ r ∈ s.resources, r.name = name

theorem settingsEnv_eq (s : Spec) :
    settingsEnv s.settings =
      match s.settingsName? with
      | some name => [.ofValue "YAKS_SETTINGS_FILE" ("/etc/yaks/tests/" ++ name)]
      | none => ((s.settings.map Settings.content).filter (Text.trim · ≠ "")).toList.map
        (EnvVar.ofValue "YAKS_DEPENDENCIES") := by
  cases hs : s.settings with
  | none => simp [Spec.settingsName?, hs, settingsEnv]
  | some settings =>
    rw [settingsEnv, ← Spec.fileName?_eq_settingsName? hs]
    cases settings.fileName? with
    | some name => rfl
    | none =>
      by_cases hb : Text.trim settings.content = ""
      · simp [Text.trim_eq_empty_iff.1 hb, hb, Option.filter]
      · have hb' : Text.isBlankText settings.content = false := by
          rwa [Text.trim_eq_empty_iff, Bool.not_eq_true] at hb
        simp [hb, hb', Option.filter]

theorem settingsTold {s : Spec} (h : s.problem? = none) :
    SettingsTold s (configData s) (settingsEnv s.settings) := by
  have hstored : ∀ settings name, s.settings = some settings → s.settingsName? = some name →
      (configData s).get? name = some settings.content := by
    intro settings name hs hn
    refine get?_configData_of_mem (f := ⟨.settings, name, settings.content⟩) h ?_
    simp [Spec.files, Spec.settingsFile_eq, hs, hn]
  have hspared : s.settingsName? = none → ∀ name, name ∈ (configData s).keys ↔
      name = s.source.name ∨ ∃ r ∈ s.resources, r.name = name := by
    intro hn name
    rw [mem_keys_configData_iff h, Spec.fileNames, hn]
    simp
  rw [settingsEnv_eq]
  cases hn : s.settingsName? with
  | some name =>
    refine ⟨by simp, fun v hv => Or.inl ⟨name, List.mem_singleton.1 hv⟩, fun name' => ?_,
      fun text => ?_, hstored, hspared⟩
    · simp [hn, EnvVar.ofValue_inj, eq_comm]
    · simp [hn, EnvVar.ofValue_inj]
  | none =>
    refine ⟨?_, fun v hv => ?_, fun name' => ?_, fun text => ?_, hstored, hspared⟩
    · cases (s.settings.map Settings.content).filter (Text.trim · ≠ "") <;> simp
    · obtain ⟨text, -, rfl⟩ := List.mem_map.1 hv
      exact Or.inr ⟨text, rfl⟩
    · simp [hn, EnvVar.ofValue_inj]
    · simp [hn, EnvVar.ofValue_inj]

end Workload

/-! ### Workloads -/

namespace Test

/-- What a Pod is told is what it finds. Its container is told of the run, of the Secret, of what
the entries of the spec ask for, and of the settings. The files of the ConfigMap that was made with
the Pod, and the Secret if there is one, are mounted where the container is told, and each volume
has its mount. -/
theorem told_as_mounted {t : Test} {config : Config} {w : Workload}
    (h : t.workload config = .ok w) :
    ∃ namespaceName id name data spec container secretVars secretVolumes secretMounts asked
        settingsVars volumes mounts,
      t.metadata.namespaceName = some namespaceName ∧ t.testId? = some id ∧
      w.configMap.metadata.name = some name ∧
      w.configMap.metadata.namespaceName = w.pod.metadata.namespaceName ∧
      w.configMap.data = some data ∧
      w.pod.spec = some spec ∧ spec.containers = [container] ∧
      container.env = some ([
          .ofValue "YAKS_TERMINATION_LOG" "/dev/termination-log",
          .ofValue "YAKS_TESTS_PATH" "/etc/yaks/tests",
          .ofValue "YAKS_NAMESPACE" namespaceName,
          .ofValue "YAKS_TEST_NAME" t.nameAny,
          .ofValue "YAKS_TEST_ID" id] ++ secretVars ++ asked ++ settingsVars) ∧
      Workload.SecretTold t.spec.secret secretVars secretVolumes secretMounts ∧
      List.Forall₂
        (fun entry v => ∃ name value, envVariable? entry = some (name, value) ∧
          v = EnvVar.ofValue name value)
        (t.spec.env.filter fun entry => (envVariable? entry).isSome) asked ∧
      Workload.SettingsTold t.spec data settingsVars ∧
      spec.volumes = some volumes ∧ container.volumeMounts = some mounts ∧
      volumes = { name := "tests", configMap := some { name } } :: secretVolumes ∧
      mounts = .readOnlyAt "/etc/yaks/tests" "tests" :: secretMounts ∧
      volumes.map Volume.name = mounts.map VolumeMount.name ∧
      (volumes.map Volume.name).Nodup := by
  obtain ⟨hc, namespaceName, id, owner, hn, hi, -, rfl⟩ := workload_eq_ok_iff.1 h
  obtain ⟨secretVolumes, secretMounts, hsecret, hv, hm⟩ :=
    Workload.exists_secretTold (generationName t.nameAny id) t.spec.secret
  obtain ⟨hnames, hnodup⟩ := hsecret.names
  refine ⟨namespaceName, id, _, _, _, _, _, secretVolumes, secretMounts, _, _, _, _, hn, hi, rfl,
    rfl, rfl, rfl, rfl, rfl, hsecret, Workload.forall₂_userEnv t.spec.env,
    Workload.settingsTold (problem?_spec_of_check hc), rfl, rfl, hv, hm, ?_, ?_⟩
  · rw [hv, hm, List.map_cons, List.map_cons, hnames]
    rfl
  · rw [hv, List.map_cons]
    exact hnodup

/-- A Test with a Secret, with variables and with settings that have a name. -/
def outfitted : Test :=
  { metadata := { name := some "hello", namespaceName := some "default", uid := some "uid" }
    spec :=
      { source := { name := "hello.feature", content := "Feature: hello" }
        settings := some { name := some " yaks.properties ", content := "a=b" }
        env := ["FOO=bar", "broken"]
        secret := some "creds" }
    status := some { phase := .pending, testId := some "1" } }

theorem outfitted_told : ∃ w data spec container vars, outfitted.workload {} = .ok w ∧
    w.configMap.data = some data ∧ w.pod.spec = some spec ∧ spec.containers = [container] ∧
    container.env = some vars ∧
    EnvVar.ofValue "YAKS_SETTINGS_FILE" "/etc/yaks/tests/yaks.properties" ∈ vars ∧
    data.get? "yaks.properties" = some "a=b" := by
  have hw : ∃ w, outfitted.workload {} = .ok w :=
    exists_workload_iff.2 ⟨rfl, by decide, by decide, by decide, by decide⟩
  obtain ⟨w, hw⟩ := hw
  obtain ⟨_, _, _, data, spec, container, _, _, _, _, _, _, _, -, -, -, -, hd, hs, hc, hv, -, -,
    hsettings, -⟩ := told_as_mounted hw
  have hn : outfitted.spec.settingsName? = some "yaks.properties" := by decide
  have hfile := (hsettings.file_iff "yaks.properties").2 hn
  have hpath : "/etc/yaks/tests/" ++ "yaks.properties" = "/etc/yaks/tests/yaks.properties" := by
    decide
  rw [hpath] at hfile
  exact ⟨w, data, spec, container, _, hw, hd, hs, hc, hv, List.mem_append_right _ hfile,
    hsettings.stored _ _ rfl hn⟩

end Test

end Proctor
