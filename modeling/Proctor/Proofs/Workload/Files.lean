import Proctor.Proofs.Test.Validation
import Proctor.Proofs.Workload.Acceptance

/-!
# The files of a generation

The ConfigMap of a generation holds the files of the spec that it was made from. They are put into
it one after the other, each in the place of what has its name already; but as no two files of a
valid spec have one name, none gives way, and the entries are the files in another order
(`StringMap.entries_ofList_perm`). So every file is found under its name, and nothing else is.
-/

namespace Proctor

theorem Text.before_self (s : String) : Text.before s s = false := Text.charsBefore_self _

/-! ### Maps -/

namespace StringMap

theorem lookup_cons_eq (e : String × String) (es : List (String × String)) (k : String) :
    (e :: es).lookup k = if k = e.1 then some e.2 else es.lookup k := by
  by_cases h : k = e.1
  · rw [if_pos h, h, List.lookup_cons_self]
  · have hb : (k == e.1) = false := by simp [h]
    rw [List.lookup_cons, hb, if_neg h]

theorem lookup_place (key value : String) (es : List (String × String)) (k : String) :
    (place key value es).lookup k = if k = key then some value else es.lookup k := by
  induction es with
  | nil => rw [place, lookup_cons_eq]
  | cons e rest ih =>
    rw [place]
    split
    · rw [lookup_cons_eq]
    · next hk =>
      split
      · next hk' =>
        -- no text comes before itself
        have hne : e.1 ≠ key := by
          rintro rfl
          rw [Text.before_self] at hk'
          cases hk'
        rw [lookup_cons_eq, lookup_cons_eq, ih]
        by_cases h : k = e.1
        · rw [if_pos h, if_neg (h ▸ hne), if_pos h]
        · rw [if_neg h, if_neg h]
      · next hk' =>
        have he : e.1 = key :=
          Text.eq_of_not_before (Bool.eq_false_iff.2 hk') (Bool.eq_false_iff.2 hk)
        rw [lookup_cons_eq, lookup_cons_eq, he]
        by_cases h : k = key
        · rw [if_pos h, if_pos h]
        · rw [if_neg h, if_neg h, if_neg h]

theorem get?_insert (m : StringMap) (key value k : String) :
    (m.insert key value).get? k = if k = key then some value else m.get? k :=
  lookup_place key value m.entries k

theorem lookup_eq_some_iff_mem {es : List (String × String)} (h : (es.map Prod.fst).Nodup)
    {k v : String} : es.lookup k = some v ↔ (k, v) ∈ es := by
  induction es with
  | nil => simp
  | cons e rest ih =>
    obtain ⟨k', v'⟩ := e
    rw [List.map_cons, List.nodup_cons] at h
    rw [lookup_cons_eq, List.mem_cons]
    by_cases hk : k = k'
    · subst hk
      have hn : (k, v) ∉ rest := fun hm => h.1 (List.mem_map.2 ⟨_, hm, rfl⟩)
      simp [hn, eq_comm]
    · rw [if_neg hk, ih h.2]
      simp [hk]

/-- The keys, in ascending order. -/
def keys (m : StringMap) : List String := m.entries.map Prod.fst

/-- How many entries there are. -/
def size (m : StringMap) : Nat := m.entries.length

theorem nodup_keys (m : StringMap) : m.keys.Nodup := by
  refine List.pairwise_map.2 (m.sorted.imp fun {a b} h he => ?_)
  -- no text comes before itself
  rw [he, Text.before_self] at h
  cases h

/-- Where no entry has the key, none gives way. -/
theorem place_perm {key value : String} {es : List (String × String)}
    (h : key ∉ es.map Prod.fst) : (place key value es).Perm ((key, value) :: es) := by
  induction es with
  | nil => exact .refl _
  | cons e rest ih =>
    rw [List.map_cons, List.mem_cons, not_or] at h
    rw [place]
    split
    · exact .refl _
    · next hk =>
      split
      · exact ((ih h.2).cons e).trans (.swap _ _ _)
      · next hk' =>
        exact absurd (Text.eq_of_not_before (Bool.eq_false_iff.2 hk) (Bool.eq_false_iff.2 hk')) h.1

/-- Pairs that are put into a map, of which no two have one key and none has a key of the map, are
its entries beside those that it had. -/
theorem foldl_insert_perm {pairs : List (String × String)} {m : StringMap}
    (h : ((pairs ++ m.entries).map Prod.fst).Nodup) :
    (pairs.foldl (fun m e => m.insert e.1 e.2) m).entries.Perm (pairs ++ m.entries) := by
  induction pairs generalizing m with
  | nil => exact .refl _
  | cons e rest ih =>
    rw [List.cons_append, List.map_cons, List.nodup_cons] at h
    have hfresh : e.1 ∉ m.entries.map Prod.fst := by
      intro hm
      rw [List.map_append] at h
      exact h.1 (List.mem_append_right _ hm)
    have hinsert : (rest ++ (m.insert e.1 e.2).entries).Perm (e :: (rest ++ m.entries)) :=
      ((place_perm hfresh).append_left rest).trans List.perm_middle
    have hnodup : ((rest ++ (m.insert e.1 e.2).entries).map Prod.fst).Nodup := by
      rw [(hinsert.map Prod.fst).nodup_iff, List.map_cons]
      exact List.nodup_cons.2 h
    exact (ih hnodup).trans hinsert

/-- Pairs of which no two have one key are the entries of their map, in another order. -/
theorem entries_ofList_perm {pairs : List (String × String)} (h : (pairs.map Prod.fst).Nodup) :
    (ofList pairs).entries.Perm pairs := by
  have he : (pairs ++ empty.entries) = pairs := List.append_nil pairs
  have hp := @foldl_insert_perm pairs empty (he.symm ▸ h)
  rwa [he] at hp

end StringMap

/-! ### Specs -/

namespace Spec

/-- No two files of a valid spec have one name. -/
theorem nodup_names {s : Spec} (h : s.problem? = none) : (s.files.map File.name).Nodup :=
  (fileProblem?_eq_none_iff.1 h).distinct

/-- The files beside the source. -/
def others (s : Spec) : List File :=
  s.settingsFile ++ s.resources.map fun r => ⟨.resource, r.name, r.content⟩

theorem files_eq (s : Spec) :
    s.files = ⟨.source, s.source.name, s.source.content⟩ :: s.others := rfl

end Spec

theorem Test.problem?_spec_of_check {t : Test} (h : t.check = .ok ()) : t.spec.problem? = none :=
  (problem?_eq_none_iff.1 (check_eq_ok_iff.1 h)).2

namespace Workload

/-- The entries of the ConfigMap of a valid spec are its files, in another order. -/
theorem entries_configData_perm {s : Spec} (h : s.problem? = none) :
    (configData s).entries.Perm (s.files.map fun f => (f.name, f.content)) := by
  refine StringMap.entries_ofList_perm ?_
  rw [List.map_map]
  exact Spec.nodup_names h

theorem mem_keys_configData_iff {s : Spec} (h : s.problem? = none) {name : String} :
    name ∈ (configData s).keys ↔ name ∈ s.fileNames.map Prod.snd := by
  have hp := (entries_configData_perm h).map Prod.fst
  rw [StringMap.keys, hp.mem_iff, ← Spec.map_label_files, List.map_map, List.map_map]
  rfl

theorem size_configData {s : Spec} (h : s.problem? = none) :
    (configData s).size = s.fileNames.length := by
  rw [StringMap.size, (entries_configData_perm h).length_eq, ← Spec.map_label_files,
    List.length_map, List.length_map]

/-- The ConfigMap of a valid spec holds its files and nothing else. -/
theorem get?_configData_iff {s : Spec} (h : s.problem? = none) {name content : String} :
    (configData s).get? name = some content ↔
      ∃ f ∈ s.files, f.name = name ∧ f.content = content := by
  rw [StringMap.get?, StringMap.lookup_eq_some_iff_mem (StringMap.nodup_keys _),
    (entries_configData_perm h).mem_iff, List.mem_map]
  simp

/-- A file of a valid spec is found in the ConfigMap under its name. -/
theorem get?_configData_of_mem {s : Spec} (h : s.problem? = none) {f : Spec.File}
    (hf : f ∈ s.files) : (configData s).get? f.name = some f.content :=
  (get?_configData_iff h).2 ⟨f, hf, rfl, rfl⟩

/-- When only the source was edited, a valid spec finds its source in the ConfigMap of another one
just if that one had a source of the same name and content. -/
theorem get?_configData_source_iff {s t : Spec} (hs : s.problem? = none) (ht : t.problem? = none)
    (ho : s.others = t.others) :
    (configData s).get? t.source.name = some t.source.content ↔
      s.source.name = t.source.name ∧ s.source.content = t.source.content := by
  have hn := t.nodup_names ht
  rw [Spec.files_eq, List.map_cons, List.nodup_cons] at hn
  rw [get?_configData_iff hs, Spec.files_eq, ho]
  constructor
  · rintro ⟨f, hf, hfn, hfc⟩
    rcases List.mem_cons.1 hf with rfl | hf
    · exact ⟨hfn, hfc⟩
    · exact absurd (List.mem_map.2 ⟨f, hf, hfn⟩) hn.1
  · rintro ⟨h₁, h₂⟩
    exact ⟨_, List.mem_cons_self, h₁, h₂⟩

end Workload

/-! ### Workloads -/

namespace Test

/-- No file is lost or takes the place of another one: the ConfigMap of a workload has one entry for
each file of the Test, under the name of the file and with its text, and no other entries. -/
theorem workload_keeps_files {t : Test} {config : Config} {w : Workload}
    (h : t.workload config = .ok w) :
    ∃ data, w.configMap.data = some data ∧ data.keys.Nodup ∧
      (∀ name, name ∈ data.keys ↔
        name = t.spec.source.name ∨ t.spec.settingsName? = some name ∨
          ∃ r ∈ t.spec.resources, r.name = name) ∧
      data.get? t.spec.source.name = some t.spec.source.content ∧
      (∀ settings name, t.spec.settings = some settings → t.spec.settingsName? = some name →
        data.get? name = some settings.content) ∧
      (∀ r ∈ t.spec.resources, data.get? r.name = some r.content) ∧
      data.size =
        1 + (if t.spec.settingsName?.isSome then 1 else 0) + t.spec.resources.length := by
  obtain ⟨hc, namespaceName, id, owner, -, -, -, rfl⟩ := workload_eq_ok_iff.1 h
  have hp := problem?_spec_of_check hc
  refine ⟨_, rfl, StringMap.nodup_keys _, fun name => ?_, ?_, fun settings name hs hn => ?_,
    fun r hr => ?_, ?_⟩
  · rw [Workload.mem_keys_configData_iff hp, Spec.fileNames]
    cases t.spec.settingsName? <;> simp [eq_comm]
  · exact Workload.get?_configData_of_mem hp List.mem_cons_self
  · refine Workload.get?_configData_of_mem (f := ⟨.settings, name, settings.content⟩) hp ?_
    simp [Spec.files, Spec.settingsFile_eq, hs, hn]
  · exact Workload.get?_configData_of_mem (f := ⟨.resource, r.name, r.content⟩) hp
      (List.mem_append_right _ (List.mem_map.2 ⟨r, hr, rfl⟩))
  · rw [Workload.size_configData hp, Spec.fileNames]
    cases t.spec.settingsName? <;> simp <;> omega

/-- A Test with files of all kinds; there are blanks around the name of its settings. -/
def equipped : Test :=
  { metadata := { name := some "hello", namespaceName := some "default", uid := some "uid" }
    spec :=
      { source := { name := "hello.feature", content := "Feature: hello" }
        settings := some { name := some " yaks.properties ", content := "a=b" }
        resources := [{ name := "data.json", content := "1" }, { name := "a b", content := "2" }] }
    status := some { phase := .pending, testId := some "1" } }

theorem equipped_keeps_files : ∃ w data, equipped.workload {} = .ok w ∧
    w.configMap.data = some data ∧ data.size = 4 ∧
    data.get? "yaks.properties" = some "a=b" ∧ data.get? "a b" = some "2" := by
  have hw : ∃ w, equipped.workload {} = .ok w :=
    exists_workload_iff.2 ⟨rfl, by decide, by decide, by decide, by decide⟩
  obtain ⟨w, hw⟩ := hw
  obtain ⟨data, hdata, -, -, -, hsettings, hresources, hsize⟩ := workload_keeps_files hw
  exact ⟨w, data, hw, hdata, hsize, hsettings _ _ rfl (by decide),
    hresources { name := "a b", content := "2" } (by decide)⟩

end Test

end Proctor
