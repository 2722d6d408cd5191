import Mathlib.Data.List.Basic
import Proctor.Api.Controller
import Proctor.Proofs.Lists
import Proctor.Proofs.Text.Parts
import Proctor.Proofs.Workload.Generations

/-!
# Selecting Pods by their labels

A selector is the entries of labels, with an equals sign in each and commas between them, and
nothing in it is escaped. So it can be read again if no key and no value has one of these marks: its
parts are the entries, in the order of the keys (`split_labelSelector`), unless there are none,
since no text is without a part. A Pod is selected if it carries what is read. So the controller,
which watches the Pods that carry its own label, sees those of all workloads (`selects_appLabels`);
and the labels of a generation select the Pod of that generation and no other one
(`selects_workloadLabels_iff`).

## What is left out

A cluster knows more about selectors than is told here: keys that have to be there or must not be,
and keys whose value is one of several or none of them. No selector that the controller writes asks
for such a thing, so a part that is no entry is passed over here (`selectorEntries`).
-/

namespace Proctor

/-! ### Reading a selector -/

/-- The text has none of the marks of a selector. -/
def Label.IsPlain (s : String) : Prop := ',' ∉ s.toList ∧ '=' ∉ s.toList

instance : DecidablePred Label.IsPlain := fun s =>
  inferInstanceAs (Decidable (',' ∉ s.toList ∧ '=' ∉ s.toList))

/-- No key and no value has one of the marks of a selector. -/
def StringMap.IsPlain (m : StringMap) : Prop :=
  ∀ e ∈ m.entries, Label.IsPlain e.1 ∧ Label.IsPlain e.2

/-- The key and the value in a part of a selector. -/
def selectorPair? (part : String) : Option (String × String) :=
  match Text.split '=' part with
  | [key, value] => some (key, value)
  | _ => none

/-- The keys and values that a selector asks for. -/
def selectorEntries (selector : String) : List (String × String) :=
  (Text.split ',' selector).filterMap selectorPair?

/-- An object with these labels is selected: it carries all that the selector asks for. -/
def Selects (selector : String) (labels : StringMap) : Prop :=
  ∀ e ∈ selectorEntries selector, labels.get? e.1 = some e.2

/-! ### Reading what was written -/

section

variable {m n : StringMap} {labels : StringMap} {e : String × String}

theorem split_entry (h : Label.IsPlain e.1 ∧ Label.IsPlain e.2) :
    Text.split '=' (e.1 ++ "=" ++ e.2) = [e.1, e.2] :=
  Text.split_eq_pair_iff.2 ⟨rfl, h.1.2, h.2.2⟩

theorem selectorPair?_entry (h : Label.IsPlain e.1 ∧ Label.IsPlain e.2) :
    selectorPair? (e.1 ++ "=" ++ e.2) = some e := by
  rw [selectorPair?, split_entry h]

theorem comma_not_mem_entry (h : Label.IsPlain e.1 ∧ Label.IsPlain e.2) :
    ',' ∉ (e.1 ++ "=" ++ e.2).toList := by
  simp only [String.toList_append, List.mem_append, not_or]
  exact ⟨⟨h.1.1, by decide⟩, h.2.1⟩

/-- The parts of a selector that asks for something are the entries of the labels. -/
theorem split_labelSelector (h : m.IsPlain) (hne : m.entries ≠ []) :
    Text.split ',' (labelSelector m) = m.entries.map fun e => e.1 ++ "=" ++ e.2 := by
  refine Text.split_intercalate (by simpa using hne) fun part hpart => ?_
  obtain ⟨e, he, rfl⟩ := List.mem_map.1 hpart
  exact comma_not_mem_entry (h e he)

theorem labelSelector_eq_empty (h : m.entries = []) : labelSelector m = "" := by
  rw [labelSelector, h]
  rfl

/-- The empty text has one part, which has no equals sign. -/
theorem split_split_labelSelector (h : m.IsPlain) :
    (Text.split ',' (labelSelector m)).map (Text.split '=') =
      if m.entries = [] then [[""]] else m.entries.map fun e => [e.1, e.2] := by
  split
  · next hnil =>
    rw [labelSelector_eq_empty hnil]
    rfl
  · next hne =>
    rw [split_labelSelector h hne, List.map_map]
    exact List.map_congr_left fun e he => split_entry (h e he)

theorem selectorEntries_labelSelector (h : m.IsPlain) :
    selectorEntries (labelSelector m) = m.entries := by
  by_cases hne : m.entries = []
  · rw [labelSelector_eq_empty hne, hne]
    rfl
  · rw [selectorEntries, split_labelSelector h hne, List.filterMap_map]
    exact (List.filterMap_congr fun e he => selectorPair?_entry (h e he)).trans
      List.filterMap_some

theorem labelSelector_inj (hm : m.IsPlain) (hn : n.IsPlain) :
    labelSelector m = labelSelector n ↔ m = n := by
  constructor
  · intro h
    apply StringMap.ext
    rw [← selectorEntries_labelSelector hm, ← selectorEntries_labelSelector hn, h]
  · exact congrArg labelSelector

/-- What is selected has every entry of the labels. -/
theorem selects_labelSelector_iff (h : m.IsPlain) :
    Selects (labelSelector m) labels ↔
      ∀ key value, m.get? key = some value → labels.get? key = some value := by
  rw [Selects, selectorEntries_labelSelector h]
  constructor
  · intro hsel key value hget
    exact hsel (key, value) ((StringMap.lookup_eq_some_iff_mem m.nodup_keys).1 hget)
  · rintro hsel ⟨key, value⟩ he
    exact hsel key value ((StringMap.lookup_eq_some_iff_mem m.nodup_keys).2 he)

end

/-! ### The labels of a generation -/

theorem StringMap.isPlain_empty : StringMap.empty.IsPlain := nofun

theorem StringMap.IsPlain.insert {m : StringMap} {key value : String} (h : m.IsPlain)
    (hk : Label.IsPlain key) (hv : Label.IsPlain value) : (m.insert key value).IsPlain := by
  intro e he
  rcases StringMap.mem_place he with rfl | he
  · exact ⟨hk, hv⟩
  · exact h e he

theorem isPlain_appLabels : appLabels.IsPlain :=
  StringMap.isPlain_empty.insert (by decide) (by decide)

theorem isPlain_workloadLabels {test id : String} (ht : Label.IsPlain test)
    (hi : Label.IsPlain id) : (workloadLabels test id).IsPlain := by
  have htest : Label.IsPlain Label.test := by decide
  have hid : Label.IsPlain Label.testId := by decide
  exact (isPlain_appLabels.insert htest ht).insert hid hi

theorem get?_appLabels (key : String) :
    appLabels.get? key = if key = Label.app then some Label.appValue else none :=
  StringMap.get?_insert _ _ _ _

/-- All generations carry what the controller watches Pods by. -/
theorem selects_appLabels (test id : String) :
    Selects (labelSelector appLabels) (workloadLabels test id) := by
  rw [selects_labelSelector_iff isPlain_appLabels]
  intro key value h
  rw [get?_appLabels] at h
  split at h
  · next hkey =>
    subst hkey
    rw [get?_workloadLabels, ← h]
    rfl
  · cases h

/-- The labels of a generation select that generation and no other one. -/
theorem selects_workloadLabels_iff {test id test' id' : String} (ht : Label.IsPlain test)
    (hi : Label.IsPlain id) :
    Selects (labelSelector (workloadLabels test id)) (workloadLabels test' id') ↔
      test' = test ∧ id' = id := by
  rw [selects_labelSelector_iff (isPlain_workloadLabels ht hi)]
  constructor
  · intro h
    have htest := h Label.test test (by rw [get?_workloadLabels]; rfl)
    have hid := h Label.testId id (by rw [get?_workloadLabels]; rfl)
    rw [get?_workloadLabels] at htest hid
    exact ⟨Option.some.inj htest, Option.some.inj hid⟩
  · rintro ⟨rfl, rfl⟩ key value h
    exact h

/-! ### The Pods of workloads -/

/-- The controller lists and watches Pods with this selector, wherever it does so. -/
def Controller.WatchesPods (selector : String) : Prop :=
  ∀ namespaceName requests, watchRequests namespaceName = .ok requests →
    requests.map .ok =
      [Request.list (Collection.tests.path namespaceName) none,
        Request.list (Collection.pods.path namespaceName) (some selector),
        Request.watch (Collection.tests.path namespaceName) none watchSecs "1",
        Request.watch (Collection.pods.path namespaceName) (some selector) watchSecs "1"]

theorem Controller.watchesPods_appLabels : WatchesPods (labelSelector appLabels) :=
  fun _ _ h => (mapM_eq_ok_iff.1 h).symm.trans (List.map_id _)

/-- The Pod of a workload carries the labels of its Test's generation. -/
theorem Test.labels_of_workload {t : Test} {config : Config} {w : Workload}
    (h : t.workload config = .ok w) :
    ∃ name id, t.metadata.name = some name ∧ t.testId? = some id ∧
      w.pod.metadata.labels = some (workloadLabels name id) := by
  obtain ⟨name, hn⟩ := Option.ne_none_iff_exists'.1 (exists_workload_iff.1 ⟨w, h⟩).2.2.2.1
  have hany : t.nameAny = name := by rw [nameAny, ObjectMeta.nameAny, hn]
  obtain ⟨-, namespaceName, id, owner, -, hi, -, rfl⟩ := workload_eq_ok_iff.1 h
  refine ⟨name, id, hn, hi, ?_⟩
  rw [← hany]
  rfl

/-- Selectors tell labels apart, and with them Pods. Of labels without commas and equals signs, the
selector is cut into the entries again, in the order of their keys (if there are none, it is the
empty text, whose only part is no entry); so different labels have different selectors. The Pod of
each workload is selected by what the controller watches Pods with, and by the labels of a
generation just if it belongs to that generation. -/
theorem selectors_tell_apart :
    (∀ m n : StringMap, m.IsPlain → n.IsPlain → labelSelector m = labelSelector n → m = n) ∧
    (∀ m : StringMap, m.IsPlain →
      (Text.split ',' (labelSelector m)).map (Text.split '=') =
          (if m.entries = [] then [[""]] else m.entries.map fun e => [e.1, e.2]) ∧
        selectorEntries (labelSelector m) = m.entries ∧
        (selectorEntries (labelSelector m)).Pairwise fun d e => Text.before d.1 e.1) ∧
    Controller.WatchesPods (labelSelector appLabels) ∧
    ∀ (t : Test) (config : Config) (w : Workload), t.workload config = .ok w →
      ∃ labels, w.pod.metadata.labels = some labels ∧ Selects (labelSelector appLabels) labels ∧
        ∀ test id, Label.IsPlain test → Label.IsPlain id →
          (Selects (labelSelector (workloadLabels test id)) labels ↔
            t.metadata.name = some test ∧ t.testId? = some id) := by
  refine ⟨fun m n hm hn => (labelSelector_inj hm hn).1, fun m hm =>
    ⟨split_split_labelSelector hm, selectorEntries_labelSelector hm, ?_⟩,
    Controller.watchesPods_appLabels, fun t config w hw => ?_⟩
  · rw [selectorEntries_labelSelector hm]
    exact m.sorted
  · obtain ⟨name, id', hn, hi, hlabels⟩ := Test.labels_of_workload hw
    refine ⟨_, hlabels, selects_appLabels name id', fun test id ht hid => ?_⟩
    rw [selects_workloadLabels_iff ht hid, hn, hi, Option.some.injEq, Option.some.injEq]

/-- A Pod is watched, and selected for its generation, but not for the next one. -/
theorem equipped_selected :
    (workloadLabels "hello" "1").IsPlain ∧
    selectorEntries (labelSelector (workloadLabels "hello" "1")) =
      [("app", "yaks"), ("test", "hello"), ("test-id", "1")] ∧
    (∃ requests, Controller.watchRequests none = .ok requests ∧
      Request.list "/api/v1/pods" (some (labelSelector appLabels)) ∈ requests.map .ok) ∧
    ∃ w labels, Test.equipped.workload {} = .ok w ∧ w.pod.metadata.labels = some labels ∧
      Selects (labelSelector appLabels) labels ∧
      Label.IsPlain "hello" ∧ Label.IsPlain "1" ∧ Label.IsPlain "2" ∧
      Selects (labelSelector (workloadLabels "hello" "1")) labels ∧
      ¬ Selects (labelSelector (workloadLabels "hello" "2")) labels := by
  obtain ⟨-, hread, hwatch, hpods⟩ := selectors_tell_apart
  have hhello : Label.IsPlain "hello" := by decide
  have hone : Label.IsPlain "1" := by decide
  have htwo : Label.IsPlain "2" := by decide
  have hplain : (workloadLabels "hello" "1").IsPlain := isPlain_workloadLabels hhello hone
  refine ⟨hplain, ?_, ?_, ?_⟩
  · rw [(hread _ hplain).2.1]
    decide
  · have hsome : (Controller.watchRequests none).toBool = true := by decide +kernel
    cases hrequests : Controller.watchRequests none with
    | error f =>
      rw [hrequests] at hsome
      cases hsome
    | ok requests =>
      refine ⟨requests, rfl, ?_⟩
      rw [hwatch none requests hrequests]
      exact List.mem_cons_of_mem _ List.mem_cons_self
  · obtain ⟨w, hw⟩ : ∃ w, Test.equipped.workload {} = .ok w :=
      Test.exists_workload_iff.2 ⟨rfl, by decide, by decide, by decide, by decide⟩
    obtain ⟨labels, hlabels, hall, hown⟩ := hpods _ _ _ hw
    refine ⟨w, labels, hw, hlabels, hall, hhello, hone, htwo,
      (hown "hello" "1" hhello hone).2 ⟨rfl, rfl⟩, fun h => ?_⟩
    exact absurd ((hown "hello" "2" hhello htwo).1 h).2 (by decide)

/-- The selector of no labels has a part, which is none of their entries. -/
theorem empty_selector_has_part :
    StringMap.empty.IsPlain ∧ labelSelector .empty = "" ∧
    (Text.split ',' (labelSelector .empty)).map (Text.split '=') = [[""]] ∧
    (Text.split ',' (labelSelector .empty)).map (Text.split '=') ≠
      StringMap.empty.entries.map fun e => [e.1, e.2] := by
  have hempty : labelSelector .empty = "" := labelSelector_eq_empty rfl
  rw [hempty]
  exact ⟨StringMap.isPlain_empty, rfl, by decide, by decide⟩

end Proctor
