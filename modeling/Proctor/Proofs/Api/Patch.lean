import Proctor.Api.Patch
import Proctor.Proofs.Test.StatusCodec

/-!
# What the patch of a status brings about

The patch names every part of a status, those that are unset as well, so an object that holds a
status holds the new one after it, whatever the old one was. The report is the one part that is an
object within the object, and what its patch does not name would be kept. So either of the two
statuses has no report, or both have the same (`Status.Held.patched`).
-/

namespace Proctor

open Json

namespace Status

/-- The fields of a status. -/
def fields (s : Status) : List (String × Json) := s.toJson.fields?.getD []

/-- The fields of its patch. -/
def patchFields (s : Status) : List (String × Json) := s.patch.fields?.getD []

theorem toJson_eq (s : Status) : s.toJson = .obj s.fields := rfl

/-- The names of the fields that a status may have. -/
def names : List String := "phase" :: clearable

theorem names_sublist (s : Status) : (s.fields.map Prod.fst).Sublist names := given_sublist _

theorem nodup_fields (s : Status) : (s.fields.map Prod.fst).Nodup :=
  s.names_sublist.nodup (by simp [names, clearable])

/-- The parts that are unset. -/
def unset (s : Status) : List String := clearable.filter fun key => !s.fields.any (·.1 == key)

theorem patch_eq (s : Status) : s.patch = .obj s.patchFields := rfl

theorem patchFields_eq (s : Status) :
    s.patchFields = s.fields ++ s.unset.map fun key => (key, .null) := rfl

theorem mem_unset_iff {s : Status} {n : String} :
    n ∈ s.unset ↔ n ∈ clearable ∧ n ∉ s.fields.map Prod.fst := by
  have hany : s.fields.any (·.1 == n) = true ↔ n ∈ s.fields.map Prod.fst := by
    simp [List.any_eq_true, List.mem_map]
  rw [unset, List.mem_filter, ← hany, Bool.not_eq_true', Bool.not_eq_true]

theorem keys_patchFields (s : Status) :
    s.patchFields.map Prod.fst = s.fields.map Prod.fst ++ s.unset := by
  simp [patchFields_eq, Function.comp_def]

theorem nodup_patchFields (s : Status) : (s.patchFields.map Prod.fst).Nodup := by
  rw [keys_patchFields, List.nodup_append]
  refine ⟨s.nodup_fields, List.filter_sublist.nodup (by simp [clearable]), ?_⟩
  rintro n hn _ hu rfl
  exact (mem_unset_iff.1 hu).2 hn

theorem lookup_map_null (names : List String) (n : String) :
    (names.map fun key => (key, Json.null)).lookup n = if n ∈ names then some .null else none := by
  induction names with
  | nil => rfl
  | cons name rest ih =>
    by_cases h : n = name
    · simp [h]
    · have hne : (n == name) = false := by simp [h]
      rw [List.map_cons, List.lookup_cons, hne, ih]
      simp [h]

/-- A patch has the fields of the status, and `null` for each other part. -/
theorem lookup_patchFields (s : Status) (n : String) :
    s.patchFields.lookup n = (s.fields.lookup n).or (if n ∈ s.unset then some .null else none) := by
  rw [patchFields_eq, List.lookup_append, lookup_map_null]

/-! ### What a status writes -/

/-- What a status writes is not `null`, and an object only for the report. -/
theorem field_cases {s : Status} {n : String} {v : Json} (h : s.fields.lookup n = some v) :
    v.isNull = false ∧ (v.fields? = none ∨
      ∃ r, n = "results" ∧ s.results = some r ∧ v = r.toJson) := by
  have hm := mem_of_lookup h
  rw [fields, Status.toJson, ofFields_eq, Json.fields?, Option.getD_some, mem_given_iff] at hm
  simp only [List.mem_cons, Prod.mk.injEq, List.not_mem_nil, or_false] at hm
  have hplain : ∀ {α : Type} {f : α → String} {o : Option α}, some v = o.map (fun a => .str (f a)) →
      v.isNull = false ∧ v.fields? = none := by
    intro α f o hv
    obtain ⟨a, -, rfl⟩ := Option.map_eq_some_iff.1 hv.symm
    exact ⟨rfl, rfl⟩
  rcases hm with ⟨-, hv⟩ | ⟨-, hv⟩ | ⟨-, hv⟩ | ⟨-, hv⟩ | ⟨rfl, hv⟩ | ⟨-, hv⟩ | ⟨-, hv⟩ | ⟨-, hv⟩
  · cases hv
    exact ⟨rfl, Or.inl rfl⟩
  · exact (hplain hv).imp id Or.inl
  · exact (hplain hv).imp id Or.inl
  · exact (hplain hv).imp id Or.inl
  · obtain ⟨r, hr, rfl⟩ := Option.map_eq_some_iff.1 hv.symm
    exact ⟨rfl, Or.inr ⟨r, rfl, hr, rfl⟩⟩
  · obtain ⟨vs, rfl⟩ := eq_arr_of_nonempty? hv.symm
    exact ⟨rfl, Or.inl rfl⟩
  · exact (hplain hv).imp id Or.inl
  · exact (hplain hv).imp id Or.inl

theorem lookup_results (s : Status) : s.fields.lookup "results" = s.results.map Report.toJson := by
  rw [fields, Status.toJson, ofFields_eq, Json.fields?, Option.getD_some, lookup_given (by simp)]
  simp [List.lookup_cons]

theorem settles_report (r : Report) : r.toJson.Settles := by
  have hword : ∀ n, (Json.ofWord32 n).Settles := fun n => settles_of_not_obj rfl rfl
  have hsummary : r.summary.toJson.Settles := by
    refine settles_obj (by simp) fun f hf => ?_
    simp only [List.mem_cons, List.not_mem_nil, or_false] at hf
    rcases hf with rfl | rfl | rfl | rfl | rfl | rfl | rfl <;> exact hword _
  refine settles_obj (nodup_given (by simp)) fun f hf => ?_
  have hm := mem_given_iff.1 hf
  simp only [List.mem_cons, Prod.mk.injEq, List.not_mem_nil, or_false] at hm
  rcases hm with ⟨-, hv⟩ | ⟨-, hv⟩
  · rw [Option.some.inj hv]
    exact hsummary
  · obtain ⟨vs, hvs⟩ := eq_arr_of_nonempty? hv.symm
    rw [hvs]
    exact settles_of_not_obj rfl rfl

/-! ### Merging -/

/-- What an object says of a status, if there is one. -/
def Held (status : Option Status) (fields : List (String × Json)) : Prop :=
  match status with
  | none => fields = []
  | some s => ∀ n, named n fields = named n s.fields

/-- A status is read out of the object that holds it. -/
theorem Held.read? {s : Status} {fields : List (String × Json)} (h : Held (some s) fields) :
    Status.read? (.obj fields) = some s := by
  rw [← s.read?_toJson, s.toJson_eq, Status.read?, Status.read?, record?_congr h]

/-- The part of a status that an object holds. -/
theorem Held.lookup {old : Option Status} {fields : List (String × Json)} (h : Held old fields)
    (n : String) : fields.lookup n = old.bind fun s => s.fields.lookup n := by
  cases old with
  | none =>
    rw [show fields = [] from h]
    rfl
  | some s => rw [lookup_eq_named, h n, ← lookup_eq_named, Option.bind_some]

theorem Held.lookup_results {old : Option Status} {fields : List (String × Json)}
    (h : Held old fields) :
    fields.lookup "results" = (old.bind results).map Report.toJson := by
  rw [h.lookup]
  cases old with
  | none => rfl
  | some s => exact s.lookup_results

theorem Held.named_eq_nil {old : Option Status} {fields : List (String × Json)}
    (h : Held old fields) {n : String} (hn : n ∉ names) : named n fields = [] := by
  cases old with
  | none =>
    rw [show fields = [] from h]
    rfl
  | some s => rw [h n, Json.named_eq_nil fun hm => hn (s.names_sublist.mem hm)]

/-- A patch says what becomes of each part of a status, and leaves all else alone. -/
theorem named_mergeFields_patchFields (s : Status) (fields : List (String × Json)) (n : String) :
    named n (mergeFields fields s.patchFields) =
      if n ∈ names then
        ((s.fields.lookup n).map fun v => (n, merge ((fields.lookup n).getD .null) v)).toList
      else named n fields := by
  rw [named_mergeFields s.nodup_patchFields, lookup_patchFields]
  cases hv : s.fields.lookup n with
  | some v =>
    have hn : n ∈ names := s.names_sublist.mem (List.mem_map_of_mem (mem_of_lookup hv))
    simp [hn, (field_cases hv).1]
  | none =>
    by_cases hn : n ∈ s.unset
    · simp [hn, isNull, names, (mem_unset_iff.1 hn).1]
    · have hnames : n ∉ names := by
        intro hmem
        rcases List.mem_cons.1 hmem with rfl | hmem
        · cases hv
        · exact hn (mem_unset_iff.2 ⟨hmem, lookup_eq_none_iff.1 hv⟩)
      simp [hn, hnames]

/-- After its patch, an object holds the new status. -/
theorem Held.patched {old : Option Status} {new : Status} {fields : List (String × Json)}
    (h : Held old fields)
    (hr : new.results = none ∨ old.bind results = none ∨ new.results = old.bind results) :
    Held (some new) (mergeFields fields new.patchFields) := by
  intro n
  rw [named_mergeFields_patchFields]
  split
  · rw [named_eq_of_nodup new.nodup_fields]
    cases hv : new.fields.lookup n with
    | none => rfl
    | some v =>
      have hm : merge ((fields.lookup n).getD .null) v = v := by
        rcases (field_cases hv).2 with hobj | ⟨r, rfl, hres, rfl⟩
        · exact merge_of_not_obj _ hobj
        · refine (settles_report r).2 _ ?_
          rw [h.lookup_results]
          rcases hr with hr | hr | hr
          · rw [hr] at hres
            cases hres
          · exact Or.inl (by rw [hr]; rfl)
          · exact Or.inr (by rw [← hr, hres]; rfl)
      rw [Option.map_some, hm]
      rfl
  · next hn =>
    rw [h.named_eq_nil hn, Json.named_eq_nil fun hm => hn (new.names_sublist.mem hm)]

/-- The phase comes first, and the other parts do not depend on it. -/
theorem named_fields_phase (s : Status) (phase : Phase) {n : String} (hn : n ≠ "phase") :
    named n ({ s with phase } : Status).fields = named n s.fields := by
  have hcons : ∀ s : Status, named n s.fields = named n s.fields.tail := by
    intro s
    rw [show s.fields = ("phase", .str s.phase.wire) :: s.fields.tail from rfl, named,
      List.filter_cons_of_neg (by simpa using Ne.symm hn)]
    rfl
  rw [hcons, hcons s]
  rfl

/-- A patch of the phase alone. -/
theorem Held.phased {old : Option Status} {fields : List (String × Json)} (h : Held old fields)
    (phase : Phase) :
    Held (some { old.getD {} with phase }) (mergeFields fields [("phase", .str phase.wire)]) := by
  intro n
  rw [named_mergeFields_one rfl]
  by_cases hn : n = "phase"
  · subst hn
    rw [if_pos rfl, merge_of_not_obj _ rfl, named_eq_of_nodup (nodup_fields _)]
    rfl
  · rw [if_neg hn, named_fields_phase _ _ hn]
    cases old with
    | some s => exact h n
    | none =>
      rw [show fields = [] from h]
      have hnone : named n ({} : Status).fields = [] := by
        rw [show ({} : Status).fields = [("phase", .str "")] from rfl, named_singleton,
          if_neg (Ne.symm hn)]
      exact hnone.symm

end Status

namespace Test

theorem distinct_statusPatch (t : Test) : t.statusPatch.Distinct := by
  simp [statusPatch, Distinct]

theorem distinct_toJson (t : Test) : t.toJson.Distinct := nodup_given (by simp)

theorem get?_spec (t : Test) : t.toJson.get? "spec" = some t.spec.toJson := rfl

theorem get?_status (t : Test) : t.toJson.get? "status" = t.status.map Status.toJson := by
  rw [toJson, ofFields_eq, get?, lookup_given (by simp)]
  simp [List.lookup_cons]

end Test

end Proctor
