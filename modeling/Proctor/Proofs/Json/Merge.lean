import Proctor.Json.Record

/-!
# Merge patches

A merge patch is an object that says which fields of another one change: a field that is `null`
takes the field of that name away, an object changes the parts of the field, and any other value
takes its place. What is read out of an object depends on its fields of each name alone
(`Json.named`), and a patch says of each name what becomes of these (`Json.named_mergeFields`). So
a patch that names every part brings an object to what the patch says, but for objects within it:
these keep what the patch does not name (`Json.Settles`).
-/

namespace Proctor.Json

/-! ### The fields of a name -/

/-- The fields of that name. -/
def named (name : String) (fields : List (String × Json)) : List (String × Json) :=
  fields.filter (·.1 = name)

theorem lookup_eq_named (name : String) (fields : List (String × Json)) :
    fields.lookup name = (named name fields).head?.map Prod.snd := by
  induction fields with
  | nil => rfl
  | cons f rest ih =>
    obtain ⟨n, v⟩ := f
    by_cases h : n = name
    · subst h
      simp [named]
    · have hn : (name == n) = false := by simp [Ne.symm h]
      rw [List.lookup_cons, hn, named, List.filter_cons_of_neg (by simpa using h)]
      exact ih

theorem named_append (name : String) (fs gs : List (String × Json)) :
    named name (fs ++ gs) = named name fs ++ named name gs := List.filter_append ..

theorem named_singleton (name n : String) (v : Json) :
    named name [(n, v)] = if n = name then [(n, v)] else [] := by
  by_cases h : n = name <;> simp [named, h]

theorem named_eq_nil {name : String} {fields : List (String × Json)}
    (h : name ∉ fields.map Prod.fst) : named name fields = [] := by
  refine List.filter_eq_nil_iff.2 fun f hf he => h ?_
  obtain rfl : f.1 = name := of_decide_eq_true he
  exact List.mem_map_of_mem hf

theorem lookup_eq_none_iff {name : String} {fields : List (String × Json)} :
    fields.lookup name = none ↔ name ∉ fields.map Prod.fst := by
  rw [lookup_eq_named]
  constructor
  · intro h hm
    obtain ⟨f, hf, rfl⟩ := List.mem_map.1 hm
    rw [Option.map_eq_none_iff, List.head?_eq_none_iff, named, List.filter_eq_nil_iff] at h
    exact h f hf (by simp)
  · intro h
    rw [named_eq_nil h]
    rfl

theorem mem_of_lookup {fields : List (String × Json)} {n : String} {v : Json}
    (h : fields.lookup n = some v) : (n, v) ∈ fields := by
  obtain ⟨as, bs, rfl, -⟩ := List.lookup_eq_some_iff.1 h
  simp

/-- If no name stands twice, then the fields of a name are one or none. -/
theorem named_eq_of_nodup {fields : List (String × Json)} (h : (fields.map Prod.fst).Nodup)
    (name : String) : named name fields = ((fields.lookup name).map (name, ·)).toList := by
  induction fields with
  | nil => rfl
  | cons f rest ih =>
    obtain ⟨n, v⟩ := f
    rw [List.map_cons, List.nodup_cons] at h
    by_cases hn : n = name
    · subst hn
      have hrest := named_eq_nil h.1
      simpa [named] using hrest
    · have hne : (name == n) = false := by simp [Ne.symm hn]
      rw [List.lookup_cons, hne, ← ih h.2, named, List.filter_cons_of_neg (by simpa using hn)]
      rfl

theorem lookup_eq_some_iff {fields : List (String × Json)} (h : (fields.map Prod.fst).Nodup)
    {n : String} {v : Json} : fields.lookup n = some v ↔ (n, v) ∈ fields := by
  refine ⟨mem_of_lookup, fun hm => ?_⟩
  have hnamed : (n, v) ∈ named n fields := List.mem_filter.2 ⟨hm, by simp⟩
  rw [named_eq_of_nodup h] at hnamed
  simpa using hnamed

theorem length_named_le {fields : List (String × Json)} (h : (fields.map Prod.fst).Nodup)
    (name : String) : (named name fields).length ≤ 1 := by
  rw [named_eq_of_nodup h]
  cases fields.lookup name <;> simp

theorem lookup_of_named {name : String} {fields : List (String × Json)} {v : Json}
    (h : named name fields = [(name, v)]) : fields.lookup name = some v := by
  rw [lookup_eq_named, h]
  rfl

theorem named_of_lookup {name : String} {fields : List (String × Json)} {v : Json}
    (hl : (named name fields).length ≤ 1) (h : fields.lookup name = some v) :
    named name fields = [(name, v)] := by
  rw [lookup_eq_named] at h
  match hn : named name fields with
  | [] =>
    rw [hn] at h
    cases h
  | [f] =>
    rw [hn] at h
    have hmem : f ∈ named name fields := hn ▸ List.mem_singleton_self f
    have hf : f.1 = name := by simpa using (List.mem_filter.1 hmem).2
    rw [← hf, ← Option.some.inj h]
  | _ :: _ :: _ =>
    rw [hn] at hl
    simp at hl

/-- An object is a record if no name of the record stands twice. -/
theorem record?_obj_eq_some_iff {names : List String} {fields : List (String × Json)} {f : Fields} :
    record? names (.obj fields) = some f ↔
      (∀ n ∈ names, (named n fields).length ≤ 1) ∧ f = fun n => fields.lookup n := by
  simp only [record?, Option.ite_none_right_eq_some, List.all_eq_true, decide_eq_true_eq,
    Option.some.injEq, eq_comm (a := f)]
  rfl

/-- A record is read out of the fields of each name. -/
theorem record?_congr {names : List String} {fs gs : List (String × Json)}
    (h : ∀ n, named n fs = named n gs) : record? names (.obj fs) = record? names (.obj gs) := by
  have hl : (fun n => fs.lookup n) = fun n => gs.lookup n := by
    funext n
    rw [lookup_eq_named, lookup_eq_named, h]
  have hc : (names.all fun n => decide ((fs.filter (·.1 = n)).length ≤ 1)) =
      names.all fun n => decide ((gs.filter (·.1 = n)).length ≤ 1) := by
    congr 1
    funext n
    rw [show fs.filter (·.1 = n) = gs.filter (·.1 = n) from h n]
  simp only [record?, hc, hl]

/-! ### Merging -/

/-- Whether a value is `null`. -/
def isNull : Json → Bool
  | .null => true
  | _ => false

/-- The fields of other names. -/
def without (name : String) (fields : List (String × Json)) : List (String × Json) :=
  fields.filter (·.1 ≠ name)

mutual

/-- A value after a patch. -/
def merge (target : Json) : Json → Json
  | .obj patch => .obj (mergeFields (target.fields?.getD []) patch)
  | v => v

/-- The fields of an object after the fields of a patch. -/
def mergeFields : List (String × Json) → List (String × Json) → List (String × Json)
  | fields, [] => fields
  | fields, (name, v) :: rest =>
    if v.isNull then mergeFields (without name fields) rest
    else mergeFields
      (without name fields ++ [(name, merge ((fields.lookup name).getD .null) v)]) rest

end

theorem merge_obj (target : Json) (patch : List (String × Json)) :
    merge target (.obj patch) = .obj (mergeFields (target.fields?.getD []) patch) := by
  rw [merge]

@[simp] theorem merge_of_not_obj (target : Json) {v : Json} (h : v.fields? = none) :
    merge target v = v := by
  cases v with
  | obj fields => cases h
  | null | bool _ | int _ | real _ | str _ | torn | arr _ => rw [merge]; simp

theorem mergeFields_append (fields ps qs : List (String × Json)) :
    mergeFields fields (ps ++ qs) = mergeFields (mergeFields fields ps) qs := by
  induction ps generalizing fields with
  | nil => rw [mergeFields, List.nil_append]
  | cons f rest ih =>
    obtain ⟨name, v⟩ := f
    rw [List.cons_append, mergeFields, mergeFields]
    split <;> exact ih _

theorem without_of_not_mem {name : String} {fields : List (String × Json)}
    (h : name ∉ fields.map Prod.fst) : without name fields = fields := by
  refine List.filter_eq_self.2 fun f hf => ?_
  simp only [ne_eq, decide_not, Bool.not_eq_true', decide_eq_false_iff_not]
  exact fun he => h (he ▸ List.mem_map_of_mem hf)

theorem named_without (name n : String) (fields : List (String × Json)) :
    named n (without name fields) = if n = name then [] else named n fields := by
  rw [named, without, List.filter_filter]
  split
  · next h =>
    subst h
    exact List.filter_eq_nil_iff.2 fun f _ => by simp
  · next h =>
    refine List.filter_congr fun f _ => ?_
    by_cases hf : f.1 = n
    · simp [hf, h]
    · simp [hf]

/-- What becomes of the fields of a name. -/
theorem named_mergeFields {patch : List (String × Json)} (h : (patch.map Prod.fst).Nodup)
    (fields : List (String × Json)) (n : String) :
    named n (mergeFields fields patch) =
      match patch.lookup n with
      | none => named n fields
      | some v => if v.isNull then [] else [(n, merge ((fields.lookup n).getD .null) v)] := by
  induction patch generalizing fields with
  | nil => rw [mergeFields]; rfl
  | cons f rest ih =>
    obtain ⟨name, v⟩ := f
    rw [List.map_cons, List.nodup_cons] at h
    -- the first field changes those of its name, and no later one does
    have hrest : rest.lookup name = none := lookup_eq_none_iff.2 h.1
    rw [mergeFields]
    by_cases hn : n = name
    · subst hn
      rw [List.lookup_cons, beq_self_eq_true]
      split
      · next hv =>
        rw [ih h.2, hrest]
        simp [hv, named_without]
      · next hv =>
        rw [ih h.2, hrest]
        simp [hv, named_append, named_without, named_singleton]
    · have hne : (n == name) = false := by simp [hn]
      have hkeep : ∀ gs, named n gs = named n fields → gs.lookup n = fields.lookup n := by
        intro gs hgs
        rw [lookup_eq_named, lookup_eq_named, hgs]
      have hwithout : named n (without name fields) = named n fields := by
        rw [named_without, if_neg hn]
      rw [List.lookup_cons, hne]
      split
      · rw [ih h.2, hwithout, hkeep _ hwithout]
      · have hput : ∀ v, named n (without name fields ++ [(name, v)]) = named n fields := by
          intro v
          rw [named_append, hwithout, named_singleton, if_neg (Ne.symm hn), List.append_nil]
        rw [ih h.2, hput, hkeep _ (hput _)]

theorem without_sublist (name : String) (fields : List (String × Json)) :
    ((without name fields).map Prod.fst).Sublist (fields.map Prod.fst) :=
  List.filter_sublist.map _

theorem not_mem_without (name : String) (fields : List (String × Json)) :
    name ∉ (without name fields).map Prod.fst := by
  intro h
  obtain ⟨f, hf, rfl⟩ := List.mem_map.1 h
  exact absurd rfl (of_decide_eq_true (List.mem_filter.1 hf).2)

/-- If no name stands twice in an object, then none does after a patch. -/
theorem nodup_mergeFields {fields : List (String × Json)} (h : (fields.map Prod.fst).Nodup)
    (patch : List (String × Json)) : ((mergeFields fields patch).map Prod.fst).Nodup := by
  induction patch generalizing fields with
  | nil => rwa [mergeFields]
  | cons f rest ih =>
    obtain ⟨name, v⟩ := f
    have hwithout := (without_sublist name fields).nodup h
    rw [mergeFields]
    split
    · exact ih hwithout
    · refine ih ?_
      rw [List.map_append, List.nodup_append]
      refine ⟨hwithout, by simp, fun n hn m hm hnm => ?_⟩
      obtain rfl : m = name := by simpa using hm
      exact not_mem_without m fields (hnm ▸ hn)

theorem lookup_fields? (j : Json) (n : String) : (j.fields?.getD []).lookup n = j.get? n := by
  cases j <;> rfl

/-- An object in which no name stands twice. -/
def Distinct : Json → Prop
  | .obj fields => (fields.map Prod.fst).Nodup
  | _ => False

section Distinct

variable {patch : Json}

/-- What becomes of the value of a name. -/
theorem Distinct.get?_merge (h : patch.Distinct) (target : Json) (n : String) :
    (target.merge patch).get? n =
      match patch.get? n with
      | none => target.get? n
      | some v => if v.isNull then none else some (((target.get? n).getD .null).merge v) := by
  cases patch with
  | obj fields =>
    rw [merge_obj, get?, get?, lookup_eq_named, named_mergeFields h, lookup_fields?]
    cases fields.lookup n with
    | none => exact (lookup_eq_named n _).symm.trans (target.lookup_fields? n)
    | some v => cases hv : v.isNull <;> simp [hv]
  | null | bool _ | int _ | real _ | str _ | torn | arr _ => exact h.elim

/-- What a patch does not name is left alone. -/
theorem Distinct.named_merge (h : patch.Distinct) (target : Json) {n : String}
    (hn : patch.get? n = none) :
    named n ((target.merge patch).fields?.getD []) = named n (target.fields?.getD []) := by
  cases patch with
  | obj fields =>
    have hl : fields.lookup n = none := hn
    rw [merge_obj, fields?, Option.getD_some, named_mergeFields h, hl]
  | null | bool _ | int _ | real _ | str _ | torn | arr _ => exact h.elim

/-- A value that is no object takes the place of what was there. -/
theorem Distinct.get?_merge_of_not_obj (h : patch.Distinct) (target : Json) {n : String} {v : Json}
    (hg : patch.get? n = some v) (hn : v.isNull = false) (hv : v.fields? = none) :
    (target.merge patch).get? n = some v := by
  rw [h.get?_merge, hg]
  simp [hn, merge_of_not_obj _ hv]

theorem Distinct.length_named_le (h : patch.Distinct) (n : String) :
    (named n (patch.fields?.getD [])).length ≤ 1 := by
  cases patch with
  | obj fields => exact Json.length_named_le h n
  | null | bool _ | int _ | real _ | str _ | torn | arr _ => exact h.elim

/-- What was patched is a record if what the patch does not name is one. -/
theorem Distinct.record?_merge (h : patch.Distinct) {names : List String} {target : Json}
    (hone : ∀ n ∈ names, patch.get? n = none → (named n (target.fields?.getD [])).length ≤ 1) :
    record? names (target.merge patch) = some fun n => (target.merge patch).get? n := by
  cases patch with
  | obj fields =>
    rw [merge_obj]
    refine record?_obj_eq_some_iff.2 ⟨fun n hn => ?_, rfl⟩
    rw [named_mergeFields h]
    cases hv : fields.lookup n with
    | none => exact hone n hn hv
    | some v => cases hnull : v.isNull <;> simp [hnull]
  | null | bool _ | int _ | real _ | str _ | torn | arr _ => exact h.elim

end Distinct

/-- A patch of one field. -/
theorem named_mergeFields_one {name : String} {v : Json} (hv : v.isNull = false)
    (fields : List (String × Json)) (n : String) :
    named n (mergeFields fields [(name, v)]) =
      if n = name then [(n, merge ((fields.lookup n).getD .null) v)] else named n fields := by
  rw [named_mergeFields (by simp)]
  by_cases h : n = name
  · simp [h, hv]
  · have hne : (n == name) = false := by simp [h]
    rw [List.lookup_cons, hne, if_neg h]
    rfl

/-! ### Patches that come again -/

/-- A value that a patch brings about, whether nothing was there or the same was. -/
def Settles (v : Json) : Prop := v.isNull = false ∧ ∀ x, x = .null ∨ x = v → merge x v = v

theorem settles_of_not_obj {v : Json} (hn : v.isNull = false) (h : v.fields? = none) :
    v.Settles := ⟨hn, fun x _ => merge_of_not_obj x h⟩

/-- Fields that are there already, or are not there at all, are put behind the others. -/
theorem mergeFields_of_settles {old rest done : List (String × Json)}
    (ho : old = [] ∨ old = rest) (hd : ((done ++ rest).map Prod.fst).Nodup)
    (hv : ∀ f ∈ rest, f.2.Settles) : mergeFields (old ++ done) rest = done ++ rest := by
  induction rest generalizing old done with
  | nil =>
    rw [mergeFields]
    rcases ho with rfl | rfl <;> simp
  | cons f rest ih =>
    obtain ⟨n, v⟩ := f
    obtain ⟨hnull, hmerge⟩ := hv (n, v) List.mem_cons_self
    have hd' : (((done ++ [(n, v)]) ++ rest).map Prod.fst).Nodup := by simpa using hd
    rw [List.map_append, List.map_cons, List.nodup_append] at hd
    obtain ⟨-, hrest, hdisj⟩ := hd
    rw [List.nodup_cons] at hrest
    have hdone : n ∉ done.map Prod.fst := fun h => hdisj n h n List.mem_cons_self rfl
    rw [mergeFields, if_neg (by simp [hnull])]
    rcases ho with rfl | rfl
    · rw [List.nil_append, lookup_eq_none_iff.2 hdone, without_of_not_mem hdone, Option.getD_none,
        hmerge _ (Or.inl rfl)]
      simpa using ih (Or.inl rfl) hd' fun f hf => hv f (List.mem_cons_of_mem _ hf)
    · have hwithout : without n ((n, v) :: rest ++ done) = rest ++ done := by
        rw [List.cons_append, without, List.filter_cons_of_neg (by simp)]
        refine without_of_not_mem fun h => ?_
        rw [List.map_append, List.mem_append] at h
        exact h.elim hrest.1 hdone
      have hlookup : ((n, v) :: rest ++ done).lookup n = some v := by simp
      rw [hwithout, hlookup, Option.getD_some, hmerge _ (Or.inr rfl)]
      simpa using ih (Or.inr rfl) hd' fun f hf => hv f (List.mem_cons_of_mem _ hf)

/-- An object of such values, in which no name stands twice. -/
theorem settles_obj {fields : List (String × Json)} (hd : (fields.map Prod.fst).Nodup)
    (hv : ∀ f ∈ fields, f.2.Settles) : (obj fields).Settles := by
  refine ⟨rfl, fun x hx => ?_⟩
  have ho : x.fields?.getD [] = [] ∨ x.fields?.getD [] = fields := by
    rcases hx with rfl | rfl
    · exact Or.inl rfl
    · exact Or.inr rfl
  have hm : mergeFields (x.fields?.getD [] ++ []) fields = [] ++ fields :=
    mergeFields_of_settles ho hd hv
  rw [merge, ← List.append_nil (x.fields?.getD []), hm]
  rfl

end Proctor.Json
