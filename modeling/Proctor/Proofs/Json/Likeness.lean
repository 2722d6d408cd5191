import Mathlib.Data.List.Forall2
import Proctor.Proofs.Json.Merge

/-!
# Values that are read alike

The reader of a record looks its fields up by their names, so it does not matter in which order they
stand, nor what stands between them under other names, nor whether a field is left out or holds
what an absent one stands for. A likeness of values says this for each part of a record; if the
readers of the parts do not tell like values apart, then the reader of the record does not either
(`Json.Fits.record`).
-/

namespace Proctor.Json

/-- Which values are to be read alike. -/
abbrev Likeness := Json → Json → Prop

/-- A field of a record, with what it stands for when it is absent and which of its values are
alike. -/
structure Likeness.Field where
  /-- The name. -/
  name : String
  /-- The value that an absent field stands for. -/
  absent : Option Json
  /-- Which values are alike. -/
  like : Likeness

/-- A field that has to be there. -/
def Likeness.Field.required (name : String) (like : Likeness := Eq) : Field := ⟨name, none, like⟩

/-- A field that stands for this value when it is absent. -/
def Likeness.Field.orDefault (name : String) (default : Json) (like : Likeness := Eq) : Field :=
  ⟨name, some default, like⟩

/-- A field that stands for `null` when it is absent. -/
def Likeness.Field.optional (name : String) (like : Likeness := Eq) : Field :=
  ⟨name, some .null, like⟩

/-- What two records hold of the field is alike. -/
def Likeness.Field.Shared (field : Field) (f g : Fields) : Prop :=
  Option.Rel field.like ((f field.name).or field.absent) ((g field.name).or field.absent)

/-- Two lists of fields hold the field at most once each, and like values of it. -/
structure Likeness.Field.Agrees (field : Field) (fs gs : List (String × Json)) : Prop where
  /-- It stands at most once in the first. -/
  left : (named field.name fs).length ≤ 1
  /-- It stands at most once in the second. -/
  right : (named field.name gs).length ≤ 1
  /-- The values are alike. -/
  values : field.Shared (fs.lookup ·) (gs.lookup ·)

/-- Values that are the same, or arrays with like items. -/
def Likeness.list (like : Likeness) : Likeness := fun v w =>
  v = w ∨ ∃ vs ws, v = .arr vs ∧ w = .arr ws ∧ List.Forall₂ like vs ws

/-- Values that are the same, or objects that agree on these fields. Their order is free, and so are
the fields of other names. -/
def Likeness.record (fields : List Field) : Likeness := fun v w =>
  v = w ∨ ∃ fs gs, v = .obj fs ∧ w = .obj gs ∧ ∀ field ∈ fields, field.Agrees fs gs

/-- A reader that does not tell like values apart, and takes none of them for `null` unless both
are. -/
structure Fits {α : Type} (like : Likeness) (read : Json → Option α) : Prop where
  /-- Like values are read alike. -/
  read_eq : ∀ {v w}, like v w → read v = read w
  /-- Of like values both are `null` or neither. -/
  null_eq : ∀ {v w}, like v w → v.isNull = w.isNull

section Fits

variable {α : Type} {like : Likeness} {read : Json → Option α} {f g : Fields}

theorem fits_eq (read : Json → Option α) : Fits Eq read :=
  ⟨fun h => congrArg read h, fun h => congrArg isNull h⟩

theorem mapM_congr_of_forall₂ {vs ws : List Json} (h : Fits like read)
    (hs : List.Forall₂ like vs ws) : vs.mapM read = ws.mapM read := by
  induction hs with
  | nil => rfl
  | cons hv _ ih => rw [List.mapM_cons, List.mapM_cons, h.read_eq hv, ih]

theorem Fits.list (h : Fits like read) : Fits (.list like) (list? read) := by
  constructor
  · rintro v w (rfl | ⟨vs, ws, rfl, rfl, hs⟩)
    · rfl
    · exact mapM_congr_of_forall₂ h hs
  · rintro v w (rfl | ⟨vs, ws, rfl, rfl, -⟩)
    · rfl
    · rfl

theorem Fits.record {fields : List Likeness.Field} {names : List String} {next : Fields → Option α}
    (hnames : names = fields.map Likeness.Field.name)
    (h : ∀ f g : Fields, (∀ field ∈ fields, field.Shared f g) → next f = next g) :
    Fits (.record fields) fun j => record? names j >>= next := by
  constructor
  · rintro v w (rfl | ⟨fs, gs, rfl, rfl, hs⟩)
    · rfl
    · have hleft : record? names (.obj fs) = some fun n => fs.lookup n := by
        refine record?_obj_eq_some_iff.2 ⟨?_, rfl⟩
        rw [hnames, List.forall_mem_map]
        exact fun field hf => (hs field hf).left
      have hright : record? names (.obj gs) = some fun n => gs.lookup n := by
        refine record?_obj_eq_some_iff.2 ⟨?_, rfl⟩
        rw [hnames, List.forall_mem_map]
        exact fun field hf => (hs field hf).right
      rw [hleft, hright]
      exact h _ _ fun field hf => (hs field hf).values
  · rintro v w (rfl | ⟨fs, gs, rfl, rfl, -⟩)
    · rfl
    · rfl

/-! ### Fields -/

theorem Fits.bind_eq (h : Fits like read) {a b : Option Json} (hab : Option.Rel like a b) :
    a.bind read = b.bind read := by
  cases hab with
  | none => rfl
  | some hv => exact h.read_eq hv

theorem Fits.required {name : String} (h : Fits like read)
    (hfg : (Likeness.Field.required name like).Shared f g) :
    required read (f name) = required read (g name) := by
  have heq : ∀ o : Option Json, Json.required read o = (o.or none).bind read := by
    rintro (_ | v) <;> rfl
  rw [heq, heq]
  exact h.bind_eq hfg

theorem Fits.orDefault {name : String} {d : α} {v : Json} (h : Fits like read)
    (hv : read v = some d) (hfg : (Likeness.Field.orDefault name v like).Shared f g) :
    orDefault d read (f name) = orDefault d read (g name) := by
  have heq : ∀ o : Option Json, Json.orDefault d read o = (o.or (some v)).bind read := by
    rintro (_ | w)
    · exact hv.symm
    · rfl
  rw [heq, heq]
  exact h.bind_eq hfg

/-- A list that is empty when it is absent. -/
theorem Fits.orEmpty {name : String} (h : Fits like (list? read))
    (hfg : (Likeness.Field.orDefault name (.arr []) like).Shared f g) :
    Json.orDefault [] (list? read) (f name) = Json.orDefault [] (list? read) (g name) :=
  h.orDefault rfl hfg

theorem Fits.optional {name : String} (h : Fits like read)
    (hfg : (Likeness.Field.optional name like).Shared f g) :
    optional read (f name) = optional read (g name) := by
  have hgiven : ∀ v, Json.optional read (some v) =
      if v.isNull then some none else (read v).map some := by
    rintro (_ | _ | _ | _ | _ | _ | _ | _) <;> rfl
  have hfits : Fits like fun v => Json.optional read (some v) :=
    ⟨fun hv => by rw [hgiven, hgiven, h.read_eq hv, h.null_eq hv], h.null_eq⟩
  have heq : ∀ o : Option Json,
      Json.optional read o = (o.or (some .null)).bind fun v => Json.optional read (some v) := by
    rintro (_ | v) <;> rfl
  rw [heq, heq]
  exact hfits.bind_eq hfg

end Fits

/-! ### Rearranged objects -/

theorem named_eq_of_perm {fs gs : List (String × Json)} (h : fs.Perm gs) {name : String}
    (hone : (named name fs).length ≤ 1) : named name gs = named name fs := by
  have hperm : (named name gs).Perm (named name fs) := h.symm.filter _
  match hn : named name fs with
  | [] => exact List.perm_nil.1 (hn ▸ hperm)
  | [f] => exact List.perm_singleton.1 (hn ▸ hperm)
  | _ :: _ :: _ =>
    rw [hn] at hone
    simp at hone

theorem lookup_map (change : String → Json → Json) (fs : List (String × Json)) (name : String) :
    (fs.map fun f => (f.1, change f.1 f.2)).lookup name = (fs.lookup name).map (change name) := by
  induction fs with
  | nil => rfl
  | cons f fs ih =>
    obtain ⟨n, v⟩ := f
    by_cases h : name = n
    · subst h
      simp
    · have hne : (name == n) = false := by simp [h]
      rw [List.map_cons, List.lookup_cons, List.lookup_cons, hne, ih]

/-- An object in another order of its fields, with like values in them and with further fields that
the record does not know. -/
theorem Likeness.record_of_perm {fields : List Field} {fs gs : List (String × Json)}
    (change : String → Json → Json) (others : List (String × Json))
    (hrefl : ∀ field ∈ fields, ∀ v, field.like v v)
    (hfs : (fs.map Prod.fst).Nodup)
    (hchange : ∀ field ∈ fields, ∀ v, (field.name, v) ∈ fs → field.like v (change field.name v))
    (hothers : ∀ field ∈ fields, field.name ∉ others.map Prod.fst)
    (hperm : (fs.map (fun f => (f.1, change f.1 f.2)) ++ others).Perm gs) :
    Likeness.record fields (.obj fs) (.obj gs) := by
  refine .inr ⟨fs, gs, rfl, rfl, fun field hf => ?_⟩
  -- of the field nothing is left but what the change makes of its value
  have hchanged : named field.name (fs.map (fun f => (f.1, change f.1 f.2)) ++ others) =
      named field.name (fs.map fun f => (f.1, change f.1 f.2)) := by
    rw [named_append, named_eq_nil (hothers field hf), List.append_nil]
  have hone : (named field.name (fs.map fun f => (f.1, change f.1 f.2))).length ≤ 1 :=
    length_named_le (by simpa [Function.comp_def] using hfs) _
  have hgs := named_eq_of_perm hperm (hchanged ▸ hone)
  have hlookup : gs.lookup field.name = (fs.lookup field.name).map (change field.name) := by
    rw [lookup_eq_named, hgs, hchanged, ← lookup_eq_named, lookup_map]
  refine ⟨length_named_le hfs _, by rw [hgs, hchanged]; exact hone, ?_⟩
  rw [Field.Shared, hlookup]
  cases hv : fs.lookup field.name with
  | none =>
    cases field.absent with
    | none => exact .none
    | some v => exact .some (hrefl field hf v)
  | some v => exact .some (hchange field hf v (mem_of_lookup hv))

end Proctor.Json
