import Proctor.Proofs.Api.Patch

/-!
# The object of a stored Test

An API server stores an object, and a Test is read out of it. Which object it is does not matter: it
may have been written by anyone, with fields that no Test has. What matters are its metadata, its
spec, and the object in it that holds the status (`Test.HeldBy`), and what becomes of these under
the patches that are merged into it.
-/

namespace Proctor

open Json

/-! ### Metadata -/

theorem Json.last?_congr {α : Type} {read : Json → Option α} {name : String}
    {fs gs : List (String × Json)} (h : named name fs = named name gs) :
    last? read name fs = last? read name gs := by
  rw [last?, last?, show fs.filter (·.1 = name) = gs.filter (·.1 = name) from h]

theorem Shape.readFields?_congr {shapes : List (Shape.Field Shape)} {fs gs : List (String × Json)}
    (h : ∀ f ∈ shapes, named f.name fs = named f.name gs) :
    readFields? shapes fs = readFields? shapes gs := by
  induction shapes with
  | nil => rw [readFields?, readFields?]
  | cons f rest ih =>
    obtain ⟨name, isWritten, shape⟩ := f
    rw [readFields?, readFields?, last?_congr (h _ List.mem_cons_self),
      ih fun f hf => h f (List.mem_cons_of_mem _ hf)]

/-- The patch that gives an object a version. -/
def versionPatch (version : String) : List (String × Json) :=
  [("metadata", .obj [("resourceVersion", .str version)])]

/-- The metadata of an object whose version was set. -/
theorem ObjectMeta.read?_versioned {fields : List (String × Json)} {m : ObjectMeta}
    (h : ObjectMeta.read? (.obj fields) = some m) (version : String) :
    ObjectMeta.read? (.obj (mergeFields fields [("resourceVersion", .str version)])) =
      some { m with resourceVersion := some version } := by
  have hnamed : ∀ n, n ≠ "resourceVersion" →
      named n (mergeFields fields [("resourceVersion", .str version)]) = named n fields :=
    fun n hn => by rw [named_mergeFields_one rfl, if_neg hn]
  have hlast : ∀ {α : Type} (read : Json → Option α) (n : String), n ≠ "resourceVersion" →
      last? read n (mergeFields fields [("resourceVersion", .str version)]) =
        last? read n fields := fun read n hn => last?_congr (hnamed n hn)
  have hversion : last? str? "resourceVersion"
      (mergeFields fields [("resourceVersion", .str version)]) = some (some version) := by
    rw [last?, show List.filter _ _ = named _ _ from rfl, named_mergeFields_one rfl, if_pos rfl,
      merge_of_not_obj _ rfl]
    rfl
  have hothers : Shape.readFields? otherFields
      (mergeFields fields [("resourceVersion", .str version)]) =
        Shape.readFields? otherFields fields := by
    refine Shape.readFields?_congr fun f hf => hnamed f.name ?_
    have hall : otherFields.all (·.name ≠ "resourceVersion") = true := by decide
    simpa using List.all_eq_true.1 hall f hf
  simp only [ObjectMeta.read?, Json.fields?, Option.bind_eq_bind, Option.bind_eq_some_iff,
    Option.some.injEq] at h
  obtain ⟨_, rfl, name, hname, generateName, hgenerateName, namespaceName, hnamespaceName, uid,
    huid, _, -, labels, hlabels, annotations, hannotations, generation, hgeneration,
    creationTimestamp, hcreationTimestamp, ownerReferences, hownerReferences, others, ho, rfl⟩ := h
  simp [ObjectMeta.read?, Json.fields?, hlast, hversion, hothers, hname, hgenerateName,
    hnamespaceName, huid, hlabels, hannotations, hgeneration, hcreationTimestamp,
    hownerReferences, ho]

/-! ### Tests -/

/-- What the field of a status holds. -/
inductive Test.StatusIn (fields : List (String × Json)) : Option Status → Prop where
  /-- There is none. -/
  | absent (h : named "status" fields = []) : StatusIn fields none
  /-- It is unset. -/
  | unset (h : named "status" fields = [("status", .null)]) : StatusIn fields none
  /-- It is an object. -/
  | held {s : Status} {parts : List (String × Json)}
    (h : named "status" fields = [("status", .obj parts)]) (hs : Status.Held (some s) parts) :
    StatusIn fields (some s)

/-- A Test is held by an object with these fields. -/
structure Test.HeldBy (t : Test) (fields : List (String × Json)) : Prop where
  /-- Its metadata are. -/
  metadata : ∃ parts, named "metadata" fields = [("metadata", .obj parts)] ∧
    ObjectMeta.read? (.obj parts) = some t.metadata
  /-- Its spec is. -/
  spec : ∃ v, named "spec" fields = [("spec", v)] ∧ Spec.read? v = some t.spec
  /-- Its status is. -/
  status : StatusIn fields t.status

theorem Test.StatusIn.congr {fs gs : List (String × Json)} {status : Option Status}
    (h : StatusIn fs status) (hn : named "status" gs = named "status" fs) :
    StatusIn gs status := by
  rcases h with h | h | ⟨h, hs⟩
  · exact .absent (hn.trans h)
  · exact .unset (hn.trans h)
  · exact .held (hn.trans h) hs

/-- What of a status an object within the object holds; without one it is as if it were empty. -/
theorem Test.StatusIn.parts {fields : List (String × Json)} {status : Option Status}
    (h : StatusIn fields status) : ∃ parts,
      ((fields.lookup "status").getD .null).fields?.getD [] = parts ∧ Status.Held status parts := by
  rcases h with h | h | ⟨h, hs⟩
  · rw [lookup_eq_named, h]
    exact ⟨[], rfl, rfl⟩
  · rw [lookup_of_named h]
    exact ⟨[], rfl, rfl⟩
  · rw [lookup_of_named h]
    exact ⟨_, rfl, hs⟩

theorem Json.eq_some_of_required {α : Type} {read : Json → Option α} {o : Option Json} {a : α}
    (h : required read o = some a) : ∃ v, o = some v ∧ read v = some a := by
  cases o with
  | none => cases h
  | some v => exact ⟨v, rfl, h⟩

theorem ObjectMeta.eq_obj_of_read? {v : Json} {m : ObjectMeta}
    (h : ObjectMeta.read? v = some m) : ∃ parts, v = .obj parts := by
  cases v with
  | obj parts => exact ⟨parts, rfl⟩
  | null | bool _ | int _ | real _ | str _ | torn | arr _ => cases h

namespace Test.HeldBy

variable {t : Test} {fields : List (String × Json)}

/-- A Test is read out of the object that holds it. -/
theorem read? (h : t.HeldBy fields) : Test.read? (.obj fields) = some t := by
  obtain ⟨⟨parts, hm, hmeta⟩, ⟨v, hs, hspec⟩, hstatus⟩ := h
  obtain ⟨metadata, spec, status⟩ := t
  have hone : (named "status" fields).length ≤ 1 := by
    rcases hstatus with h | h | ⟨h, -⟩ <;> simp [h]
  have hrec : Test.fields? (.obj fields) = some fun n => fields.lookup n :=
    record?_obj_eq_some_iff.2 ⟨by simp [hm, hs, hone], rfl⟩
  have hread : optional Status.read? (fields.lookup "status") = some status := by
    cases hstatus with
    | absent h =>
      rw [lookup_eq_named, h]
      rfl
    | unset h =>
      rw [lookup_of_named h]
      rfl
    | held h hheld =>
      rw [lookup_of_named h, optional_some rfl, hheld.read?]
      rfl
  simp [Test.read?, hrec, lookup_of_named hm, hmeta, lookup_of_named hs, hspec, hread]

/-- A Test without a status that is read out of an object is held by it. -/
theorem of_read? (h : Test.read? (.obj fields) = some t) (hs : t.status = none) :
    t.HeldBy fields := by
  simp only [Test.read?, Option.bind_eq_bind, Option.bind_eq_some_iff, Option.some.injEq] at h
  obtain ⟨f, hf, metadata, hmeta, spec, hspec, status, hstatus, rfl⟩ := h
  obtain ⟨hone, rfl⟩ := record?_obj_eq_some_iff.1 (show record? _ (.obj fields) = some f from hf)
  obtain rfl : status = none := hs
  refine ⟨?_, ?_, ?_⟩
  · obtain ⟨v, hv, hread⟩ := Json.eq_some_of_required hmeta
    obtain ⟨parts, rfl⟩ := ObjectMeta.eq_obj_of_read? hread
    exact ⟨parts, named_of_lookup (hone "metadata" (by simp)) hv, hread⟩
  · obtain ⟨v, hv, hread⟩ := Json.eq_some_of_required hspec
    exact ⟨v, named_of_lookup (hone "spec" (by simp)) hv, hread⟩
  · have hread : optional Status.read? (fields.lookup "status") = some none := hstatus
    cases hv : fields.lookup "status" with
    | none =>
      rw [lookup_eq_none_iff] at hv
      exact .absent (named_eq_nil hv)
    | some v =>
      rw [hv] at hread
      by_cases hn : v.isNull = true
      · cases v with
        | null => exact .unset (named_of_lookup (hone "status" (by simp)) hv)
        | bool _ | int _ | real _ | str _ | torn | arr _ | obj _ => cases hn
      · rw [optional_some (by simpa using hn), Option.map_eq_some_iff] at hread
        obtain ⟨_, -, h⟩ := hread
        cases h

/-! ### Patches -/

theorem lookup_metadata (h : t.HeldBy fields) : ∃ parts,
    fields.lookup "metadata" = some (.obj parts) ∧
      ObjectMeta.read? (.obj parts) = some t.metadata := by
  obtain ⟨parts, hm, hmeta⟩ := h.metadata
  exact ⟨parts, lookup_of_named hm, hmeta⟩

/-- The object gets a version. -/
theorem versioned (h : t.HeldBy fields) (version : String) :
    ({ t with metadata := { t.metadata with resourceVersion := some version } } : Test).HeldBy
      (mergeFields fields (versionPatch version)) := by
  obtain ⟨parts, hl, hmeta⟩ := h.lookup_metadata
  have hkeep : ∀ n, n ≠ "metadata" →
      named n (mergeFields fields (versionPatch version)) = named n fields :=
    fun n hn => by rw [versionPatch, named_mergeFields_one rfl, if_neg hn]
  refine ⟨⟨_, ?_, ObjectMeta.read?_versioned hmeta version⟩, ?_, ?_⟩
  · rw [versionPatch, named_mergeFields_one rfl, if_pos rfl, hl]
    rw [Option.getD_some, merge_obj]
    rfl
  · rw [hkeep _ (by decide)]
    exact h.spec
  · exact h.status.congr (hkeep _ (by decide))

/-- The spec of the object is replaced. -/
theorem respecified (h : t.HeldBy fields) {v : Json} {spec : Spec} (hv : Spec.read? v = some spec) :
    ({ t with spec } : Test).HeldBy (without "spec" fields ++ [("spec", v)]) := by
  have hnamed : ∀ n, named n (without "spec" fields ++ [("spec", v)]) =
      if n = "spec" then [("spec", v)] else named n fields := by
    intro n
    rw [named_append, named_without, named_singleton]
    by_cases hn : n = "spec"
    · simp [hn]
    · simp [hn, Ne.symm hn]
  refine ⟨?_, ⟨v, ?_, hv⟩, ?_⟩
  · rw [hnamed, if_neg (by decide)]
    exact h.metadata
  · rw [hnamed, if_pos rfl]
  · exact h.status.congr (by rw [hnamed, if_neg (by decide)])

/-- What a patch makes of the status. -/
theorem patched (h : t.HeldBy fields) {patch : List (String × Json)} {s : Status}
    (hs : ∀ parts, Status.Held t.status parts → Status.Held (some s) (mergeFields parts patch)) :
    ({ t with status := some s } : Test).HeldBy (mergeFields fields [("status", .obj patch)]) := by
  obtain ⟨parts, hparts, hheld⟩ := h.status.parts
  have hkeep : ∀ n, n ≠ "status" →
      named n (mergeFields fields [("status", .obj patch)]) = named n fields :=
    fun n hn => by rw [named_mergeFields_one rfl, if_neg hn]
  refine ⟨?_, ?_, .held ?_ (hs parts hheld)⟩
  · rw [hkeep _ (by decide)]
    exact h.metadata
  · rw [hkeep _ (by decide)]
    exact h.spec
  · rw [named_mergeFields_one rfl, if_pos rfl, merge_obj, hparts]

end Test.HeldBy

end Proctor
