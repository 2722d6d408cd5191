import Mathlib.Data.List.Forall2
import Mathlib.Data.List.Nodup
import Proctor.Crd.Definition
import Proctor.Proofs.Api.Patch
import Proctor.Proofs.Crd.Schema
import Proctor.Proofs.Json.Given

/-!
# The schema of Tests agrees with their codec

The cluster admits a Test by its schema, and the controller reads it by the codec. Both are told by
the parts of a Test, so they are compared part by part: what a part of the schema accepts is read
(`Schema.ReadBy`), and what is written of a part suits it, also when it is merged into what was
accepted before (`Schema.Suits`). So no Test that is admitted has a spec that cannot be read, and no
status that is written is refused.
-/

namespace Proctor

open Json (record? required orDefault optional list? ofFields given)

namespace Schema

/-! ### What a schema accepts is read -/

/-- Every value of the schema that is not `null` is read. -/
def ReadBy {α : Type} (s : Schema) (read : Json → Option α) : Prop :=
  ∀ v, s.Accepts v → v.isNull = false → ∃ a, read v = some a

section ReadBy

variable {α : Type} {s : Schema} {read : Json → Option α} {v : Json} {o : Option Json}

theorem Accepts.isNull_eq_false (h : s.Accepts v) (hs : s.remarks.nullable = false) :
    v.isNull = false := by
  have hnull : ∀ {p : Prop} (r : Remarks), r.nullable = false →
      (v = .null ∧ r.nullable = true) ∨ p → p := by
    intro p r hr hor
    exact hor.resolve_left fun hv => by simp [hr] at hv
  cases s with
  | text r choices =>
    simp only [Accepts] at h
    obtain ⟨_, rfl, -⟩ := hnull r hs h
    rfl
  | instant r =>
    simp only [Accepts] at h
    obtain ⟨_, rfl⟩ := hnull r hs h
    rfl
  | count r =>
    simp only [Accepts] at h
    obtain ⟨n, hn, -⟩ := hnull r hs h
    cases v <;> first | rfl | cases hn
  | list r items =>
    simp only [Accepts] at h
    obtain ⟨_, rfl, -⟩ := hnull r hs h
    rfl
  | record r fields required =>
    simp only [Accepts] at h
    obtain ⟨_, rfl, -⟩ := hnull r hs h
    rfl

theorem ReadBy.required (h : s.ReadBy read) (hs : s.remarks.nullable = false)
    (ho : ∀ v, o = some v → s.Accepts v) (hsome : o ≠ none) :
    ∃ a, required read o = some a := by
  obtain ⟨v, rfl⟩ := Option.ne_none_iff_exists'.1 hsome
  exact h v (ho v rfl) ((ho v rfl).isNull_eq_false hs)

theorem ReadBy.orDefault (h : s.ReadBy read) (hs : s.remarks.nullable = false)
    (ho : ∀ v, o = some v → s.Accepts v) (d : α) : ∃ a, orDefault d read o = some a := by
  cases o with
  | none => exact ⟨d, rfl⟩
  | some v => exact h v (ho v rfl) ((ho v rfl).isNull_eq_false hs)

theorem ReadBy.optional (h : s.ReadBy read) (ho : ∀ v, o = some v → s.Accepts v) :
    ∃ a, optional read o = some a := by
  cases o with
  | none => exact ⟨none, rfl⟩
  | some v =>
    cases hv : v.isNull with
    | true =>
      cases v <;> first | exact ⟨none, rfl⟩ | cases hv
    | false =>
      obtain ⟨a, ha⟩ := h v (ho v rfl) hv
      exact ⟨some a, by rw [Json.optional_some hv, ha, Option.map_some]⟩

theorem text_readBy (r : Remarks) (choices : List String) : (text r choices).ReadBy Json.str? := by
  intro v h hv
  simp only [Accepts] at h
  obtain ⟨rfl, -⟩ | ⟨s, rfl, -⟩ := h
  · cases hv
  · exact ⟨s, rfl⟩

/-- A choice out of a list is read if the schema offers the tags of the list. -/
theorem text_readBy_choice (r : Remarks) {tag : α → String} {all : List α} (hne : all ≠ []) :
    (text r (all.map tag)).ReadBy (Json.choice? tag all) := by
  intro v h hv
  simp only [Accepts] at h
  obtain ⟨rfl, -⟩ | ⟨s, rfl, hs⟩ := h
  · cases hv
  · obtain ⟨a, ha, rfl⟩ := List.mem_map.1 (hs.resolve_left (by simpa using hne))
    exact Option.isSome_iff_exists.1 (List.find?_isSome.2 ⟨a, ha, by simp⟩)

theorem ReadBy.list (h : s.ReadBy read) (hs : s.remarks.nullable = false) (r : Remarks) :
    (list r s).ReadBy (list? read) := by
  intro v hv hnull
  simp only [Accepts] at hv
  obtain ⟨rfl, -⟩ | ⟨vs, rfl, hvs⟩ := hv
  · cases hnull
  · exact exists_mapM_eq_some fun w hw => h w (hvs w hw) ((hvs w hw).isNull_eq_false hs)

/-- What a record holds under the names of its schema. -/
theorem Accepts.record? {r : Remarks} {fields : List (String × Schema)} {needed : List String}
    (h : (record r fields needed).Accepts v) (hv : v.isNull = false) :
    ∃ f : Json.Fields, (∀ names, record? names v = some f) ∧ (∀ n ∈ needed, f n ≠ none) ∧
      ∀ field ∈ fields, ∀ w, f field.1 = some w → field.2.Accepts w := by
  simp only [Accepts] at h
  obtain ⟨rfl, -⟩ | ⟨fs, rfl, hnodup, hneeded, hfields⟩ := h
  · cases hv
  · refine ⟨fun n => fs.lookup n, fun names => Json.record?_of_nodup hnodup, fun n hn hnone => ?_,
      acceptsEach_iff.1 hfields⟩
    exact Json.lookup_eq_none_iff.1 hnone (hneeded n hn)

end ReadBy

/-! ### What is written is accepted -/

/-- A value that a schema accepts by itself, and as the outcome of merging it into a value that is
accepted or unset. -/
structure Suits (s : Schema) (v : Json) : Prop where
  /-- It is accepted. -/
  accepts : s.Accepts v
  /-- Merged into another value it is accepted. -/
  merges : ∀ target, target = .null ∨ s.Accepts target → s.Accepts (target.merge v)

/-- A field is written under its name, with a value that suits its schema, or left out. -/
structure Offers (field : String × Schema) (entry : String × Option Json) : Prop where
  /-- It has its name. -/
  name_eq : field.1 = entry.1
  /-- If it is written, then it suits. -/
  suits : ∀ v ∈ entry.2, field.2.Suits v

section Suits

variable {r : Remarks} {fields : List (String × Schema)} {needed : List String}

/-- What is no object takes the place of what was there. -/
theorem suits_of_not_obj {s : Schema} {v : Json} (h : s.Accepts v) (hv : v.fields? = none) :
    s.Suits v := ⟨h, fun target _ => by rwa [Json.merge_of_not_obj target hv]⟩

/-- A record after a patch, which may not take away what is needed. -/
theorem accepts_merge {patch : List (String × Json)} (hp : (patch.map Prod.fst).Nodup)
    (hneeded : ∀ n ∈ needed, ∃ v, patch.lookup n = some v ∧ v.isNull = false)
    (hfields : ∀ field ∈ fields, ∀ v, patch.lookup field.1 = some v → v.isNull = false →
      field.2.Suits v)
    {target : Json} (ht : target = .null ∨ (record r fields needed).Accepts target) :
    (record r fields needed).Accepts (target.merge (.obj patch)) := by
  -- what was there before
  obtain ⟨hnodup, hold⟩ : ((target.fields?.getD []).map Prod.fst).Nodup ∧
      ∀ field ∈ fields, ∀ w, target.get? field.1 = some w → field.2.Accepts w := by
    simp only [Accepts] at ht
    obtain rfl | ⟨rfl, -⟩ | ⟨fs, rfl, hnodup, -, hfs⟩ := ht
    · exact ⟨by simp [Json.fields?], fun _ _ _ hw => by cases hw⟩
    · exact ⟨by simp [Json.fields?], fun _ _ _ hw => by cases hw⟩
    · exact ⟨hnodup, acceptsEach_iff.1 hfs⟩
  have hdistinct : (Json.obj patch).Distinct := hp
  have hget := hdistinct.get?_merge target
  rw [Json.merge_obj] at hget ⊢
  simp only [Accepts]
  refine .inr ⟨_, rfl, Json.nodup_mergeFields hnodup patch, fun n hn => ?_, ?_⟩
  · obtain ⟨v, hv, hnull⟩ := hneeded n hn
    have hkept := hget n
    have hlookup : (Json.obj patch).get? n = some v := hv
    rw [hlookup] at hkept
    simp only [hnull] at hkept
    exact List.mem_map_of_mem (Json.mem_of_lookup hkept)
  · refine acceptsEach_iff.2 fun field hf w hw => ?_
    have hkept := (hget field.1).symm.trans hw
    split at hkept
    · exact hold field hf w hkept
    · next v hv =>
      cases hnull : v.isNull with
      | true => simp [hnull] at hkept
      | false =>
        simp only [hnull] at hkept
        obtain rfl := Option.some.inj hkept
        refine (hfields field hf v hv hnull).merges _ ?_
        cases hwas : target.get? field.1 with
        | none => exact .inl rfl
        | some was => exact .inr (hold field hf was hwas)

/-- An object suits a record if its fields do. -/
theorem suits_obj {fs : List (String × Json)} (hn : (fs.map Prod.fst).Nodup)
    (hfields : ∀ field ∈ fields, ∀ v, fs.lookup field.1 = some v → field.2.Suits v)
    (hneeded : ∀ n ∈ needed, ∃ v, fs.lookup n = some v ∧ v.isNull = false) :
    (record r fields needed).Suits (.obj fs) := by
  constructor
  · simp only [Accepts]
    refine .inr ⟨fs, rfl, hn, fun n hm => ?_, acceptsEach_iff.2 fun field hf v hv =>
      (hfields field hf v hv).accepts⟩
    obtain ⟨v, hv, -⟩ := hneeded n hm
    exact List.mem_map_of_mem (Json.mem_of_lookup hv)
  · exact fun target => accepts_merge hn hneeded fun field hf v hv _ => hfields field hf v hv

/-- What is written of the fields suits them. -/
theorem suits_of_offers {entries : List (String × Option Json)}
    (hn : (entries.map Prod.fst).Nodup) (h : List.Forall₂ Offers fields entries) :
    ∀ field ∈ fields, ∀ v, (given entries).lookup field.1 = some v → field.2.Suits v := by
  intro field hf v hv
  have hoffer := Json.rel_of_mem_given (R := Offers) hn (fun _ _ => Offers.name_eq) h hf
    (Json.mem_of_lookup hv)
  exact hoffer.suits v rfl

theorem suits_ofFields {entries : List (String × Option Json)}
    (hn : (entries.map Prod.fst).Nodup) (h : List.Forall₂ Offers fields entries)
    (hneeded : ∀ n ∈ needed, ∃ v, (n, some v) ∈ entries ∧ v.isNull = false) :
    (record r fields needed).Suits (ofFields entries) := by
  refine suits_obj (Json.nodup_given hn) (suits_of_offers hn h) fun n hm => ?_
  obtain ⟨v, hv, hnull⟩ := hneeded n hm
  exact ⟨v, (Json.lookup_eq_some_iff (Json.nodup_given hn)).2 (Json.mem_given_iff.2 hv), hnull⟩

end Suits

section Offers

variable {α : Type} {name : String} {s : Schema} {r : Remarks}

theorem offers_part {v : Json} (h : s.Suits v) : Offers (name, s) (name, some v) :=
  ⟨rfl, fun _ hw => Option.mem_some_iff.1 hw ▸ h⟩

theorem offers_unsetPart {f : α → Json} (h : ∀ a, s.Suits (f a)) (o : Option α) :
    Offers (name, s) (name, o.map f) := by
  refine ⟨rfl, fun v hv => ?_⟩
  obtain ⟨a, -, rfl⟩ := Option.map_eq_some_iff.1 hv
  exact h a

theorem suits_str (text : String) : (Schema.text r []).Suits (.str text) :=
  suits_of_not_obj (by simp [Accepts]) rfl

theorem suits_choice {tag : α → String} {all : List α} {a : α} (h : a ∈ all) :
    (Schema.text r (all.map tag)).Suits (.str (tag a)) := by
  refine suits_of_not_obj ?_ rfl
  simp only [Accepts]
  exact .inr ⟨_, rfl, .inr (List.mem_map_of_mem h)⟩

theorem suits_instant (t : Instant) : (instant r).Suits (.str t.text) :=
  suits_of_not_obj (by simp [Accepts]) rfl

theorem suits_count (n : UInt32) : (count r).Suits (.ofWord32 n) := by
  refine suits_of_not_obj ?_ rfl
  simp only [Accepts]
  exact .inr ⟨n.toNat, rfl, Int.natCast_nonneg _⟩

/-- A list that is left out when it is empty. -/
theorem offers_list {f : α → Json} (h : ∀ a, s.Accepts (f a)) (items : List α) :
    Offers (name, list r s) (name, nonempty? f items) := by
  refine ⟨rfl, fun v hv => ?_⟩
  obtain ⟨vs, rfl⟩ := Json.eq_arr_of_nonempty? hv
  refine suits_of_not_obj ?_ rfl
  cases items with
  | nil => cases hv
  | cons a rest =>
    cases hv
    simp only [Accepts]
    refine .inr ⟨_, rfl, fun w hw => ?_⟩
    obtain ⟨b, -, rfl⟩ := List.mem_map.1 hw
    exact h b

end Offers

end Schema

namespace Definition

open Schema

/-! ### Specs are read -/

theorem language_readBy (r : Remarks) :
    (Schema.text r (Language.all.map Language.wire)).ReadBy Language.read? :=
  text_readBy_choice r (List.cons_ne_nil _ _)

theorem source_readBy : source.ReadBy Source.read? := by
  intro v h hv
  obtain ⟨f, hf, hneeded, hfields⟩ := h.record? hv
  simp only [List.forall_mem_cons] at hneeded hfields
  obtain ⟨hname, hcontent, hlanguage, -⟩ := hfields
  obtain ⟨name, hname⟩ := (text_readBy _ _).required rfl hname hneeded.1
  obtain ⟨content, hcontent⟩ := (text_readBy _ _).orDefault rfl hcontent ""
  obtain ⟨language, hlanguage⟩ := (language_readBy _).orDefault rfl hlanguage .feature
  exact ⟨⟨name, content, language⟩, by simp [Source.read?, hf, hname, hcontent, hlanguage]⟩

theorem settings_readBy : settings.ReadBy Settings.read? := by
  intro v h hv
  obtain ⟨f, hf, -, hfields⟩ := h.record? hv
  simp only [List.forall_mem_cons] at hfields
  obtain ⟨hname, hcontent, -⟩ := hfields
  obtain ⟨name, hname⟩ := (text_readBy _ _).optional hname
  obtain ⟨content, hcontent⟩ := (text_readBy _ _).orDefault rfl hcontent ""
  exact ⟨⟨name, content⟩, by simp [Settings.read?, hf, hname, hcontent]⟩

theorem resource_readBy : resource.ReadBy Resource.read? := by
  intro v h hv
  obtain ⟨f, hf, hneeded, hfields⟩ := h.record? hv
  simp only [List.forall_mem_cons] at hneeded hfields
  obtain ⟨hname, hcontent, -⟩ := hfields
  obtain ⟨name, hname⟩ := (text_readBy _ _).required rfl hname hneeded.1
  obtain ⟨content, hcontent⟩ := (text_readBy _ _).orDefault rfl hcontent ""
  exact ⟨⟨name, content⟩, by simp [Resource.read?, hf, hname, hcontent]⟩

theorem spec_readBy : spec.ReadBy Spec.read? := by
  intro v h hv
  obtain ⟨f, hf, hneeded, hfields⟩ := h.record? hv
  simp only [List.forall_mem_cons] at hneeded hfields
  obtain ⟨hsource, hsettings, henv, hresources, hsecret, -⟩ := hfields
  obtain ⟨source, hsource⟩ := source_readBy.required rfl hsource hneeded.1
  obtain ⟨settings, hsettings⟩ := settings_readBy.optional hsettings
  obtain ⟨env, henv⟩ := ((text_readBy _ _).list rfl _).orDefault rfl henv []
  obtain ⟨resources, hresources⟩ := (resource_readBy.list rfl _).orDefault rfl hresources []
  obtain ⟨secret, hsecret⟩ := (text_readBy _ _).optional hsecret
  exact ⟨⟨source, settings, env, resources, secret⟩,
    by simp [Spec.read?, hf, hsource, hsettings, henv, hresources, hsecret]⟩

/-! ### What is written suits -/

theorem suits_source (s : Source) : source.Suits s.toJson :=
  suits_ofFields (by simp)
    (.cons (offers_part (suits_str s.name)) (.cons (offers_part (suits_str s.content))
      (.cons (offers_part (suits_choice s.language.mem_all)) .nil)))
    (by simp [Json.isNull])

theorem suits_settings (s : Settings) : settings.Suits s.toJson :=
  suits_ofFields (by simp)
    (.cons (offers_unsetPart suits_str s.name) (.cons (offers_part (suits_str s.content)) .nil))
    (fun _ => nofun)

theorem suits_resource (r : Resource) : resource.Suits r.toJson :=
  suits_ofFields (by simp)
    (.cons (offers_part (suits_str r.name)) (.cons (offers_part (suits_str r.content)) .nil))
    (by simp [Json.isNull])

theorem suits_spec (s : Spec) : spec.Suits s.toJson :=
  suits_ofFields (by simp)
    (.cons (offers_part (suits_source s.source))
      (.cons (offers_unsetPart suits_settings s.settings)
      (.cons (offers_list (fun t => (suits_str t).accepts) s.env)
      (.cons (offers_list (fun r => (suits_resource r).accepts) s.resources)
      (.cons (offers_unsetPart suits_str s.secret) .nil)))))
    (by simp [Json.isNull, Source.toJson])

theorem suits_summary (s : Summary) : summary.Suits s.toJson :=
  suits_ofFields (by simp)
    (.cons (offers_part (suits_count s.total)) (.cons (offers_part (suits_count s.passed))
      (.cons (offers_part (suits_count s.failed)) (.cons (offers_part (suits_count s.skipped))
      (.cons (offers_part (suits_count s.pending)) (.cons (offers_part (suits_count s.undefined))
      (.cons (offers_part (suits_count s.errors)) .nil)))))))
    (fun _ => nofun)

theorem suits_scenarioResult (r : ScenarioResult) : scenarioResult.Suits r.toJson :=
  suits_ofFields (by simp)
    (.cons (offers_part (suits_str r.name)) (.cons (offers_unsetPart suits_str r.className)
      (.cons (offers_unsetPart suits_str r.errorType)
      (.cons (offers_unsetPart suits_str r.errorMessage) .nil))))
    (by simp [Json.isNull])

theorem suits_report (r : Report) : report.Suits r.toJson :=
  suits_ofFields (by simp)
    (.cons (offers_part (suits_summary r.summary))
      (.cons (offers_list (fun t => (suits_scenarioResult t).accepts) r.tests) .nil))
    (fun _ => nofun)

/-- The schemas of the fields of a status. -/
def statusFields : List (String × Schema) :=
  match status with
  | .record _ fields _ => fields
  | _ => []

theorem suits_statusFields (s : Status) :
    ∀ field ∈ statusFields, ∀ v, s.fields.lookup field.1 = some v → field.2.Suits v :=
  suits_of_offers (by simp)
    (.cons (offers_part (suits_choice s.phase.mem_all)) (.cons (offers_unsetPart suits_str s.testId)
      (.cons (offers_unsetPart suits_str s.digest) (.cons (offers_unsetPart suits_str s.version)
      (.cons (offers_unsetPart suits_report s.results)
      (.cons (offers_list (fun t => (suits_str t).accepts) s.errors)
      (.cons (offers_unsetPart suits_instant s.startedAt)
      (.cons (offers_unsetPart suits_instant s.completedAt) .nil))))))))

theorem suits_status (s : Status) : status.Suits s.toJson := by
  refine suits_obj s.nodup_fields (suits_statusFields s) ?_
  exact fun _ => nofun

/-- A status with the patch of another one merged into it is accepted. -/
theorem accepts_merge_patch (s : Status) {target : Json}
    (ht : target = .null ∨ status.Accepts target) : status.Accepts (target.merge s.patch) := by
  refine accepts_merge s.nodup_patchFields ?_ (fun field hf v hv hnull => ?_) ht
  · exact fun _ => nofun
  · rw [Status.lookup_patchFields, Option.or_eq_some_iff] at hv
    rcases hv with hv | ⟨-, hv⟩
    · exact suits_statusFields s field hf v hv
    · -- what is unset is `null` in the patch
      simp only [Option.ite_none_right_eq_some, Option.some.injEq] at hv
      obtain ⟨-, rfl⟩ := hv
      cases hnull

/-! ### The schema of Tests -/

/-- A Test is admitted if its spec is accepted, and its status unless it has none. -/
theorem admits_schema_iff {j : Json} :
    Json.Admits schema j ↔ ∃ fs, j = .obj fs ∧ (fs.map Prod.fst).Nodup ∧
      (∃ v, fs.lookup "spec" = some v ∧ spec.Accepts v) ∧
      ∀ v, fs.lookup "status" = some v → status.Accepts v := by
  rw [schema, Json.admits_obj_iff, Json.admitsAll_note_iff (by decide),
    Json.admitsAll_note_iff (by decide), Json.admitsAll_type_iff, Json.admitsAll_properties_iff,
    Json.admitsAll_required_iff]
  simp only [List.forall_mem_cons, admits_toJson_iff]
  constructor
  · rintro (⟨-, hnullable⟩ | ⟨⟨fs, rfl, hnodup⟩, hproperties, hneeded, -⟩)
    · exact absurd hnullable (by decide)
    · obtain ⟨hspec, hstatus, -⟩ := hproperties fs rfl
      obtain ⟨v, hv⟩ : ∃ v, fs.lookup "spec" = some v := by
        refine Option.ne_none_iff_exists'.1 fun hnone => ?_
        exact Json.lookup_eq_none_iff.1 hnone (hneeded fs rfl).1
      exact ⟨fs, rfl, hnodup, ⟨v, hv, hspec v hv⟩, hstatus⟩
  · rintro ⟨fs, rfl, hnodup, ⟨v, hv, hspec⟩, hstatus⟩
    refine .inr ⟨⟨fs, rfl, hnodup⟩, fun gs hgs => ?_, fun gs hgs => ?_, Json.admitsAll_nil⟩
    · cases hgs
      refine ⟨fun w hw => ?_, hstatus, nofun⟩
      obtain rfl := Option.some.inj (hv.symm.trans hw)
      exact hspec
    · cases hgs
      exact ⟨List.mem_map_of_mem (Json.mem_of_lookup hv), nofun⟩

/-- The schema of Tests agrees with their codec. The spec of every Test that is admitted is read,
every Test is admitted as it is written, and so is every one that was admitted when the patch of a
status is merged into it. -/
theorem schema_agrees :
    (∀ j, Json.Admits schema j → ∃ v s, j.get? "spec" = some v ∧ Spec.read? v = some s) ∧
      (∀ t : Test, Json.Admits schema t.toJson) ∧
      ∀ j (t : Test), Json.Admits schema j → Json.Admits schema (j.merge t.statusPatch) := by
  refine ⟨fun j hj => ?_, fun t => ?_, fun j t hj => ?_⟩
  · obtain ⟨fs, rfl, -, ⟨v, hv, hspec⟩, -⟩ := admits_schema_iff.1 hj
    obtain ⟨s, hs⟩ := spec_readBy v hspec (hspec.isNull_eq_false rfl)
    exact ⟨v, s, hv, hs⟩
  · refine admits_schema_iff.2 ⟨given _, rfl, t.distinct_toJson,
      ⟨t.spec.toJson, t.get?_spec, (suits_spec t.spec).accepts⟩, fun v hv => ?_⟩
    have hwritten : t.status.map Status.toJson = some v := t.get?_status.symm.trans hv
    obtain ⟨st, -, rfl⟩ := Option.map_eq_some_iff.1 hwritten
    exact (suits_status st).accepts
  · obtain ⟨fs, rfl, hnodup, ⟨v, hv, hspec⟩, hstatus⟩ := admits_schema_iff.1 hj
    have hget := t.distinct_statusPatch.get?_merge (.obj fs)
    refine admits_schema_iff.2 ⟨_, Json.merge_obj _ _, Json.nodup_mergeFields hnodup _,
      ⟨v, (hget "spec").trans hv, hspec⟩, fun w hw => ?_⟩
    have hmerged : (((Json.obj fs).get? "status").getD .null).merge (t.status.getD {}).patch = w :=
      Option.some.inj ((hget "status").symm.trans hw)
    rw [← hmerged]
    refine accepts_merge_patch _ ?_
    cases hwas : (Json.obj fs).get? "status" with
    | none => exact .inl rfl
    | some was => exact .inr (hstatus was hwas)

/-- A Test as someone may submit it, with an author that no schema knows and with settings that are
unset. -/
def submitted : Json :=
  .obj [
    ("metadata", .obj [("name", .str "hello")]),
    ("spec", .obj [
      ("settings", .null),
      ("source", .obj [
        ("author", .int 1), ("language", .str "groovy"), ("name", .str "hello.groovy")]),
      ("env", .arr [.str "A=1"])])]

theorem admits_submitted : Json.Admits schema submitted := by
  refine admits_schema_iff.2 ⟨_, rfl, by decide, ⟨_, rfl, ?_⟩, fun v hv => ?_⟩
  · simp [spec, source, settings, text, unsetText, emptyText, texts, Accepts, AcceptsEach,
      List.lookup_cons, Language.all, Language.wire]
  · cases hv

/-- The Test is admitted and read, and admitted still when it has begun to run. -/
theorem submitted_agrees :
    (∃ v s, submitted.get? "spec" = some v ∧ Spec.read? v = some s) ∧
      Json.Admits schema (submitted.merge (Test.statusPatch
        { metadata := {}, spec := { source := { name := "hello.groovy" } }
          status := some { phase := .running, testId := some "1" } })) :=
  ⟨schema_agrees.1 submitted admits_submitted, schema_agrees.2.2 submitted _ admits_submitted⟩

end Definition

end Proctor
