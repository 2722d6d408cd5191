import Mathlib.Data.Rat.Cast.Order
import Proctor.Crd.Schema

/-!
# What a schema admits

The cluster stores an object only if the schema of its kind admits it. A schema is an object itself,
whose keywords each say something about a value (`Json.Admits`); what they do not speak of is
allowed. Of the schemas that are written here the meaning can be told by their parts
(`Schema.admits_toJson_iff`).

## What is left out

Six keywords have a meaning here, and whether a value may be `null`; every other one, be it `format`
or a bound from above, allows all values (`Json.Heeds`). What a cluster does to an object beside
looking at it, to fill in what has a default and to drop what no schema names, is not told.
-/

namespace Proctor.Json

/-! ### Types -/

/-- The number of a literal: its digits, moved by the exponent and by the places of its fraction. -/
def literalNumber (literal : List Char) : ℚ :=
  let unsigned := literal.dropWhile (· = '-')
  let whole := unsigned.takeWhile Char.isDigit
  let rest := unsigned.dropWhile Char.isDigit
  let fraction := if rest.head? = some '.' then rest.tail.takeWhile Char.isDigit else []
  let exponent := (rest.dropWhile fun c => c = '.' ∨ c.isDigit).tail
  let power : ℤ := Nat.ofDigitChars 10 (exponent.filter Char.isDigit) 0
  let sign : ℚ := if literal.head? = some '-' then -1 else 1
  sign * Nat.ofDigitChars 10 (whole ++ fraction) 0 *
    10 ^ ((if exponent.head? = some '-' then -power else power) - fraction.length)

/-- The number that a value is. -/
def number? : Json → Option ℚ
  | .int n => some n
  | .real literal => some (literalNumber literal.toList)
  | _ => none

/-- The values of a type. In an object no name stands twice. -/
def IsOf (type : String) (v : Json) : Prop :=
  match type with
  | "object" => ∃ fields, v = .obj fields ∧ (fields.map Prod.fst).Nodup
  | "array" => ∃ items, v = .arr items
  | "string" => ∃ s, v = .str s
  | "boolean" => ∃ b, v = .bool b
  | "number" => ∃ q, v.number? = some q
  | "integer" => ∃ n : ℤ, v.number? = some n
  | _ => False

/-! ### Keywords -/

/-- A value is as a keyword says, which may itself be a schema or give the schemas of fields. -/
def Heeds (keyword : String) (said : Json) (schema : Json → Prop)
    (properties : List (String × Json) → Prop) (v : Json) : Prop :=
  match keyword with
  | "type" => ∀ type, said = .str type → v.IsOf type
  | "enum" => ∀ choices, said = .arr choices → v ∈ choices
  | "minimum" => ∀ least q, said.number? = some least → v.number? = some q → least ≤ q
  | "required" => ∀ names fields, said = .arr names → v = .obj fields →
    ∀ n, .str n ∈ names → n ∈ fields.map Prod.fst
  | "items" => ∀ items, v = .arr items → ∀ w ∈ items, schema w
  | "properties" => ∀ fields, v = .obj fields → properties fields
  | _ => True

mutual

/-- The schema admits the value: it is as all keywords say, or it is `null` and may be that. -/
def Admits : Json → Json → Prop
  | .obj keywords => fun v =>
    (v = .null ∧ keywords.lookup "nullable" = some (.bool true)) ∨ AdmitsAll keywords v
  | _ => fun _ => False

/-- The value is as all of these keywords say. -/
def AdmitsAll : List (String × Json) → Json → Prop
  | [] => fun _ => True
  | (keyword, said) :: rest => fun v =>
    Heeds keyword said (Admits said) (AdmitsFields said) v ∧ AdmitsAll rest v

/-- The fields are as the schemas of this object say. -/
def AdmitsFields : Json → List (String × Json) → Prop
  | .obj properties => AdmitsEach properties
  | _ => fun _ => True

/-- The fields are as each of these schemas says. -/
def AdmitsEach : List (String × Json) → List (String × Json) → Prop
  | [] => fun _ => True
  | (name, schema) :: rest => fun fields =>
    (∀ v, fields.lookup name = some v → Admits schema v) ∧ AdmitsEach rest fields

end

theorem admits_obj_iff {keywords : List (String × Json)} {v : Json} :
    Admits (.obj keywords) v ↔
      (v = .null ∧ keywords.lookup "nullable" = some (.bool true)) ∨ AdmitsAll keywords v := by
  simp only [Admits]

theorem admitsEach_iff {properties fields : List (String × Json)} :
    AdmitsEach properties fields ↔
      ∀ p ∈ properties, ∀ v, fields.lookup p.1 = some v → Admits p.2 v := by
  induction properties with
  | nil => simp [AdmitsEach]
  | cons p rest ih => simp only [AdmitsEach, ih, List.forall_mem_cons]

section Keywords

variable {said v : Json} {rest : List (String × Json)}

theorem admitsAll_nil : AdmitsAll [] v := by
  simp only [AdmitsAll]

theorem admitsAll_type_iff {type : String} :
    AdmitsAll (("type", .str type) :: rest) v ↔ v.IsOf type ∧ AdmitsAll rest v := by
  simp [AdmitsAll, Heeds]

theorem admitsAll_enum_iff {choices : List String} :
    AdmitsAll (("enum", .ofTexts choices) :: rest) v ↔
      (∃ s ∈ choices, v = .str s) ∧ AdmitsAll rest v := by
  simp [AdmitsAll, Heeds, ofTexts, eq_comm]

theorem admitsAll_minimum_iff :
    AdmitsAll (("minimum", said) :: rest) v ↔
      (∀ least q, said.number? = some least → v.number? = some q → least ≤ q) ∧
        AdmitsAll rest v := by
  simp only [AdmitsAll, Heeds]

/-- What these keywords say is not looked at. -/
theorem admitsAll_note_iff {keyword : String} (h : keyword ∈ ["title", "description", "format"]) :
    AdmitsAll ((keyword, said) :: rest) v ↔ AdmitsAll rest v := by
  simp only [List.mem_cons, List.not_mem_nil, or_false] at h
  rcases h with rfl | rfl | rfl <;> simp [AdmitsAll, Heeds]

theorem admitsAll_items_iff :
    AdmitsAll (("items", said) :: rest) v ↔
      (∀ items, v = .arr items → ∀ w ∈ items, Admits said w) ∧ AdmitsAll rest v := by
  simp only [AdmitsAll, Heeds]

theorem admitsAll_properties_iff {properties : List (String × Json)} :
    AdmitsAll (("properties", .obj properties) :: rest) v ↔
      (∀ fields, v = .obj fields →
        ∀ p ∈ properties, ∀ w, fields.lookup p.1 = some w → Admits p.2 w) ∧
      AdmitsAll rest v := by
  simp only [AdmitsAll, Heeds, AdmitsFields, admitsEach_iff]

theorem admitsAll_required_iff {names : List String} :
    AdmitsAll (("required", .ofTexts names) :: rest) v ↔
      (∀ fields, v = .obj fields → ∀ n ∈ names, n ∈ fields.map Prod.fst) ∧ AdmitsAll rest v := by
  simp only [AdmitsAll, Heeds]
  refine and_congr_left' ⟨fun h fields hv n hn => ?_, fun h names fields hs hv n hn => ?_⟩
  · exact h _ fields rfl hv n (List.mem_map_of_mem hn)
  · cases hs
    obtain ⟨m, hm, he⟩ := List.mem_map.1 hn
    cases he
    exact h fields hv n hm

end Keywords

theorem admitsAll_append (ks ls : List (String × Json)) (v : Json) :
    AdmitsAll (ks ++ ls) v ↔ AdmitsAll ks v ∧ AdmitsAll ls v := by
  induction ks with
  | nil => simp [AdmitsAll]
  | cons k ks ih => simp only [List.cons_append, AdmitsAll, ih, and_assoc]

end Proctor.Json

namespace Proctor

open Json (Admits AdmitsAll AdmitsEach)

namespace Schema

/-! ### The meaning of a schema -/

mutual

/-- The values of a schema, told by its parts. -/
def Accepts : Schema → Json → Prop
  | .text r choices => fun v =>
    (v = .null ∧ r.nullable = true) ∨ ∃ s, v = .str s ∧ (choices = [] ∨ s ∈ choices)
  | .instant r => fun v => (v = .null ∧ r.nullable = true) ∨ ∃ s, v = .str s
  | .count r => fun v =>
    (v = .null ∧ r.nullable = true) ∨ ∃ n : ℤ, v.number? = some n ∧ 0 ≤ n
  | .list r items => fun v =>
    (v = .null ∧ r.nullable = true) ∨ ∃ vs, v = .arr vs ∧ ∀ w ∈ vs, items.Accepts w
  | .record r fields required => fun v =>
    (v = .null ∧ r.nullable = true) ∨ ∃ fs, v = .obj fs ∧ (fs.map Prod.fst).Nodup ∧
      (∀ n ∈ required, n ∈ fs.map Prod.fst) ∧ AcceptsEach fields fs

/-- The fields are values of these schemas. -/
def AcceptsEach : List (String × Schema) → List (String × Json) → Prop
  | [] => fun _ => True
  | (name, s) :: rest => fun fs =>
    (∀ v, fs.lookup name = some v → s.Accepts v) ∧ AcceptsEach rest fs

end

theorem admitsAll_ofRemarks (r : Remarks) (v : Json) : AdmitsAll (ofRemarks r) v := by
  obtain ⟨description, nullable, default⟩ := r
  cases description <;> cases nullable <;> cases default <;>
    simp [ofRemarks, AdmitsAll, Json.Heeds]

theorem lookup_ofRemarks (r : Remarks) (keywords : List (String × Json)) :
    (ofRemarks r ++ keywords).lookup "nullable" =
      if r.nullable then some (.bool true) else keywords.lookup "nullable" := by
  obtain ⟨description, nullable, default⟩ := r
  cases description <;> cases nullable <;> cases default <;> simp [ofRemarks, List.lookup_cons]

/-- What is said beside the type matters only for `null`. -/
theorem admits_iff (ks ls : List (String × Json)) (hk : ks.lookup "nullable" = none)
    (hl : ls.lookup "nullable" = none) (r : Remarks) (v : Json) :
    Admits (.obj (ks ++ (ofRemarks r ++ ls))) v ↔
      (v = .null ∧ r.nullable = true) ∨ AdmitsAll ks v ∧ AdmitsAll ls v := by
  have hnull : (ks ++ (ofRemarks r ++ ls)).lookup "nullable" = some (.bool true) ↔
      r.nullable = true := by
    rw [List.lookup_append, hk, Option.none_or, lookup_ofRemarks, hl]
    simp
  rw [Json.admits_obj_iff, hnull, Json.admitsAll_append, Json.admitsAll_append]
  simp [admitsAll_ofRemarks]

theorem fieldsToJson_eq (fields : List (String × Schema)) :
    fieldsToJson fields = fields.map fun f => (f.1, f.2.toJson) := by
  induction fields with
  | nil => rfl
  | cons f rest ih => rw [fieldsToJson, ih, List.map_cons]

theorem acceptsEach_iff {fields : List (String × Schema)} {fs : List (String × Json)} :
    AcceptsEach fields fs ↔ ∀ f ∈ fields, ∀ v, fs.lookup f.1 = some v → f.2.Accepts v := by
  induction fields with
  | nil => simp [AcceptsEach]
  | cons f rest ih => simp only [AcceptsEach, ih, List.forall_mem_cons]

/-! ### The object of a schema -/

section Kinds

variable {v : Json} {r : Remarks}

theorem admits_text_iff {choices : List String} :
    Admits (text r choices).toJson v ↔ (text r choices).Accepts v := by
  have hls : (if choices = [] then [] else [("enum", Json.ofTexts choices)]).lookup "nullable" =
      none := by
    split <;> rfl
  refine (admits_iff [("type", .str "string")] _ rfl hls r v).trans ?_
  simp only [Accepts]
  refine or_congr_right ?_
  rw [Json.admitsAll_type_iff]
  split
  · next hc => simp [hc, Json.IsOf, Json.admitsAll_nil]
  · next hc =>
    rw [Json.admitsAll_enum_iff]
    constructor
    · rintro ⟨-, ⟨s, hs, rfl⟩, -⟩
      exact ⟨s, rfl, .inr hs⟩
    · rintro ⟨s, rfl, hs⟩
      exact ⟨⟨⟨s, rfl⟩, Json.admitsAll_nil⟩, ⟨s, hs.resolve_left hc, rfl⟩, Json.admitsAll_nil⟩

theorem admits_instant_iff : Admits (instant r).toJson v ↔ (instant r).Accepts v := by
  have hform : (instant r).toJson =
      .obj ([("type", .str "string"), ("format", .str "date-time")] ++ (ofRemarks r ++ [])) := by
    rw [List.append_nil]
    rfl
  rw [hform, admits_iff _ _ rfl rfl, Json.admitsAll_type_iff, Json.admitsAll_note_iff (by decide)]
  simp [Accepts, Json.IsOf, Json.admitsAll_nil]

/-- The least count is written with a fraction. -/
theorem number?_least : (Json.real "0.0").number? = some 0 := by decide +kernel

theorem admits_count_iff : Admits (count r).toJson v ↔ (count r).Accepts v := by
  have hform : (count r).toJson =
      .obj ([("type", .str "integer"), ("format", .str "uint32"), ("minimum", .real "0.0")] ++
        (ofRemarks r ++ [])) := by
    rw [List.append_nil]
    rfl
  rw [hform, admits_iff _ _ rfl rfl, Json.admitsAll_type_iff, Json.admitsAll_note_iff (by decide),
    Json.admitsAll_minimum_iff, number?_least]
  simp only [Accepts]
  refine or_congr_right ⟨?_, ?_⟩
  · rintro ⟨⟨⟨n, hn⟩, hleast, -⟩, -⟩
    exact ⟨n, hn, Int.cast_nonneg_iff.1 (hleast 0 n rfl hn)⟩
  · rintro ⟨n, hn, hpos⟩
    refine ⟨⟨⟨n, hn⟩, fun least q hleast hq => ?_, Json.admitsAll_nil⟩, Json.admitsAll_nil⟩
    obtain rfl := Option.some.inj hleast
    obtain rfl := Option.some.inj (hn.symm.trans hq)
    exact Int.cast_nonneg_iff.2 hpos

theorem admits_list_iff {items : Schema} (h : ∀ w, Admits items.toJson w ↔ items.Accepts w) :
    Admits (list r items).toJson v ↔ (list r items).Accepts v := by
  have hform : (list r items).toJson =
      .obj ([("type", .str "array"), ("items", items.toJson)] ++ (ofRemarks r ++ [])) := by
    rw [List.append_nil]
    rfl
  rw [hform, admits_iff _ _ rfl rfl, Json.admitsAll_type_iff, Json.admitsAll_items_iff]
  simp only [Accepts, h]
  refine or_congr_right ⟨?_, ?_⟩
  · rintro ⟨⟨⟨vs, rfl⟩, hvs, -⟩, -⟩
    exact ⟨vs, rfl, hvs vs rfl⟩
  · rintro ⟨vs, rfl, hvs⟩
    refine ⟨⟨⟨vs, rfl⟩, fun ws hw => ?_, Json.admitsAll_nil⟩, Json.admitsAll_nil⟩
    cases hw
    exact hvs

theorem admits_record_iff {fields : List (String × Schema)} {required : List String}
    (h : ∀ f ∈ fields, ∀ w, Admits f.2.toJson w ↔ f.2.Accepts w) :
    Admits (record r fields required).toJson v ↔ (record r fields required).Accepts v := by
  have hls : (if required = [] then [] else [("required", Json.ofTexts required)]).lookup
      "nullable" = none := by
    split <;> rfl
  have hneeds : ∀ {fs : List (String × Json)},
      AdmitsAll (if required = [] then [] else [("required", Json.ofTexts required)]) (.obj fs) ↔
        ∀ n ∈ required, n ∈ fs.map Prod.fst := by
    intro fs
    split
    · next hr => simp [hr, Json.admitsAll_nil]
    · rw [Json.admitsAll_required_iff]
      simp [Json.admitsAll_nil]
  refine (admits_iff [("type", .str "object"), ("properties", .obj (fieldsToJson fields))] _ rfl
    hls r v).trans ?_
  rw [Json.admitsAll_type_iff, Json.admitsAll_properties_iff, fieldsToJson_eq]
  simp only [Accepts]
  refine or_congr_right ⟨?_, ?_⟩
  · rintro ⟨⟨⟨fs, rfl, hnodup⟩, hprops, -⟩, hrequired⟩
    refine ⟨fs, rfl, hnodup, hneeds.1 hrequired, acceptsEach_iff.2 fun f hf w hw => ?_⟩
    exact (h f hf w).1 (hprops fs rfl _ (List.mem_map_of_mem hf) w hw)
  · rintro ⟨fs, rfl, hnodup, hrequired, hfields⟩
    refine ⟨⟨⟨fs, rfl, hnodup⟩, fun gs hgs p hp w hw => ?_, Json.admitsAll_nil⟩,
      hneeds.2 hrequired⟩
    cases hgs
    obtain ⟨f, hf, rfl⟩ := List.mem_map.1 hp
    exact (h f hf w).2 (acceptsEach_iff.1 hfields f hf w hw)

end Kinds

mutual

/-- The object of a schema admits just the values of the schema. -/
theorem admits_toJson_iff : ∀ (s : Schema) (v : Json), Admits s.toJson v ↔ s.Accepts v
  | .text _ _, _ => admits_text_iff
  | .instant _, _ => admits_instant_iff
  | .count _, _ => admits_count_iff
  | .list _ items, _ => admits_list_iff items.admits_toJson_iff
  | .record _ fields _, _ => admits_record_iff (admits_toJson_iff_of_mem fields)

theorem admits_toJson_iff_of_mem : ∀ (fields : List (String × Schema)),
    ∀ f ∈ fields, ∀ v, Admits f.2.toJson v ↔ f.2.Accepts v
  | [], _, hf => nomatch hf
  | (_, s) :: rest, f, hf => by
    rcases List.mem_cons.1 hf with rfl | hf
    · exact s.admits_toJson_iff
    · exact admits_toJson_iff_of_mem rest f hf

end

end Schema

end Proctor
