import Proctor.Proofs.Json.Keeping
import Proctor.Proofs.Test.Forms

/-!
# The codec of specs and statuses loses nothing

Of a spec, a status and a report each field is a text, a count, a list of texts, or a part that is
written in the same way, so their texts keep them; and as the readers do not tell the forms of a
value apart, values come back from each form and from their texts. An unset text and an empty one,
an empty list and one with items, and the phase that is no phase stay what they are.
-/

namespace Proctor

open Json.Likeness

theorem refl_record (fields : List Field) (v : Json) : record fields v v := .inl rfl

theorem refl_list (like : Json.Likeness) (v : Json) : list like v v := .inl rfl

/-- A list that is left out when it is empty. -/
theorem writes_list {α : Type} {name : String} {absent : Option Json} {like : Json.Likeness}
    {f : α → Json} (h : ∀ a, like.Keeps (f a)) (items : List α) :
    Field.Writes ⟨name, absent, list like⟩ (name, nonempty? f items) := by
  refine ⟨rfl, refl_list like, fun v hv => ?_⟩
  cases items with
  | nil => cases hv
  | cons a rest =>
    cases hv
    refine .list fun w hw => ?_
    obtain ⟨b, -, rfl⟩ := List.mem_map.1 hw
    exact h b

theorem writes_texts {name : String} {absent : Option Json} (texts : List String) :
    Field.Writes ⟨name, absent, Eq⟩ (name, nonempty? .str texts) := by
  refine writes_plain fun v hv => ?_
  cases texts with
  | nil => cases hv
  | cons s rest =>
    cases hv
    exact keeps_texts (s :: rest)

theorem Source.keeps (s : Source) : like.Keeps s.toJson :=
  keeps_record (by simp)
    (.cons (writes_text s.name) (.cons (writes_text s.content)
      (.cons (writes_text s.language.wire) .nil)))

theorem Settings.keeps (s : Settings) : like.Keeps s.toJson :=
  keeps_record (by simp)
    (.cons (writes_unset id s.name) (.cons (writes_text s.content) .nil))

theorem Resource.keeps (r : Resource) : like.Keeps r.toJson :=
  keeps_record (by simp) (.cons (writes_text r.name) (.cons (writes_text r.content) .nil))

theorem Spec.keeps (s : Spec) : like.Keeps s.toJson :=
  keeps_record (by simp)
    (.cons (writes_part (refl_record _) s.source.keeps)
      (.cons (writes_unsetPart (refl_record _) Settings.keeps s.settings)
      (.cons (writes_texts s.env) (.cons (writes_list Resource.keeps s.resources)
      (.cons (writes_unset id s.secret) .nil)))))

theorem Summary.keeps (s : Summary) : like.Keeps s.toJson :=
  keeps_record (by simp)
    (.cons (writes_count s.total) (.cons (writes_count s.passed) (.cons (writes_count s.failed)
      (.cons (writes_count s.skipped) (.cons (writes_count s.pending)
      (.cons (writes_count s.undefined) (.cons (writes_count s.errors) .nil)))))))

theorem ScenarioResult.keeps (r : ScenarioResult) : like.Keeps r.toJson :=
  keeps_record (by simp)
    (.cons (writes_text r.name) (.cons (writes_unset id r.className)
      (.cons (writes_unset id r.errorType) (.cons (writes_unset id r.errorMessage) .nil))))

theorem Report.keeps (r : Report) : like.Keeps r.toJson :=
  keeps_record (by simp)
    (.cons (writes_part (refl_record _) r.summary.keeps)
      (.cons (writes_list ScenarioResult.keeps r.tests) .nil))

theorem Status.keeps (s : Status) : like.Keeps s.toJson :=
  keeps_record (by simp)
    (.cons (writes_text s.phase.wire) (.cons (writes_unset id s.testId)
      (.cons (writes_unset id s.digest) (.cons (writes_unset id s.version)
      (.cons (writes_unsetPart (refl_record _) Report.keeps s.results)
      (.cons (writes_texts s.errors) (.cons (writes_unset Instant.text s.startedAt)
      (.cons (writes_unset Instant.text s.completedAt) .nil))))))))

/-! ### The codec -/

namespace Test

/-- Specs and statuses go through JSON without loss. They are read back from their objects, whatever
the order of the fields in these and the objects in them, with any unknown fields between, and with
the fields left out or given that make no difference; they are read back from their texts; and what
was read, by name or in order, may be changed and written, and is then read as it was changed. -/
theorem codec_lossless :
    Json.Lossless Spec.like Spec.read? Spec.toJson ∧
      Json.Lossless Status.like Status.read? Status.toJson :=
  ⟨Json.lossless_of_read_write Spec.fits Spec.keeps Spec.read?_toJson,
    Json.lossless_of_read_write Status.fits Status.keeps Status.read?_toJson⟩

/-- A spec with an empty name for its settings, no environment and a further file. -/
def sparse : Spec :=
  { source := { name := "a.feature" }, settings := some { name := some "" }
    resources := [{ name := "data.csv", content := "1" }] }

/-- Its object in another order, with unknown fields, and without what need not be given. -/
def disordered : Json :=
  .obj [
    ("owner", .null),
    ("resources", .arr [.obj [
      ("content", .str "1"), ("mode", .int 420), ("name", .str "data.csv")]]),
    ("secret", .null),
    ("settings", .obj [("name", .str "")]),
    ("source", .obj [("language", .str "feature"), ("name", .str "a.feature")])]

theorem like_disordered : Spec.like sparse.toJson disordered := by
  refine .inr ⟨_, _, rfl, rfl, fun field hf => ?_⟩
  simp only [List.mem_cons, List.not_mem_nil, or_false] at hf
  rcases hf with rfl | rfl | rfl | rfl | rfl
  · refine ⟨by decide, by decide, .some (.inr ⟨_, _, rfl, rfl, fun field hf => ?_⟩)⟩
    simp only [List.mem_cons, List.not_mem_nil, or_false] at hf
    rcases hf with rfl | rfl | rfl
    all_goals exact ⟨by decide, by decide, .some rfl⟩
  · refine ⟨by decide, by decide, .some (.inr ⟨_, _, rfl, rfl, fun field hf => ?_⟩)⟩
    simp only [List.mem_cons, List.not_mem_nil, or_false] at hf
    rcases hf with rfl | rfl
    all_goals exact ⟨by decide, by decide, .some rfl⟩
  · exact ⟨by decide, by decide, .some rfl⟩
  · refine ⟨by decide, by decide, .some (.inr ⟨_, _, rfl, rfl, .cons (.inr ?_) .nil⟩)⟩
    refine ⟨_, _, rfl, rfl, fun field hf => ?_⟩
    simp only [List.mem_cons, List.not_mem_nil, or_false] at hf
    rcases hf with rfl | rfl
    all_goals exact ⟨by decide, by decide, .some rfl⟩
  · exact ⟨by decide, by decide, .some rfl⟩

/-- The spec comes back from that object, and a status that is given in order keeps its empty id
when it is read, put back to `New` and written. -/
theorem sparse_lossless :
    Spec.read? disordered = some sparse ∧
      Status.read? (.arr [.str "", .str "", .null]) = some { testId := some "" } ∧
      Status.read? (Status.toJson { phase := .new, testId := some "" }) =
        some { phase := .new, testId := some "" } := by
  have hread : Status.read? (.arr [.str "", .str "", .null]) = some { testId := some "" } := by
    decide
  exact ⟨codec_lossless.1.read_of_like like_disordered, hread,
    codec_lossless.2.read_changed hread fun st => { st with phase := .new }⟩

end Test

end Proctor
