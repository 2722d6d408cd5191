import Proctor.Proofs.Json.Given
import Proctor.Proofs.Json.Likeness
import Proctor.Proofs.Json.Reading
import Proctor.Proofs.Json.Writing

/-!
# Values that their texts keep

The text of a value orders the fields of its objects, so what is read out of the text is not the
value itself. It is like the value if only the parts with a likeness of their own are objects
(`Json.Likeness.Keeps`), and then a reader that does not tell like values apart reads the value out
of its text (`Json.Likeness.Keeps.read?_compact`).
-/

namespace Proctor.Json

/-- The text of a value spells a value like it. -/
structure Likeness.Keeps (like : Likeness) (v : Json) : Prop where
  /-- The literals in it are such. -/
  literate : v.Literate
  /-- What its text spells is like it. -/
  like_sorted : like v v.sorted

theorem Likeness.Keeps.read?_compact {α : Type} {like : Likeness} {read : Json → Option α}
    {v : Json} (h : like.Keeps v) (hfits : Fits like read) :
    (Json.read? v.compact).bind read = read v := by
  have hspells := (spells_compact v h.literate).read?
  rw [String.ofList_toList] at hspells
  rw [hspells, Option.bind_some, hfits.read_eq h.like_sorted]

namespace Likeness

theorem keeps_str (s : String) : Keeps Eq (.str s) := ⟨trivial, rfl⟩

theorem keeps_int (n : Int) : Keeps Eq (.int n) := ⟨trivial, rfl⟩

theorem keeps_texts (texts : List String) : Keeps Eq (.arr (texts.map .str)) := by
  constructor
  · refine literateItems_iff.2 fun v hv => ?_
    obtain ⟨s, -, rfl⟩ := List.mem_map.1 hv
    trivial
  · rw [sorted, sortedItems_eq, List.map_map]
    rfl

theorem Keeps.list {like : Likeness} {vs : List Json} (h : ∀ v ∈ vs, like.Keeps v) :
    (Likeness.list like).Keeps (.arr vs) := by
  refine ⟨literateItems_iff.2 fun v hv => (h v hv).literate, .inr ⟨vs, _, rfl, rfl, ?_⟩⟩
  rw [sortedItems_eq, List.forall₂_map_right_iff, List.forall₂_same]
  exact fun v hv => (h v hv).like_sorted

/-- A field of a record is written under its name, with a value that its text keeps, or left out. -/
structure Field.Writes (field : Field) (entry : String × Option Json) : Prop where
  /-- It has its name. -/
  name_eq : field.name = entry.1
  /-- A value is like itself. -/
  refl : ∀ v, field.like v v
  /-- If it is written, then its text keeps it. -/
  keeps : ∀ v ∈ entry.2, field.like.Keeps v

section Entries

variable {α : Type} {name : String} {absent : Option Json} {like : Likeness}

/-- A field whose values are like no others. -/
theorem writes_plain {o : Option Json} (h : ∀ v ∈ o, Keeps Eq v) :
    Field.Writes ⟨name, absent, Eq⟩ (name, o) := ⟨rfl, fun _ => rfl, h⟩

theorem writes_text (s : String) : Field.Writes ⟨name, absent, Eq⟩ (name, some (.str s)) :=
  writes_plain fun _ hv => Option.mem_some_iff.1 hv ▸ keeps_str s

theorem writes_count (n : UInt32) : Field.Writes ⟨name, absent, Eq⟩ (name, some (.ofWord32 n)) :=
  writes_plain fun _ hv => Option.mem_some_iff.1 hv ▸ keeps_int n.toNat

theorem writes_unset (f : α → String) (o : Option α) :
    Field.Writes ⟨name, absent, Eq⟩ (name, o.map fun a => .str (f a)) := by
  refine writes_plain fun v hv => ?_
  obtain ⟨a, -, rfl⟩ := Option.map_eq_some_iff.1 hv
  exact keeps_str (f a)

/-- A part that is written as an object or a list. -/
theorem writes_part (hrefl : ∀ v, like v v) {v : Json} (h : like.Keeps v) :
    Field.Writes ⟨name, absent, like⟩ (name, some v) :=
  ⟨rfl, hrefl, fun _ hw => Option.mem_some_iff.1 hw ▸ h⟩

/-- A part that may be unset. -/
theorem writes_unsetPart (hrefl : ∀ v, like v v) {f : α → Json} (h : ∀ a, like.Keeps (f a))
    (o : Option α) : Field.Writes ⟨name, absent, like⟩ (name, o.map f) := by
  refine ⟨rfl, hrefl, fun v hv => ?_⟩
  obtain ⟨a, -, rfl⟩ := Option.map_eq_some_iff.1 hv
  exact h a

end Entries

/-- An object is kept by its text if each of its fields is. -/
theorem keeps_record {fields : List Field} {entries : List (String × Option Json)}
    (hn : (entries.map Prod.fst).Nodup) (h : List.Forall₂ Field.Writes fields entries) :
    (Likeness.record fields).Keeps (ofFields entries) := by
  constructor
  · refine literateFields_iff.2 fun f hf => ?_
    obtain ⟨field, -, hw⟩ := exists_rel_of_mem h.flip (mem_given_iff.1 hf)
    exact (hw.keeps f.2 rfl).literate
  · refine record_of_perm (fun _ v => v.sorted) [] ?_ (nodup_given hn) ?_ (fun _ _ => nofun) ?_
    · intro field hf
      obtain ⟨entry, -, hw⟩ := exists_rel_of_mem h hf
      exact hw.refl
    · intro field hf v hv
      have hw := rel_of_mem_given (R := Field.Writes) hn (fun _ _ => Field.Writes.name_eq) h hf hv
      exact (hw.keeps v rfl).like_sorted
    · rw [List.append_nil, ← sortedFields_eq]
      exact (List.mergeSort_perm _ _).symm

end Likeness

/-! ### Codecs -/

/-- A codec that loses nothing: values come back from each form of what they are written as, and
what was read once, in whatever form, can be changed and written and is read again as it was
changed. -/
structure Lossless {α : Type} (like : Likeness) (read : Json → Option α) (write : α → Json) :
    Prop where
  /-- A value is read back from each form of its object. -/
  read_of_like : ∀ {a j}, like (write a) j → read j = some a
  /-- A value is read back from its text. -/
  read_compact : ∀ a, (Json.read? (write a).compact).bind read = some a
  /-- What is read is read again after any change. -/
  read_changed : ∀ {j a}, read j = some a → ∀ change : α → α,
    read (write (change a)) = some (change a)

theorem lossless_of_read_write {α : Type} {like : Likeness} {read : Json → Option α}
    {write : α → Json} (hfits : Fits like read) (hkeeps : ∀ a, like.Keeps (write a))
    (h : ∀ a, read (write a) = some a) : Lossless like read write where
  read_of_like hj := by rw [← hfits.read_eq hj, h]
  read_compact a := by rw [(hkeeps a).read?_compact hfits, h]
  read_changed _ change := h _

end Proctor.Json
