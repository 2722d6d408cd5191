import Proctor.Text.Order

/-!
# Maps from text to text

A finite map kept as a list of entries in ascending order of the keys, so that two maps with the
same entries are equal and an object is always written the same way. Order of keys is by code
point.
-/

namespace Proctor

/-- A finite map from text to text, its entries in ascending order of the keys. -/
structure StringMap where
  /-- The entries, in ascending order of the keys. -/
  entries : List (String × String)
  /-- Every key is smaller than the keys after it. -/
  sorted : entries.Pairwise (fun a b => Text.before a.1 b.1)

namespace StringMap

/-- Entries with a pair put in its place; an old pair of the same key gives way. -/
def place (key value : String) : List (String × String) → List (String × String)
  | [] => [(key, value)]
  | e :: rest =>
    if Text.before key e.1 then (key, value) :: e :: rest
    else if Text.before e.1 key then e :: place key value rest
    else (key, value) :: rest

theorem mem_place {key value : String} {es : List (String × String)} {e : String × String}
    (h : e ∈ place key value es) : e = (key, value) ∨ e ∈ es := by
  induction es with
  | nil => simpa [place] using h
  | cons a rest ih =>
    unfold place at h
    split at h
    · simpa using h
    · split at h
      · rcases List.mem_cons.1 h with h | h
        · simp [h]
        · rcases ih h with h | h <;> simp [h]
      · rcases List.mem_cons.1 h with h | h <;> simp [h]

theorem place_sorted (key value : String) {es : List (String × String)}
    (h : es.Pairwise (fun a b => Text.before a.1 b.1)) :
    (place key value es).Pairwise (fun a b => Text.before a.1 b.1) := by
  induction es with
  | nil => simp [place]
  | cons a rest ih =>
    obtain ⟨ha, hr⟩ := List.pairwise_cons.1 h
    unfold place
    split
    · next hk =>
      refine List.pairwise_cons.2 ⟨fun b hb => ?_, h⟩
      rcases List.mem_cons.1 hb with rfl | hb
      · exact hk
      · exact Text.before_trans hk (ha b hb)
    · next hk =>
      split
      · next ha' =>
        refine List.pairwise_cons.2 ⟨fun b hb => ?_, ih hr⟩
        rcases mem_place hb with rfl | hb
        · exact ha'
        · exact ha b hb
      · next hk' =>
        have he : a.1 = key :=
          Text.eq_of_not_before (Bool.eq_false_iff.2 hk') (Bool.eq_false_iff.2 hk)
        exact List.pairwise_cons.2 ⟨fun b hb => he ▸ ha b hb, hr⟩

/-- The map without entries. -/
def empty : StringMap := ⟨[], .nil⟩

instance : Inhabited StringMap := ⟨empty⟩

/-- The map with a pair put in; an old pair of the same key gives way. -/
def insert (m : StringMap) (key value : String) : StringMap :=
  ⟨place key value m.entries, place_sorted key value m.sorted⟩

/-- The map of a list of pairs; of two pairs with one key the later stays. -/
def ofList (pairs : List (String × String)) : StringMap :=
  pairs.foldl (fun m e => m.insert e.1 e.2) empty

/-- The value of a key. -/
def get? (m : StringMap) (key : String) : Option String := m.entries.lookup key

theorem ext {m n : StringMap} (h : m.entries = n.entries) : m = n := by
  cases m; cases n; cases h; rfl

instance : DecidableEq StringMap := fun m n =>
  if h : m.entries = n.entries then isTrue (ext h) else isFalse fun e => h (e ▸ rfl)

end StringMap

end Proctor
