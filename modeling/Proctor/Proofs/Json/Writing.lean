import Proctor.Json.Writer
import Proctor.Proofs.Json.Grammar

/-!
# What is written is a spelling

The compact text of a value spells it, with the fields of each object in the order of their names
(`Json.spells_compact`). A character that is escaped is a piece of the text for itself, by its
letter or by its number; all others stand as they are.
-/

namespace Proctor.Json

/-! ### Numbers -/

theorem eq_zero_of_head?_toDigits {n : Nat} (h : (Nat.toDigits 10 n).head? = some '0') : n = 0 := by
  induction n using Nat.strongRecOn with
  | ind n ih =>
    by_cases hn : n < 10
    · rw [Nat.toDigits_of_lt_base hn] at h
      simpa using h
    · have hle : 10 ≤ n := Nat.le_of_not_lt hn
      obtain ⟨d, ds, hds⟩ : ∃ d ds, Nat.toDigits 10 (n / 10) = d :: ds :=
        List.exists_cons_of_ne_nil Nat.toDigits_ne_nil
      rw [Nat.toDigits_of_base_le (by decide) hle, hds] at h
      have hzero := ih (n / 10) (by omega) (by rw [hds]; exact h)
      omega

theorem digits_toDigits (n : Nat) : Digits (Nat.toDigits 10 n) :=
  ⟨Nat.toDigits_ne_nil, fun _ hc => Nat.isDigit_of_mem_toDigits (by decide) (by decide) hc⟩

theorem whole_toDigits (n : Nat) : Whole (Nat.toDigits 10 n) := by
  refine ⟨digits_toDigits n, fun h => ?_⟩
  rw [eq_zero_of_head?_toDigits h, Nat.toDigits_zero]

theorem spellsNumber_toString (n : Int) : SpellsNumber (toString n).toList (.int n) := by
  cases n with
  | ofNat n =>
    have h := SpellsNumber.natural (whole_toDigits n)
    rw [Nat.ofDigitChars_ten_toDigits] at h
    have htext : (toString (Int.ofNat n)).toList = Nat.toDigits 10 n := Nat.toList_repr
    rw [htext]
    exact h
  | negSucc n =>
    have hne : Nat.toDigits 10 (n + 1) ≠ ['0'] := fun h =>
      absurd (eq_zero_of_head?_toDigits (n := n + 1) (by rw [h]; rfl)) (Nat.succ_ne_zero n)
    have h := SpellsNumber.negative (whole_toDigits (n + 1)) hne
    rw [Nat.ofDigitChars_ten_toDigits] at h
    have htext : (toString (Int.negSucc n)).toList = '-' :: Nat.toDigits 10 (n + 1) := by
      change ("-" ++ Nat.repr (n + 1)).toList = _
      rw [String.toList_append, Nat.toList_repr]
      rfl
    rw [htext]
    exact h

/-! ### Texts -/

/-- The piece that a character is written as. -/
def pieceOf (c : Char) : Piece :=
  if c.toNat < 0x20 ∧ c ∉ ['\n', '\r', '\t', '\x08', '\x0c'] then .unit c.toNat else .char c

/-- A control character has a number of four digits. -/
theorem hex4_of_control : ∀ n < 0x20,
    (Text.hex4 n).toList = ['0', '0', (n / 16).digitChar, (n % 16).digitChar] ∧
      Text.hexDigit? (n / 16).digitChar = some (n / 16) ∧
      Text.hexDigit? (n % 16).digitChar = some (n % 16) := by
  decide +kernel

theorem spellsPiece_escape (c : Char) : SpellsPiece (escape c).toList (pieceOf c) := by
  unfold escape
  split
  · exact .escape (by decide)
  · exact .escape (by decide)
  · exact .escape (by decide)
  · exact .escape (by decide)
  · exact .escape (by decide)
  · exact .escape (by decide)
  · exact .escape (by decide)
  · next hquote hback hn hr ht hb hf =>
    by_cases hc : c.toNat < 0x20
    · obtain ⟨hdigits, hhigh, hlow⟩ := hex4_of_control c.toNat hc
      have hpiece : pieceOf c = .unit (((0 * 16 + 0) * 16 + c.toNat / 16) * 16 + c.toNat % 16) := by
        rw [pieceOf, if_pos ⟨hc, by simpa using ⟨hn, hr, ht, hb, hf⟩⟩]
        congr 1
        omega
      rw [if_pos hc, String.toList_append, hdigits, hpiece]
      exact .unit rfl rfl hhigh hlow
    · rw [if_neg hc, pieceOf, if_neg fun h => hc h.1, Char.toString, String.toList_singleton]
      exact .plain hquote hback (Nat.le_of_not_lt hc)

theorem spellsPieces_escape (cs : List Char) :
    SpellsPieces (cs.flatMap fun c => (escape c).toList) (cs.map pieceOf) := by
  induction cs with
  | nil => exact .nil
  | cons c cs ih => exact .cons (spellsPiece_escape c) ih

theorem chars?_map_pieceOf (cs : List Char) : Piece.chars? (cs.map pieceOf) = some cs := by
  induction cs with
  | nil => rfl
  | cons c cs ih =>
    rw [List.map_cons, pieceOf]
    split
    · next h =>
      have hl : ¬Leads c.toNat := by simp only [Leads]; omega
      have ht : ¬Trails c.toNat := by simp only [Trails]; omega
      rw [Piece.chars?_of_plain hl ht, ih, Option.map_some, Char.ofNat_toNat]
    · rw [Piece.chars?, ih, Option.map_some]

theorem toList_quoted (s : String) :
    (quoted s).toList = '"' :: (s.toList.flatMap (fun c => (escape c).toList) ++ ['"']) := by
  have hfold : ∀ (cs : List Char) (out : String),
      (cs.foldl (fun out c => out ++ escape c) out).toList =
        out.toList ++ cs.flatMap fun c => (escape c).toList := by
    intro cs
    induction cs with
    | nil => simp
    | cons c cs ih => simp [ih]
  rw [quoted, String.toList_append, hfold]
  rfl

theorem spellsText_quoted (s : String) : SpellsText (quoted s).toList (.str s) := by
  have hvalue : Piece.value (s.toList.map pieceOf) = .str s := by
    rw [Piece.value, chars?_map_pieceOf]
    exact congrArg Json.str String.ofList_toList
  rw [toList_quoted, ← hvalue]
  exact .quoted (spellsPieces_escape s.toList)

/-- Half of a surrogate pair is torn. -/
theorem spellsText_torn : SpellsText (compact .torn).toList .torn := by
  have hunit : SpellsPiece ['\\', 'u', 'd', '8', '0', '0'] (.unit 0xD800) :=
    SpellsPiece.unit (a := 'd') (b := '8') (c := '0') (d := '0') rfl rfl rfl rfl
  exact .quoted (.cons hunit .nil)

/-! ### Values -/

mutual

/-- The value with the fields of each object in the order of their names. -/
def sorted : Json → Json
  | .null => .null
  | .bool b => .bool b
  | .int n => .int n
  | .real literal => .real literal
  | .str s => .str s
  | .torn => .torn
  | .arr items => .arr (sortedItems items)
  | .obj fields => .obj (sortedByName (sortedFields fields))

/-- The items of an array, each in order. -/
def sortedItems : List Json → List Json
  | [] => []
  | v :: rest => v.sorted :: sortedItems rest

/-- The fields of an object, each with its value in order. -/
def sortedFields : List (String × Json) → List (String × Json)
  | [] => []
  | (name, v) :: rest => (name, v.sorted) :: sortedFields rest

end

mutual

/-- What a value keeps as the literal of a number is one. -/
def Literate : Json → Prop
  | .real literal => SpellsNumber literal.toList (.real literal)
  | .arr items => LiterateItems items
  | .obj fields => LiterateFields fields
  | .null | .bool _ | .int _ | .str _ | .torn => True

/-- The items of an array keep no other literals. -/
def LiterateItems : List Json → Prop
  | [] => True
  | v :: rest => v.Literate ∧ LiterateItems rest

/-- The fields of an object keep no other literals. -/
def LiterateFields : List (String × Json) → Prop
  | [] => True
  | (_, v) :: rest => v.Literate ∧ LiterateFields rest

end

theorem sortedItems_eq (items : List Json) : sortedItems items = items.map sorted := by
  induction items with
  | nil => rfl
  | cons v rest ih => rw [sortedItems, ih, List.map_cons]

theorem literateItems_iff {items : List Json} : LiterateItems items ↔ ∀ v ∈ items, v.Literate := by
  induction items with
  | nil => exact ⟨fun _ => nofun, fun _ => trivial⟩
  | cons v rest ih => rw [LiterateItems, ih, List.forall_mem_cons]

theorem literateFields_iff {fields : List (String × Json)} :
    LiterateFields fields ↔ ∀ f ∈ fields, f.2.Literate := by
  induction fields with
  | nil => exact ⟨fun _ => nofun, fun _ => trivial⟩
  | cons f rest ih => rw [LiterateFields, ih, List.forall_mem_cons]

theorem sortedFields_eq (fields : List (String × Json)) :
    sortedFields fields = fields.map fun f => (f.1, f.2.sorted) := by
  induction fields with
  | nil => rfl
  | cons f rest ih => rw [sortedFields, ih, List.map_cons]

theorem compactFields_eq (fields : List (String × Json)) :
    compactFields fields = fields.map fun f => (f.1, f.2.compact) := by
  induction fields with
  | nil => rfl
  | cons f rest ih => rw [compactFields, ih, List.map_cons]

/-- The order is decided by the names alone. -/
theorem sortedByName_map {α β : Type} (g : α → β) (fields : List (String × α)) :
    sortedByName (fields.map fun f => (f.1, g f.2)) =
      (sortedByName fields).map fun f => (f.1, g f.2) := by
  rw [sortedByName, sortedByName, List.map_mergeSort]
  exact fun _ _ _ _ => rfl

/-- The text of a field. -/
def compactField (f : String × Json) : String := quoted f.1 ++ ":" ++ f.2.compact

theorem compact_obj (fields : List (String × Json)) :
    (Json.obj fields).compact =
      "\x7b" ++ String.intercalate "," ((sortedByName fields).map compactField) ++ "\x7d" := by
  rw [compact, compactFields_eq, sortedByName_map, List.map_map]
  rfl

theorem toList_intercalate_comma (texts : List String) :
    (String.intercalate "," texts).toList = [','].intercalate (texts.map String.toList) :=
  String.toList_intercalate

theorem named?_map_str (fields : List (String × Json)) :
    named? (fields.map fun f => (.str f.1, f.2.sorted)) =
      some (fields.map fun f => (f.1, f.2.sorted)) := by
  induction fields with
  | nil => rfl
  | cons f rest ih =>
    rw [named?] at ih
    rw [named?, List.map_cons, List.mapM_cons, ih]
    rfl

/-- The fields of an object spell what is written of them if their values do. -/
theorem spellsFields_compactField (f : String × Json) (rest : List (String × Json))
    (h : ∀ g ∈ f :: rest, Spells g.2.compact.toList g.2.sorted) :
    SpellsFields ([','].intercalate (((f :: rest).map compactField).map String.toList))
      ((f :: rest).map fun g => (.str g.1, g.2.sorted)) := by
  induction rest generalizing f with
  | nil =>
    have hfield := SpellsFields.one gap_nil (spellsText_quoted f.1) gap_nil (h f List.mem_cons_self)
    simpa [compactField] using hfield
  | cons g rest ih =>
    have hrest := ih g fun g' hg => h g' (List.mem_cons_of_mem f hg)
    have hfield :=
      SpellsFields.more gap_nil (spellsText_quoted f.1) gap_nil (h f List.mem_cons_self) hrest
    simpa [compactField] using hfield

mutual

/-- The compact text of a value spells the value in order. -/
theorem spells_compact : ∀ v : Json, v.Literate → Spells v.compact.toList v.sorted
  | .null, _ => .null
  | .bool true, _ => .yes
  | .bool false, _ => .no
  | .int n, _ => .number (spellsNumber_toString n)
  | .real _, h => .number h
  | .str s, _ => .text (spellsText_quoted s)
  | .torn, _ => .text spellsText_torn
  | .arr [], _ => .emptyArray gap_nil
  | .arr (v :: rest), h => by
    have hitems := spellsItems_compact (v :: rest) h (List.cons_ne_nil v rest)
    rw [compact, String.toList_append, String.toList_append, toList_intercalate_comma]
    exact .array hitems
  | .obj fields, h => by
    have hfields : ∀ f ∈ sortedByName fields, Spells f.2.compact.toList f.2.sorted :=
      fun f hf => spells_compactField fields h f (List.mem_mergeSort.1 hf)
    rw [compact_obj, sorted, sortedFields_eq, sortedByName_map, String.toList_append,
      String.toList_append, toList_intercalate_comma]
    cases hs : sortedByName fields with
    | nil => exact .emptyObject gap_nil
    | cons f rest =>
      rw [hs] at hfields
      have hobject := Spells.object (spellsFields_compactField f rest hfields)
      rw [objectOf, named?_map_str] at hobject
      exact hobject

theorem spellsItems_compact : ∀ items : List Json, LiterateItems items → items ≠ [] →
    SpellsItems ([','].intercalate ((compactItems items).map String.toList)) (sortedItems items)
  | [], _, hne => absurd rfl hne
  | [v], h, _ => by
    simpa [compactItems, sortedItems] using SpellsItems.one (spells_compact v h.1)
  | v :: w :: rest, h, _ => by
    have hrest := spellsItems_compact (w :: rest) h.2 (List.cons_ne_nil w rest)
    simpa [compactItems, sortedItems] using SpellsItems.more (spells_compact v h.1) hrest

theorem spells_compactField : ∀ fields : List (String × Json), LiterateFields fields →
    ∀ f ∈ fields, Spells f.2.compact.toList f.2.sorted
  | [], _, _, hf => nomatch hf
  | (_, v) :: rest, h, f, hf => by
    rcases List.mem_cons.1 hf with rfl | hf
    · exact spells_compact v h.1
    · exact spells_compactField rest h.2 f hf

end

end Proctor.Json
