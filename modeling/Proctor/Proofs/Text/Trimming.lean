import Mathlib.Data.List.TakeWhile
import Proctor.Text.Blank

/-!
# What is left when blanks are cut

Trimming a text cuts blanks from both of its ends until none stands there. So the trimmed text is
the one that neither begins nor ends with a blank and makes up the text together with blanks around
it (`Text.trim_eq_iff`); there is no other one.
-/

namespace Proctor.Text

/-- The characters do not begin with a blank, nor end with one. -/
def Solid (cs : List Char) : Prop :=
  (∀ c ∈ cs.head?, isBlank c = false) ∧ ∀ c ∈ cs.getLast?, isBlank c = false

theorem solid_of_forall {cs : List Char} (h : ∀ c ∈ cs, isBlank c = false) : Solid cs :=
  ⟨fun c hc => h c (List.mem_of_mem_head? hc), fun c hc => h c (List.mem_of_mem_getLast? hc)⟩

theorem solid_between {c d : Char} (hc : isBlank c = false) (hd : isBlank d = false)
    (cs : List Char) : Solid (c :: (cs ++ [d])) := by
  constructor
  · simpa using hc
  · simpa [List.getLast?_cons] using hd

/-! ### Cutting at one end -/

theorem dropWhile_isBlank_append {f cs : List Char} (hf : ∀ c ∈ f, isBlank c = true)
    (hcs : ∀ c ∈ cs.head?, isBlank c = false) : (f ++ cs).dropWhile isBlank = cs := by
  rw [List.dropWhile_append_of_pos hf]
  cases cs with
  | nil => rfl
  | cons c cs => exact List.dropWhile_cons_of_neg (by simp [hcs c rfl])

theorem head?_dropWhile_isBlank {cs : List Char} {c : Char}
    (h : c ∈ (cs.dropWhile isBlank).head?) : isBlank c = false := by
  have hhead := List.head?_dropWhile_not isBlank cs
  rw [Option.mem_def.1 h] at hhead
  exact hhead

/-! ### Cutting at both ends -/

theorem Solid.trimChars {core f b : List Char} (h : Solid core)
    (hf : ∀ c ∈ f, isBlank c = true) (hb : ∀ c ∈ b, isBlank c = true) :
    Text.trimChars (f ++ (core ++ b)) = core := by
  have hback : (b.reverse ++ core.reverse).dropWhile isBlank = core.reverse :=
    dropWhile_isBlank_append (fun c hc => hb c (List.mem_reverse.1 hc))
      (by simpa [List.head?_reverse] using h.2)
  rw [Text.trimChars]
  cases core with
  | nil =>
    -- nothing but blanks, so all is cut at the front
    have hall : (f ++ b ++ []).dropWhile isBlank = [] :=
      dropWhile_isBlank_append (List.forall_mem_append.2 ⟨hf, hb⟩) nofun
    rw [List.append_nil] at hall
    rw [List.nil_append, hall]
    rfl
  | cons c core =>
    have hfront : (f ++ (c :: core ++ b)).dropWhile isBlank = c :: core ++ b :=
      dropWhile_isBlank_append hf fun d hd => h.1 d hd
    rw [hfront, List.reverse_append, hback, List.reverse_reverse]

/-- What is cut at the ends is blank, and what is left is solid. -/
theorem trimChars_parts (cs : List Char) :
    ∃ f b, cs = f ++ (trimChars cs ++ b) ∧ (∀ c ∈ f, isBlank c = true) ∧
      (∀ c ∈ b, isBlank c = true) ∧ Solid (trimChars cs) := by
  -- the characters from the first one on that is not blank
  let ds := cs.dropWhile isBlank
  have hback : ds = trimChars cs ++ (ds.reverse.takeWhile isBlank).reverse := by
    rw [trimChars, ← List.reverse_append, List.takeWhile_append_dropWhile,
      List.reverse_reverse]
  refine ⟨cs.takeWhile isBlank, (ds.reverse.takeWhile isBlank).reverse, ?_, ?_, ?_, ?_, ?_⟩
  · rw [← hback, List.takeWhile_append_dropWhile]
  · exact fun c hc => List.mem_takeWhile_imp hc
  · exact fun c hc => List.mem_takeWhile_imp (List.mem_reverse.1 hc)
  · intro c hc
    have hds : c ∈ ds.head? := by
      rw [hback, List.head?_append, Option.mem_def.1 hc]
      rfl
    exact head?_dropWhile_isBlank hds
  · intro c hc
    rw [trimChars, List.getLast?_reverse] at hc
    exact head?_dropWhile_isBlank hc

theorem trimChars_eq_nil_iff {cs : List Char} :
    trimChars cs = [] ↔ ∀ c ∈ cs, isBlank c = true := by
  rw [trimChars, List.reverse_eq_nil_iff, List.dropWhile_eq_nil_iff]
  constructor
  · intro h c hc
    -- a character that is not cut at the front is cut at the end
    rw [← List.takeWhile_append_dropWhile (p := isBlank) (l := cs)] at hc
    rcases List.mem_append.1 hc with hc | hc
    · exact List.mem_takeWhile_imp hc
    · exact h c (List.mem_reverse.2 hc)
  · intro h c hc
    exact h c ((List.dropWhile_sublist isBlank).mem (List.mem_reverse.1 hc))

/-! ### Texts -/

/-- The second text is left of the first one when the blanks around it are cut. -/
def Trims (s t : String) : Prop :=
  ∃ front back, s = front ++ t ++ back ∧ isBlankText front = true ∧ isBlankText back = true ∧
    Solid t.toList

theorem isBlankText_iff {s : String} : isBlankText s = true ↔ ∀ c ∈ s.toList, isBlank c = true :=
  List.all_eq_true

theorem trim_eq_empty_iff {s : String} : trim s = "" ↔ isBlankText s = true := by
  rw [trim, String.ofList_eq_empty_iff, trimChars_eq_nil_iff, isBlankText, List.all_eq_true]

/-- Trimming leaves what is between the blanks. -/
theorem trim_eq_iff {s t : String} : trim s = t ↔ Trims s t := by
  constructor
  · rintro rfl
    obtain ⟨f, b, hs, hf, hb, hsolid⟩ := trimChars_parts s.toList
    refine ⟨String.ofList f, String.ofList b, ?_, ?_, ?_, ?_⟩
    · simpa [← String.toList_inj, trim] using hs
    · rwa [isBlankText_iff, String.toList_ofList]
    · rwa [isBlankText_iff, String.toList_ofList]
    · rwa [trim, String.toList_ofList]
  · rintro ⟨front, back, rfl, hf, hb, hsolid⟩
    rw [isBlankText_iff] at hf hb
    rw [← String.toList_inj, trim, String.toList_ofList, String.toList_append,
      String.toList_append, List.append_assoc]
    exact hsolid.trimChars hf hb

end Proctor.Text
