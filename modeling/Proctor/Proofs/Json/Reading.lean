import Proctor.Json.Reader
import Proctor.Proofs.Json.Scanning
import Proctor.Proofs.Text.Trimming

/-!
# What is spelled is read

The reader takes every spelling of a value for that value (`Json.Spells.read?`). Characters scan to
tokens wherever they stand, as long as no word or number goes on behind them, and the tokens of a
value yield it wherever a value is due; both go through the parts of a value together.

## What is left out

That the reader refuses a text that spells no value is not shown. Nor is there a bound on how deep
values nest or how large they are; a machine may run out of room.
-/

namespace Proctor.Json

open Reading (run?)
open Text (Solid solid_of_forall solid_between)

/-! ### Characters and their tokens -/

/-- The characters scan to these tokens, whatever stands before them and follows them. -/
def Scans (cs : List Char) (ts : List Token) : Prop :=
  ∀ found rest, Ends rest →
    scan? .between found (cs ++ rest) = scan? .between (ts.reverse ++ found) rest

section Scans

variable {cs ds g : List Char} {ts us : List Token}

theorem Gap.scans (hg : Gap g) : Scans g [] := fun found rest _ => scan?_gap hg found rest

theorem Gap.scans_append (hg : Gap g) (h : Scans cs ts) : Scans (g ++ cs) ts := by
  intro found rest hrest
  rw [List.append_assoc, scan?_gap hg, h found rest hrest]

theorem Scans.append (h : Scans cs ts) (hs : Scans ds us)
    (hds : ∀ rest, Ends rest → Ends (ds ++ rest)) : Scans (cs ++ ds) (ts ++ us) := by
  intro found rest hrest
  rw [List.append_assoc, h found _ (hds rest hrest), hs _ rest hrest]
  simp

theorem Scans.append_gap (h : Scans cs ts) (hg : Gap g) : Scans (cs ++ g) ts := by
  simpa using h.append hg.scans fun _ => hg.ends

/-- A mark scans to its token, whatever the characters behind it. -/
theorem Scans.mark {c : Char} {t : Token} (h : Scans cs ts)
    (hc : start? c = some (.between, [t])) : Scans (c :: cs) (t :: ts) := by
  intro found rest hrest
  have hstep : Lexing.step? .between c = some (.between, [t]) := hc
  rw [List.cons_append, scan?, hstep]
  change scan? .between (t :: found) (cs ++ rest) = _
  rw [h _ rest hrest]
  simp

theorem scans_nil : Scans [] [] := fun _ _ _ => rfl

/-- A mark ends the token before it. -/
theorem Scans.append_mark {c : Char} {t : Token} (h : Scans cs ts) (hs : Scans ds us)
    (hc : start? c = some (.between, [t]))
    (hm : c ∈ [' ', '\t', '\n', '\r', ',', ':', ']', '}']) :
    Scans (cs ++ c :: ds) (ts ++ t :: us) :=
  h.append (hs.mark hc) fun _ _ => ends_cons hm _

theorem scans_scalar {v : Json}
    (h : ∀ found rest, Ends rest →
      scan? .between found (cs ++ rest) = scan? .between (.scalar v :: found) rest) :
    Scans cs [.scalar v] := h

end Scans

/-! ### Tokens and their values -/

/-- The tokens do not begin with the end of an array. -/
def Opens (ts : List Token) : Prop := ∃ t rest, ts = t :: rest ∧ t ≠ .closeArray

theorem Opens.append {ts : List Token} (h : Opens ts) (us : List Token) : Opens (ts ++ us) := by
  obtain ⟨t, rest, rfl, ht⟩ := h
  exact ⟨t, rest ++ us, rfl, ht⟩

/-- In an array without items yet, these tokens begin an item. -/
theorem Opens.run? {ts : List Token} (h : Opens ts) (stack : List Frame) :
    run? (.firstItem stack) ts = run? (.value (.items [] :: stack)) ts := by
  obtain ⟨t, rest, rfl, ht⟩ := h
  cases t with
  | closeArray => exact absurd rfl ht
  | _ => rfl

/-- The tokens yield the value wherever one is due. -/
def Denotes (ts : List Token) (v : Json) : Prop :=
  ∀ stack us, run? (.value stack) (ts ++ us) = run? (.after v stack) us

/-- The tokens yield these items of an array, up to its end. -/
def DenotesItems (ts : List Token) (vs : List Json) : Prop :=
  ∀ before stack us, run? (.value (.items before :: stack)) (ts ++ .closeArray :: us) =
    run? (.after (.arr (before.reverse ++ vs)) stack) us

/-- The tokens yield these fields of an object, up to its end. -/
def DenotesFields (ts : List Token) (fs : List (Json × Json)) : Prop :=
  ∀ (before : FieldsSoFar) stack us, run? (.nextName before stack) (ts ++ .closeObject :: us) =
    run? (.after (fs.foldl (fun fields f => fields.add f.1.str? f.2) before).value stack) us

theorem foldl_add_none (fs : List (Json × Json)) :
    fs.foldl (fun (fields : FieldsSoFar) f => fields.add f.1.str? f.2) none = none := by
  induction fs with
  | nil => rfl
  | cons f fs ih => exact ih

theorem foldl_add (fs : List (Json × Json)) (before : List (String × Json)) :
    fs.foldl (fun (fields : FieldsSoFar) f => fields.add f.1.str? f.2) (some before) =
      (named? fs).map (·.reverse ++ before) := by
  induction fs generalizing before with
  | nil => rfl
  | cons f fs ih =>
    rw [List.foldl_cons, named?, List.mapM_cons]
    cases f.1.str? with
    | none => exact foldl_add_none fs
    | some name =>
      change fs.foldl _ (some ((name, f.2) :: before)) = _
      rw [ih, named?]
      cases fs.mapM fun f : Json × Json => f.1.str?.map (·, f.2) <;> simp

theorem value_foldl_add (fs : List (Json × Json)) :
    (fs.foldl (fun (fields : FieldsSoFar) f => fields.add f.1.str? f.2) (some [])).value =
      objectOf fs := by
  rw [foldl_add, objectOf]
  cases named? fs <;> simp [FieldsSoFar.value]

section Values

variable {cs : List Char} {v n : Json} {vs : List Json} {fs : List (Json × Json)}

/-- Characters that the reader takes for the value. -/
def Reads (cs : List Char) (v : Json) : Prop := ∃ ts, Scans cs ts ∧ Opens ts ∧ Denotes ts v

/-- Characters that the reader takes for the items of an array. -/
def ReadsItems (cs : List Char) (vs : List Json) : Prop :=
  ∃ ts, Scans cs ts ∧ Opens ts ∧ DenotesItems ts vs

/-- Characters that the reader takes for the fields of an object. -/
def ReadsFields (cs : List Char) (fs : List (Json × Json)) : Prop :=
  ∃ n ts, Scans cs (.scalar n :: ts) ∧ DenotesFields (.scalar n :: ts) fs

theorem reads_scalar (h : Scans cs [.scalar v]) : Reads cs v :=
  ⟨_, h, ⟨_, _, rfl, nofun⟩, fun _ _ => rfl⟩

theorem Reads.spaced {f b : List Char} (h : Reads cs v) (hf : Gap f) (hb : Gap b) :
    Reads (f ++ (cs ++ b)) v := by
  obtain ⟨ts, hs, ho, hd⟩ := h
  exact ⟨ts, hf.scans_append (hs.append_gap hb), ho, hd⟩

theorem reads_emptyArray {g : List Char} (hg : Gap g) : Reads ('[' :: (g ++ [']'])) (.arr []) := by
  have hclose : Scans [']'] [.closeArray] := scans_nil.mark rfl
  exact ⟨_, (hg.scans_append hclose).mark rfl, ⟨_, _, rfl, nofun⟩, fun _ _ => rfl⟩

theorem reads_emptyObject {g : List Char} (hg : Gap g) :
    Reads ('{' :: (g ++ ['}'])) (.obj []) := by
  have hclose : Scans ['}'] [.closeObject] := scans_nil.mark rfl
  exact ⟨_, (hg.scans_append hclose).mark rfl, ⟨_, _, rfl, nofun⟩, fun _ _ => rfl⟩

theorem ReadsItems.array (h : ReadsItems cs vs) : Reads ('[' :: (cs ++ [']'])) (.arr vs) := by
  obtain ⟨ts, hs, ho, hd⟩ := h
  refine ⟨_, (hs.append_mark scans_nil rfl (by decide)).mark rfl, ⟨_, _, rfl, nofun⟩, ?_⟩
  intro stack us
  change run? (.firstItem stack) (ts ++ [.closeArray] ++ us) = _
  rw [List.append_assoc, (ho.append _).run?]
  exact hd [] stack us

theorem ReadsFields.object (h : ReadsFields cs fs) :
    Reads ('{' :: (cs ++ ['}'])) (objectOf fs) := by
  obtain ⟨n, ts, hs, hd⟩ := h
  refine ⟨_, (hs.append_mark scans_nil rfl (by decide)).mark rfl, ⟨_, _, rfl, nofun⟩, ?_⟩
  intro stack us
  have hfields := hd (some []) stack us
  rw [value_foldl_add] at hfields
  rw [← hfields]
  simp [run?, Reading.step?, Reading.value?]

theorem Reads.lastItem (h : Reads cs v) : ReadsItems cs [v] := by
  obtain ⟨ts, hs, ho, hd⟩ := h
  refine ⟨ts, hs, ho, fun before stack us => ?_⟩
  rw [hd]
  simp [run?, Reading.step?]

theorem Reads.item {ds : List Char} (h : Reads cs v) (hr : ReadsItems ds vs) :
    ReadsItems (cs ++ ',' :: ds) (v :: vs) := by
  obtain ⟨ts, hs, ho, hd⟩ := h
  obtain ⟨us, hus, -, hds⟩ := hr
  refine ⟨_, hs.append_mark hus rfl (by decide), ho.append _, fun before stack rest => ?_⟩
  rw [List.append_assoc, hd, List.cons_append, run?, Reading.step?]
  change run? (.value (.items (v :: before) :: stack)) _ = _
  rw [hds]
  simp

/-- A name, with blanks around it, and its colon. -/
theorem SpellsText.scans_name {f ns b : List Char} {ts : List Token} (hn : SpellsText ns n)
    (hf : Gap f) (hb : Gap b) (h : Scans cs ts) :
    Scans (f ++ (ns ++ (b ++ ':' :: cs))) (.scalar n :: .colon :: ts) := by
  have hname : Scans ns [.scalar n] := scans_scalar fun found rest _ => hn.scan? found rest
  have hcolon : Scans (b ++ ':' :: cs) (.colon :: ts) := hb.scans_append (h.mark rfl)
  refine hf.scans_append (hname.append hcolon fun rest _ => ?_)
  rw [List.append_assoc]
  exact hb.ends (ends_cons (by decide) _)

/-- After a name and its colon its value is due. -/
theorem SpellsText.run?_name {ns : List Char} (hn : SpellsText ns n) (before : FieldsSoFar)
    (stack : List Frame) (us : List Token) :
    run? (.nextName before stack) (.scalar n :: .colon :: us) =
      run? (.value (.field before n.str? :: stack)) us := by
  cases hn with
  | quoted _ =>
    unfold Piece.value
    split <;> rfl

theorem Reads.lastField {f ns b : List Char} (hf : Gap f) (hn : SpellsText ns n) (hb : Gap b)
    (h : Reads cs v) : ReadsFields (f ++ (ns ++ (b ++ ':' :: cs))) [(n, v)] := by
  obtain ⟨ts, hs, -, hd⟩ := h
  refine ⟨n, _, hn.scans_name hf hb hs, fun before stack us => ?_⟩
  rw [List.cons_append, List.cons_append, hn.run?_name, hd]
  simp [run?, Reading.step?]

theorem Reads.field {f ns b ds : List Char} (hf : Gap f) (hn : SpellsText ns n) (hb : Gap b)
    (h : Reads cs v) (hr : ReadsFields ds fs) :
    ReadsFields (f ++ (ns ++ (b ++ ':' :: (cs ++ ',' :: ds)))) ((n, v) :: fs) := by
  obtain ⟨ts, hs, -, hd⟩ := h
  obtain ⟨m, us, hus, hds⟩ := hr
  refine ⟨n, _, hn.scans_name hf hb (hs.append_mark hus rfl (by decide)),
    fun before stack rest => ?_⟩
  rw [List.cons_append, List.cons_append, hn.run?_name, List.append_assoc, hd, List.cons_append,
    run?, Reading.step?]
  exact hds (before.add n.str? v) stack rest

end Values

/-! ### Spellings -/

mutual

theorem Spells.reads : ∀ {cs : List Char} {v : Json}, Spells cs v → Reads cs v
  | _, _, .null => reads_scalar (scans_scalar fun found _ => scan?_word rfl rfl rfl found)
  | _, _, .yes => reads_scalar (scans_scalar fun found _ => scan?_word rfl rfl rfl found)
  | _, _, .no => reads_scalar (scans_scalar fun found _ => scan?_word rfl rfl rfl found)
  | _, _, .number h => reads_scalar (scans_scalar fun found _ => h.scan? found)
  | _, _, .text h => reads_scalar (scans_scalar fun found rest _ => h.scan? found rest)
  | _, _, .emptyArray hg => reads_emptyArray hg
  | _, _, .array h => h.reads.array
  | _, _, .emptyObject hg => reads_emptyObject hg
  | _, _, .object h => h.reads.object
  | _, _, .spaced hf h hb => h.reads.spaced hf hb

theorem SpellsItems.reads : ∀ {cs : List Char} {vs : List Json}, SpellsItems cs vs →
    ReadsItems cs vs
  | _, _, .one h => h.reads.lastItem
  | _, _, .more h hs => h.reads.item hs.reads

theorem SpellsFields.reads : ∀ {cs : List Char} {fs : List (Json × Json)}, SpellsFields cs fs →
    ReadsFields cs fs
  | _, _, .one hf hn hb h => h.reads.lastField hf hn hb
  | _, _, .more hf hn hb h hs => h.reads.field hf hn hb hs.reads

end

/-- The reader takes every spelling of a value for that value. -/
theorem Spells.read? {cs : List Char} {v : Json} (h : Spells cs v) :
    read? (String.ofList cs) = some v := by
  obtain ⟨ts, hs, -, hd⟩ := h.reads
  have htokens : tokens? (String.ofList cs) = some ts := by
    have hscan := hs [] [] ends_nil
    rw [List.append_nil] at hscan
    rw [tokens?, String.toList_ofList, hscan]
    simp [scan?, Lexing.finish?]
  have hvalue := hd [] []
  rw [List.append_nil] at hvalue
  rw [Json.read?, htokens]
  exact hvalue

/-! ### Blanks around a value -/

theorem Gap.forall_isBlank {g : List Char} (hg : Gap g) : ∀ c ∈ g, Text.isBlank c = true := by
  have hall : [' ', '\t', '\n', '\r'].all Text.isBlank = true := by decide
  exact fun c hc => List.all_eq_true.1 hall c (hg c hc)

theorem not_isBlank_of_inNumber {c : Char} (h : inNumber c = true) : Text.isBlank c = false := by
  simp only [inNumber, Bool.or_eq_true, beq_iff_eq] at h
  rcases h with ((((h | rfl) | rfl) | rfl) | rfl) | rfl
  · exact Text.not_isBlank_of_isDigit h
  all_goals rfl

theorem SpellsText.solid {cs : List Char} {v : Json} (h : SpellsText cs v) : Solid cs := by
  cases h with
  | quoted _ => exact solid_between rfl rfl _

theorem SpellsNumber.solid {cs : List Char} {v : Json} (h : SpellsNumber cs v) : Solid cs :=
  solid_of_forall fun c hc => not_isBlank_of_inNumber (h.inNumber c hc)

/-- A solid spelling of the value with blanks around it. -/
def Cored (cs : List Char) (v : Json) : Prop :=
  ∃ f core b, cs = f ++ (core ++ b) ∧ Gap f ∧ Gap b ∧ Solid core ∧ Spells core v

theorem Cored.of_solid {cs : List Char} {v : Json} (h : Solid cs) (hs : Spells cs v) : Cored cs v :=
  ⟨[], cs, [], by simp, gap_nil, gap_nil, h, hs⟩

theorem Cored.spaced {cs f b : List Char} {v : Json} (h : Cored cs v) (hf : Gap f) (hb : Gap b) :
    Cored (f ++ (cs ++ b)) v := by
  obtain ⟨f', core, b', rfl, hf', hb', hsolid, hcore⟩ := h
  exact ⟨f ++ f', core, b' ++ b, by simp, List.forall_mem_append.2 ⟨hf, hf'⟩,
    List.forall_mem_append.2 ⟨hb', hb⟩, hsolid, hcore⟩

/-- What is left of a spelling when the blanks around it are cut spells the same value. -/
theorem Spells.cored : ∀ {cs : List Char} {v : Json}, Spells cs v → Cored cs v
  | _, _, .null => .of_solid (solid_between rfl rfl ['u', 'l']) .null
  | _, _, .yes => .of_solid (solid_between rfl rfl ['r', 'u']) .yes
  | _, _, .no => .of_solid (solid_between rfl rfl ['a', 'l', 's']) .no
  | _, _, .number h => .of_solid h.solid (.number h)
  | _, _, .text h => .of_solid h.solid (.text h)
  | _, _, .emptyArray hg => .of_solid (solid_between rfl rfl _) (.emptyArray hg)
  | _, _, .array h => .of_solid (solid_between rfl rfl _) (.array h)
  | _, _, .emptyObject hg => .of_solid (solid_between rfl rfl _) (.emptyObject hg)
  | _, _, .object h => .of_solid (solid_between rfl rfl _) (.object h)
  | _, _, .spaced hf h hb => h.cored.spaced hf hb

/-- A spelling is still read after all blanks around it are cut, those of Unicode included. -/
theorem Spells.read?_trim {cs : List Char} {v : Json} (h : Spells cs v) {f b : List Char}
    (hf : ∀ c ∈ f, Text.isBlank c = true) (hb : ∀ c ∈ b, Text.isBlank c = true) :
    Json.read? (Text.trim (String.ofList (f ++ cs ++ b))) = some v := by
  obtain ⟨f', core, b', rfl, hf', hb', hsolid, hcore⟩ := h.cored
  have htrim := hsolid.trimChars (f := f ++ f') (b := b' ++ b)
    (List.forall_mem_append.2 ⟨hf, hf'.forall_isBlank⟩)
    (List.forall_mem_append.2 ⟨hb'.forall_isBlank, hb⟩)
  rw [Text.trim, String.toList_ofList]
  simp only [List.append_assoc] at htrim ⊢
  rw [htrim, hcore.read?]

end Proctor.Json
