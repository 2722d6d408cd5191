import Proctor.Json.Reader
import Proctor.Proofs.Json.Grammar
import Proctor.Proofs.Time.Instant

/-!
# The tokens of words, numbers and texts

A word, a number and a text are each one token to the scanner, which carries the value that the
grammar gives them (`Json.scan?_word`, `Json.SpellsNumber.scan?`, `Json.SpellsText.scan?`). A word
and a number end where a character follows that neither has; a text ends with its quote. The
scanner joins the halves of surrogate pairs while it reads, with the first half kept aside, and
the grammar by looking ahead: they agree as a literal is worth the same before and after each piece
of what follows it is added (`Json.Literal.followed_cons`).
-/

namespace Proctor.Json

/-! ### Characters that end a token -/

/-- What follows does not go on with a word or a number. -/
def Ends (cs : List Char) : Prop := ∀ c ∈ cs.head?, inNumber c = false ∧ c.isLower = false

theorem ends_nil : Ends [] := nofun

theorem ends_cons {c : Char} (h : c ∈ [' ', '\t', '\n', '\r', ',', ':', ']', '}'])
    (cs : List Char) : Ends (c :: cs) := by
  have hall : [' ', '\t', '\n', '\r', ',', ':', ']', '}'].all
      (fun d => !inNumber d && !d.isLower) = true := by decide
  intro d hd
  obtain rfl : c = d := by simpa using hd
  simpa using List.all_eq_true.1 hall c h

theorem Gap.ends {g : List Char} (hg : Gap g) {rest : List Char} (h : Ends rest) :
    Ends (g ++ rest) := by
  cases g with
  | nil => exact h
  | cons c g =>
    have hc := hg c List.mem_cons_self
    exact ends_cons (List.mem_append_left [',', ':', ']', '}'] hc) _

/-! ### Tokens -/

theorem scan?_gap {g : List Char} (hg : Gap g) (found : List Token) (rest : List Char) :
    scan? .between found (g ++ rest) = scan? .between found rest := by
  induction g with
  | nil => rfl
  | cons c g ih =>
    have hstep : Lexing.step? .between c = some (.between, []) := by
      have hc := hg c List.mem_cons_self
      simp only [List.mem_cons, List.not_mem_nil, or_false] at hc
      rcases hc with rfl | rfl | rfl | rfl <;> rfl
    rw [List.cons_append, scan?, hstep]
    exact ih fun d hd => hg d (List.mem_cons_of_mem c hd)

/-- A token in progress that yields a value at the end of the text, and before any character that
does not belong to it. -/
structure Yields (s : Lexing) (v : Json) : Prop where
  /-- At the end of the text. -/
  finish : s.finish? = some [.scalar v]
  /-- Before another character. -/
  step : ∀ c, inNumber c = false ∧ c.isLower = false →
    s.step? c = (start? c).map fun r => (r.1, .scalar v :: r.2)

theorem Yields.scan? {s : Lexing} {v : Json} (h : Yields s v) (found : List Token)
    {rest : List Char} (hrest : Ends rest) :
    scan? s found rest = Json.scan? .between (.scalar v :: found) rest := by
  cases rest with
  | nil =>
    have hbetween : Lexing.finish? .between = some [] := rfl
    rw [Json.scan?, Json.scan?, h.finish, hbetween]
    simp
  | cons c rest =>
    have hbetween : Lexing.step? .between c = start? c := rfl
    rw [Json.scan?, Json.scan?, h.step c (hrest c rfl), hbetween]
    cases start? c with
    | none => rfl
    | some r => simp

theorem scan?_collect {s : List Char → Lexing} {cs : List Char}
    (hs : ∀ c ∈ cs, ∀ kept, (s kept).step? c = some (s (c :: kept), [])) (kept : List Char)
    (found : List Token) (rest : List Char) :
    scan? (s kept) found (cs ++ rest) = scan? (s (cs.reverse ++ kept)) found rest := by
  induction cs generalizing kept with
  | nil => rfl
  | cons c cs ih =>
    rw [List.cons_append, scan?, hs c List.mem_cons_self]
    simpa using ih (fun d hd => hs d (List.mem_cons_of_mem c hd)) (c :: kept)

/-- A token that keeps all of its characters, and yields its value when the last of them is read. -/
theorem scan?_token {s : List Char → Lexing} {c : Char} {cs : List Char} {v : Json}
    (hc : start? c = some (s [c], []))
    (hs : ∀ d ∈ cs, ∀ kept, (s kept).step? d = some (s (d :: kept), []))
    (hv : Yields (s (c :: cs).reverse) v) (found : List Token) {rest : List Char}
    (hrest : Ends rest) :
    scan? .between found (c :: cs ++ rest) = scan? .between (.scalar v :: found) rest := by
  have hstep : Lexing.step? .between c = some (s [c], []) := hc
  have hyields : Yields (s (cs.reverse ++ [c])) v := by simpa using hv
  rw [List.cons_append, scan?, hstep]
  change scan? (s [c]) found (cs ++ rest) = _
  rw [scan?_collect hs, hyields.scan? found hrest]

/-! ### Words -/

theorem yields_word {cs : List Char} {v : Json} (h : wordValue? cs = some v) :
    Yields (.word cs.reverse) v := by
  refine ⟨by simp [Lexing.finish?, h], fun c hc => ?_⟩
  simp only [Lexing.step?, hc.2, List.reverse_reverse, h, Option.bind_eq_bind, Option.bind_some]
  cases start? c <;> rfl

theorem scan?_word {c : Char} {cs : List Char} {v : Json} (hc : start? c = some (.word [c], []))
    (hcs : cs.all Char.isLower = true) (h : wordValue? (c :: cs) = some v) (found : List Token)
    {rest : List Char} (hrest : Ends rest) :
    scan? .between found (c :: cs ++ rest) = scan? .between (.scalar v :: found) rest :=
  scan?_token hc (fun d hd _ => if_pos (List.all_eq_true.1 hcs d hd)) (yields_word h) found hrest

/-! ### Numbers -/

theorem yields_number {cs : List Char} {v : Json} (h : numberValue? cs = some v) :
    Yields (.number cs.reverse) v := by
  refine ⟨by simp [Lexing.finish?, h], fun c hc => ?_⟩
  simp only [Lexing.step?, hc.1, List.reverse_reverse, h, Option.bind_eq_bind, Option.bind_some]
  cases start? c <;> rfl

theorem isLower_of_isDigit {c : Char} (h : c.isDigit = true) : c.isLower = false := by
  have hc := Text.toNat_of_isDigit h
  have ha : ¬ 'a'.val ≤ c.val := fun hle => by
    have : 97 ≤ c.toNat := UInt32.le_iff_toNat_le.1 hle
    omega
  change (decide ('a'.val ≤ c.val) && _) = false
  rw [decide_eq_false ha, Bool.false_and]

theorem start?_digit {c : Char} (h : c.isDigit = true) : start? c = some (.number [c], []) := by
  unfold start?
  split
  all_goals first
    | exact absurd h (by decide)
    | simp [isLower_of_isDigit h, h]

section Number

variable {ds whole fraction exponent cs : List Char} {v : Json}

theorem Digits.takeWhile (h : Digits ds) (rest : List Char) :
    (ds ++ rest).takeWhile Char.isDigit = ds ++ rest.takeWhile Char.isDigit :=
  List.takeWhile_append_of_pos h.2

theorem Digits.dropWhile (h : Digits ds) (rest : List Char) :
    (ds ++ rest).dropWhile Char.isDigit = rest.dropWhile Char.isDigit :=
  List.dropWhile_append_of_pos h.2

/-- An exponent begins with its letter. -/
theorem Exponent.cases_head (he : Exponent exponent) :
    exponent = [] ∨ ∃ e rest, exponent = e :: rest ∧ (e = 'e' ∨ e = 'E') := by
  cases he with
  | absent => exact Or.inl rfl
  | plain he _ | signed he _ _ => exact Or.inr ⟨_, _, rfl, he⟩

theorem Exponent.takeWhile (he : Exponent exponent) : exponent.takeWhile Char.isDigit = [] := by
  rcases he.cases_head with rfl | ⟨_, _, rfl, rfl | rfl⟩ <;> rfl

theorem Exponent.dropWhile (he : Exponent exponent) :
    exponent.dropWhile Char.isDigit = exponent := by
  rcases he.cases_head with rfl | ⟨_, _, rfl, rfl | rfl⟩ <;> rfl

theorem Digits.afterSign (h : Digits ds) : afterSign ds = ds := by
  obtain ⟨-, hd⟩ := h
  unfold Json.afterSign
  split
  · exact absurd (hd '+' List.mem_cons_self) (by decide)
  · exact absurd (hd '-' List.mem_cons_self) (by decide)
  · rfl

theorem Exponent.isExponent (he : Exponent exponent) : isExponent exponent = true := by
  have hletter : ∀ e, e = 'e' ∨ e = 'E' → (e == 'e' || e == 'E') = true := by
    rintro e (rfl | rfl) <;> rfl
  cases he with
  | absent => rfl
  | plain he h =>
    rw [Json.isExponent, hletter _ he, h.afterSign]
    simpa [Digits] using h
  | signed he hs h =>
    have hsign : ∀ sign, sign = '+' ∨ sign = '-' → ∀ ds, afterSign (sign :: ds) = ds := by
      rintro sign (rfl | rfl) ds <;> rfl
    rw [Json.isExponent, hletter _ he, hsign _ hs]
    simpa [Digits] using h

theorem Fraction.afterFraction? (hf : Fraction fraction) (he : Exponent exponent) :
    afterFraction? (fraction ++ exponent) = some exponent := by
  cases hf with
  | absent => rcases he.cases_head with rfl | ⟨_, _, rfl, rfl | rfl⟩ <;> rfl
  | given h =>
    rw [List.cons_append, Json.afterFraction?, h.takeWhile, he.takeWhile, h.dropWhile, he.dropWhile,
      List.append_nil, if_neg h.1]

theorem Fraction.takeWhile (hf : Fraction fraction) (he : Exponent exponent) :
    (fraction ++ exponent).takeWhile Char.isDigit = [] := by
  cases hf with
  | absent => exact he.takeWhile
  | given _ => rfl

theorem Fraction.dropWhile (hf : Fraction fraction) (he : Exponent exponent) :
    (fraction ++ exponent).dropWhile Char.isDigit = fraction ++ exponent := by
  cases hf with
  | absent => exact he.dropWhile
  | given _ => rfl

theorem magnitude?_real (hw : Whole whole) (hf : Fraction fraction) (he : Exponent exponent)
    (hne : fraction ++ exponent ≠ []) (negative : Bool) (literal : List Char) :
    magnitude? negative (whole ++ (fraction ++ exponent)) literal =
      some (.real (String.ofList literal)) := by
  rw [magnitude?, hw.1.takeWhile, hw.1.dropWhile, hf.takeWhile he, hf.dropWhile he,
    List.append_nil]
  split
  · exact absurd rfl hw.1.1
  · exact absurd (hw.2 rfl) (by simp)
  · rw [hf.afterFraction? he]
    simp [he.isExponent, hne]

theorem magnitude?_whole (hw : Whole whole) (negative : Bool) (literal : List Char) :
    magnitude? negative whole literal =
      if negative then
        some (if Nat.ofDigitChars 10 whole 0 = 0 then .real (String.ofList literal)
          else .int (-(Nat.ofDigitChars 10 whole 0 : Nat)))
      else some (.int (Nat.ofDigitChars 10 whole 0)) := by
  have htake : whole.takeWhile Char.isDigit = whole := by simpa using hw.1.takeWhile []
  have hdrop : whole.dropWhile Char.isDigit = [] := by simpa using hw.1.dropWhile []
  rw [magnitude?, htake, hdrop]
  split
  · exact absurd rfl hw.1.1
  · exact absurd (hw.2 rfl) (by simp)
  · simp [Json.afterFraction?, Json.isExponent, Text.decimal?_eq hw.1.1 hw.1.2]

/-- A literal begins with a digit if it has no sign. -/
theorem Whole.exists_cons (hw : Whole whole) :
    ∃ d ds, whole = d :: ds ∧ d.isDigit = true := by
  obtain ⟨d, ds, rfl⟩ := List.exists_cons_of_ne_nil hw.1.1
  exact ⟨d, ds, rfl, hw.1.2 d List.mem_cons_self⟩

theorem Whole.numberValue? (hw : Whole whole) (rest : List Char) :
    numberValue? (whole ++ rest) = magnitude? false (whole ++ rest) (whole ++ rest) := by
  obtain ⟨d, ds, rfl, hd⟩ := hw.exists_cons
  rw [List.cons_append]
  unfold Json.numberValue?
  split
  · next h =>
    cases h
    exact absurd hd (by decide)
  · rfl

/-- Only the literal of zero has the value zero. -/
theorem Whole.ne_zero (hw : Whole whole) (hz : whole ≠ ['0']) :
    Nat.ofDigitChars 10 whole 0 ≠ 0 := by
  obtain ⟨d, ds, rfl, hd⟩ := hw.exists_cons
  have hne : d ≠ '0' := by
    rintro rfl
    exact hz (hw.2 rfl)
  have hpos : 0 < 10 * 0 + (d.toNat - '0'.toNat) := by
    have hd := (Text.toNat_of_isDigit hd).1
    have h0 : d.toNat ≠ 48 := fun h => hne (Char.toNat_inj.1 h)
    change 0 < 10 * 0 + (d.toNat - 48)
    omega
  rw [Nat.ofDigitChars_cons, Nat.ofDigitChars_eq_ofDigitChars_zero]
  have hscaled : 0 < 10 ^ ds.length * (10 * 0 + (d.toNat - '0'.toNat)) :=
    Nat.mul_pos (Nat.pow_pos (by decide)) hpos
  omega

/-- A number is read from its literal. -/
theorem SpellsNumber.value (h : SpellsNumber cs v) : Json.numberValue? cs = some v := by
  cases h with
  | natural hw =>
    have hvalue := hw.numberValue? []
    rw [List.append_nil] at hvalue
    rw [hvalue, magnitude?_whole hw]
    rfl
  | negative hw hz =>
    rw [Json.numberValue?, magnitude?_whole hw, if_pos rfl, if_neg (hw.ne_zero hz)]
  | minusZero => rfl
  | real hs hw hf he hne =>
    rcases hs with rfl | rfl
    · rw [List.nil_append, hw.numberValue?, magnitude?_real hw hf he hne]
    · rw [List.singleton_append, Json.numberValue?, magnitude?_real hw hf he hne]

theorem Digits.inNumber (h : Digits ds) : ∀ c ∈ ds, inNumber c = true := by
  intro c hc
  simp [Json.inNumber, h.2 c hc]

theorem Fraction.inNumber (hf : Fraction fraction) : ∀ c ∈ fraction, inNumber c = true := by
  cases hf with
  | absent => exact List.forall_mem_nil _
  | given h => exact List.forall_mem_cons.2 ⟨rfl, h.inNumber⟩

theorem Exponent.inNumber (he : Exponent exponent) : ∀ c ∈ exponent, inNumber c = true := by
  have hletter : ∀ e, e = 'e' ∨ e = 'E' → Json.inNumber e = true := by
    rintro e (rfl | rfl) <;> rfl
  have hsign : ∀ e, e = '+' ∨ e = '-' → Json.inNumber e = true := by
    rintro e (rfl | rfl) <;> rfl
  cases he with
  | absent => exact List.forall_mem_nil _
  | plain he h => exact List.forall_mem_cons.2 ⟨hletter _ he, h.inNumber⟩
  | signed he hs h =>
    exact List.forall_mem_cons.2 ⟨hletter _ he, List.forall_mem_cons.2 ⟨hsign _ hs, h.inNumber⟩⟩

theorem SpellsNumber.inNumber (h : SpellsNumber cs v) : ∀ c ∈ cs, inNumber c = true := by
  cases h with
  | natural hw => exact hw.1.inNumber
  | negative hw hz => exact List.forall_mem_cons.2 ⟨rfl, hw.1.inNumber⟩
  | minusZero => exact List.forall_mem_cons.2 ⟨rfl, List.forall_mem_singleton.2 rfl⟩
  | real hs hw hf he hne =>
    simp only [List.forall_mem_append]
    refine ⟨?_, hw.1.inNumber, hf.inNumber, he.inNumber⟩
    rcases hs with rfl | rfl
    · exact List.forall_mem_nil _
    · exact List.forall_mem_singleton.2 rfl

/-- A number begins with a digit or with the sign. -/
theorem SpellsNumber.start (h : SpellsNumber cs v) :
    ∃ c rest, cs = c :: rest ∧ start? c = some (.number [c], []) := by
  have hdigits : ∀ {whole : List Char}, Whole whole → ∀ rest,
      ∃ c ds, whole ++ rest = c :: ds ∧ start? c = some (.number [c], []) := by
    intro whole hw rest
    obtain ⟨d, ds, rfl, hd⟩ := hw.exists_cons
    exact ⟨d, ds ++ rest, rfl, start?_digit hd⟩
  cases h with
  | natural hw => simpa using hdigits hw []
  | negative _ _ | minusZero => exact ⟨_, _, rfl, rfl⟩
  | real hs hw _ _ _ =>
    rcases hs with rfl | rfl
    · exact hdigits hw _
    · exact ⟨_, _, rfl, rfl⟩

theorem SpellsNumber.scan? (h : SpellsNumber cs v) (found : List Token) {rest : List Char}
    (hrest : Ends rest) :
    scan? .between found (cs ++ rest) = Json.scan? .between (.scalar v :: found) rest := by
  obtain ⟨c, ds, rfl, hc⟩ := h.start
  have hkeep : ∀ d ∈ ds, Json.inNumber d = true :=
    fun d hd => h.inNumber d (List.mem_cons_of_mem c hd)
  exact scan?_token hc (fun d hd _ => if_pos (hkeep d hd)) (yields_number h.value) found hrest

end Number


/-! ### Texts -/

/-- A piece is added to a literal. -/
def Literal.add (l : Literal) : Piece → Literal
  | .char c => l.push c
  | .unit n => l.pushUnit n

theorem escaped?_of_mem {c d : Char} (h : (c, d) ∈ escapes) : escaped? c = some d ∧ c ≠ 'u' := by
  have hall : ∀ e ∈ escapes, escaped? e.1 = some e.2 ∧ e.1 ≠ 'u' := by decide
  exact hall _ h

theorem SpellsPiece.scan? {cs : List Char} {p : Piece} (h : SpellsPiece cs p) (l : Literal)
    (found : List Token) (rest : List Char) :
    scan? (.text l) found (cs ++ rest) = Json.scan? (.text (l.add p)) found rest := by
  cases h with
  | plain hq hb hc => simp [Json.scan?, Lexing.step?, hq, hb, Nat.not_lt.2 hc, Literal.add]
  | escape h =>
    obtain ⟨hd, hu⟩ := escaped?_of_mem h
    simp [Json.scan?, Lexing.step?, hu, hd, Literal.add]
  | unit ha hb hc hd => simp [Json.scan?, Lexing.step?, ha, hb, hc, hd, Literal.add]

theorem SpellsPieces.scan? {cs : List Char} {ps : List Piece} (h : SpellsPieces cs ps)
    (l : Literal) (found : List Token) (rest : List Char) :
    scan? (.text l) found (cs ++ rest) =
      Json.scan? (.text (ps.foldl Literal.add l)) found rest := by
  induction h generalizing l with
  | nil => rfl
  | cons h _ ih => rw [List.append_assoc, h.scan?, ih, List.foldl_cons]

/-- The text of characters that stand last first and of those that follow, if these are known. -/
def textOf (chars : List Char) : Option (List Char) → Json
  | some cs => .str (String.ofList (chars.reverse ++ cs))
  | none => .torn

theorem textOf_map (chars : List Char) (c : Char) (cs : Option (List Char)) :
    textOf chars (cs.map (c :: ·)) = textOf (c :: chars) cs := by
  cases cs <;> simp [textOf]

/-- The value of a literal once these pieces follow it. -/
def Literal.followed (l : Literal) (ps : List Piece) : Json :=
  if l.torn then .torn
  else textOf l.chars (Piece.chars? ((l.leading.map Piece.unit).toList ++ ps))

/-- Only the first half of a surrogate pair waits for the second. -/
def Literal.Waits (l : Literal) : Prop := ∀ n ∈ l.leading, Leads n

theorem Literal.pushAlone_eq (l : Literal) (n : Nat) :
    l.pushAlone n =
      if Leads n then { l with leading := some n }
      else if Trails n then { l with leading := none, torn := true }
      else { l with chars := Char.ofNat n :: l.chars, leading := none } := rfl

theorem Literal.pushUnit_eq (l : Literal) (high n : Nat) (h : l.leading = some high) :
    l.pushUnit n =
      if Trails n then { l with chars := paired high n :: l.chars, leading := none }
      else { l with leading := none, torn := true }.pushAlone n := by
  rw [pushUnit, h]
  rfl

theorem Literal.waits_pushAlone (l : Literal) (n : Nat) : (l.pushAlone n).Waits := by
  rw [pushAlone_eq]
  split
  · next h => simpa [Waits] using h
  · split <;> exact nofun

theorem Literal.waits_add (l : Literal) (p : Piece) : (l.add p).Waits := by
  cases p with
  | char c => exact nofun
  | unit n =>
    cases h : l.leading with
    | none => simpa [add, pushUnit, h] using waits_pushAlone l n
    | some high =>
      rw [add, pushUnit_eq l high n h]
      split
      · exact nofun
      · exact waits_pushAlone _ n

theorem Literal.followed_nil {l : Literal} (h : l.Waits) : l.followed [] = l.value := by
  unfold followed value
  cases l.torn with
  | true => rfl
  | false =>
    cases hl : l.leading with
    | none => simp [textOf, Piece.chars?]
    | some n => simp [textOf, Piece.chars?_of_alone (h n hl)]

theorem Literal.torn_pushAlone {l : Literal} (h : l.torn = true) (n : Nat) :
    (l.pushAlone n).torn = true := by
  rw [pushAlone_eq]
  split
  · exact h
  · split
    · rfl
    · exact h

theorem Literal.torn_add {l : Literal} (h : l.torn = true) (p : Piece) : (l.add p).torn = true := by
  cases p with
  | char c => simp [add, push, h]
  | unit n =>
    cases hl : l.leading with
    | none => simpa [add, pushUnit, hl] using torn_pushAlone h n
    | some high =>
      rw [add, pushUnit_eq l high n hl]
      split
      · exact h
      · exact torn_pushAlone rfl n

theorem Literal.followed_of_torn {l : Literal} (h : l.torn = true) (ps : List Piece) :
    l.followed ps = .torn := if_pos h

/-- A literal is worth the same before and after a piece of what follows it is added. -/
theorem Literal.followed_cons {l : Literal} (h : l.Waits) (p : Piece) (ps : List Piece) :
    l.followed (p :: ps) = (l.add p).followed ps := by
  cases ht : l.torn with
  | true => rw [followed_of_torn ht, followed_of_torn (torn_add ht p)]
  | false =>
    cases hl : l.leading with
    | none =>
      cases p with
      | char c => simp [followed, add, push, ht, hl, Piece.chars?, textOf_map]
      | unit n =>
        by_cases hn : Leads n
        · simp [followed, add, pushUnit, pushAlone_eq, ht, hl, hn]
        · by_cases hm : Trails n
          · simp [followed, add, pushUnit, pushAlone_eq, ht, hl, hn, hm, Piece.chars?_of_trails hm,
              textOf]
          · simp [followed, add, pushUnit, pushAlone_eq, ht, hl, hn, hm,
              Piece.chars?_of_plain hn hm, textOf_map]
    | some high =>
      have hhigh : Leads high := h high hl
      cases p with
      | char c =>
        have halone : Piece.chars? (.unit high :: .char c :: ps) = none :=
          Piece.chars?_of_alone hhigh fun _ _ he => by cases he
        simp [followed, add, push, ht, hl, halone, textOf]
      | unit n =>
        rw [add, pushUnit_eq _ high n hl]
        by_cases hn : Trails n
        · simp [followed, ht, hl, hn, Piece.chars?_of_leads hhigh, textOf_map]
        · rw [if_neg hn, followed_of_torn (torn_pushAlone rfl n)]
          simp [followed, ht, hl, hn, Piece.chars?_of_leads hhigh, textOf]

theorem Literal.value_foldl {l : Literal} (h : l.Waits) (ps : List Piece) :
    (ps.foldl add l).value = l.followed ps := by
  induction ps generalizing l with
  | nil => exact (followed_nil h).symm
  | cons p ps ih => rw [List.foldl_cons, ih (waits_add l p), followed_cons h]

theorem Literal.value_pieces (ps : List Piece) : (ps.foldl add {}).value = Piece.value ps := by
  have hempty : Waits {} := nofun
  rw [value_foldl hempty, Piece.value]
  change textOf [] (Piece.chars? ps) = _
  cases Piece.chars? ps <;> rfl

theorem SpellsText.scan? {cs : List Char} {v : Json} (h : SpellsText cs v) (found : List Token)
    (rest : List Char) :
    scan? .between found (cs ++ rest) = Json.scan? .between (.scalar v :: found) rest := by
  have hopen : Lexing.step? .between '"' = some (.text {}, []) := rfl
  have hclose : ∀ l, Lexing.step? (.text l) '"' = some (.between, [.scalar l.value]) := fun _ => rfl
  cases h with
  | quoted h =>
    rw [List.cons_append, Json.scan?, hopen, List.append_assoc]
    change Json.scan? (.text {}) found _ = _
    rw [h.scan?, List.singleton_append, Json.scan?, hclose, Literal.value_pieces]
    rfl

end Proctor.Json
