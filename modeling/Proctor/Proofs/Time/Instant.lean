import Mathlib.Algebra.Group.Nat.Defs
import Proctor.Time.Instant

/-!
# An instant is read back from its text

Texts of instants are read with some tolerance, and written in one way. What is written is read back
to the nanosecond (`Instant.read?_text`): each number stands in as many digits as the reader takes,
and what follows a number of any length is no digit.

## What is left out

The tolerance itself is not described: which other texts are read, and as what, is told by the reader
alone (`Instant.read?`).
-/

namespace Proctor

namespace Text

theorem foldlM_digit?_eq {cs : List Char} (hd : ∀ c ∈ cs, c.isDigit = true) (n : Nat) :
    cs.foldlM (fun n c => (digit? c).map (n * 10 + ·)) n = some (Nat.ofDigitChars 10 cs n) := by
  induction cs generalizing n with
  | nil => rfl
  | cons c cs ih =>
    have hc : digit? c = some (c.toNat - '0'.toNat) := if_pos (hd c List.mem_cons_self)
    rw [List.foldlM_cons, hc, Nat.ofDigitChars_cons, Nat.mul_comm 10 n]
    exact ih (fun c hc => hd c (List.mem_cons_of_mem _ hc)) _

theorem decimal?_eq {cs : List Char} (hne : cs ≠ []) (hd : ∀ c ∈ cs, c.isDigit = true) :
    decimal? cs = some (Nat.ofDigitChars 10 cs 0) := by
  rw [decimal?, if_neg hne, foldlM_digit?_eq hd]

/-! ### Padded numbers -/

variable {width n : Nat}

theorem toList_padded (width n : Nat) :
    (padded width n).toList =
      List.replicate (width - (Nat.toDigits 10 n).length) '0' ++ Nat.toDigits 10 n := by
  rw [padded, String.toList_ofList]

theorem isDigit_of_mem_padded {c : Char} (h : c ∈ (padded width n).toList) : c.isDigit = true := by
  rw [toList_padded] at h
  rcases List.mem_append.1 h with h | h
  · rw [List.eq_of_mem_replicate h]
    rfl
  · exact Nat.isDigit_of_mem_toDigits (by decide) (by decide) h

theorem padded_ne_nil (width n : Nat) : (padded width n).toList ≠ [] := by
  rw [toList_padded]
  simp [Nat.toDigits_ne_nil]

theorem decimal?_padded (width n : Nat) : decimal? (padded width n).toList = some n := by
  rw [decimal?_eq (padded_ne_nil width n) fun _ => isDigit_of_mem_padded, toList_padded,
    Nat.ofDigitChars_append, Nat.ofDigitChars_replicate_zero, Nat.mul_zero,
    Nat.ofDigitChars_ten_toDigits]

theorem length_padded (hw : 0 < width) (h : n < 10 ^ width) :
    (padded width n).toList.length = width := by
  have hle := (Nat.length_toDigits_le_iff (b := 10) (by decide) hw).2 h
  rw [toList_padded, List.length_append, List.length_replicate]
  omega

/-- A padded number begins with a digit. -/
theorem padded_eq_cons (width n : Nat) :
    ∃ c cs, (padded width n).toList = c :: cs ∧ c.isDigit = true := by
  obtain ⟨c, cs, h⟩ := List.exists_cons_of_ne_nil (padded_ne_nil width n)
  exact ⟨c, cs, h, isDigit_of_mem_padded (h ▸ List.mem_cons_self)⟩

theorem takeWhile_isDigit_padded (width n : Nat) (rest : List Char) :
    ((padded width n).toList ++ rest).takeWhile Char.isDigit =
      (padded width n).toList ++ rest.takeWhile Char.isDigit :=
  List.takeWhile_append_of_pos fun _ => isDigit_of_mem_padded

theorem toNat_of_isDigit {c : Char} (h : c.isDigit = true) : 48 ≤ c.toNat ∧ c.toNat ≤ 57 := by
  simpa [Char.isDigit, UInt32.le_iff_toNat_le] using h

theorem not_isBlank_of_isDigit {c : Char} (h : c.isDigit = true) : isBlank c = false := by
  have hc := toNat_of_isDigit h
  simp [isBlank]
  omega

end Text

namespace Instant

open Text

/-! ### Numbers -/

theorem skipBlanks_cons {c : Char} {cs : List Char} (h : isBlank c = false) :
    skipBlanks (c :: cs) = c :: cs := by
  rw [skipBlanks, List.dropWhile_cons_of_neg (by simp [h])]

theorem skipBlanks_padded (width n : Nat) (rest : List Char) :
    skipBlanks ((padded width n).toList ++ rest) = (padded width n).toList ++ rest := by
  obtain ⟨c, cs, h, hc⟩ := padded_eq_cons width n
  rw [h, List.cons_append, skipBlanks_cons (not_isBlank_of_isDigit hc)]

/-- A number in just as many digits as the reader takes. -/
theorem digits?_padded {width n : Nat} (hw : 0 < width) (h : n < 10 ^ width) (rest : List Char) :
    digits? width ((padded width n).toList ++ rest) = some (n, rest) := by
  have htake : ((padded width n).toList ++ rest).take width = (padded width n).toList :=
    List.take_left' (length_padded hw h)
  have hrun : (padded width n).toList.takeWhile Char.isDigit = (padded width n).toList :=
    by simpa using takeWhile_isDigit_padded width n []
  simp only [digits?, htake, hrun, decimal?_padded, Option.bind_eq_bind, Option.bind_some,
    List.drop_left]

/-- A number of any length, with something behind it that is no digit. -/
theorem digits?_padded_cons {width n : Nat} {c : Char} (hc : c.isDigit = false)
    (rest : List Char) :
    digits? ((padded width n).toList ++ c :: rest).length ((padded width n).toList ++ c :: rest) =
      some (n, c :: rest) := by
  have hrun : ((padded width n).toList ++ c :: rest).takeWhile Char.isDigit =
      (padded width n).toList := by
    rw [takeWhile_isDigit_padded, List.takeWhile_cons_of_neg (by simp [hc]), List.append_nil]
  simp only [digits?, List.take_length, hrun, decimal?_padded, Option.bind_eq_bind,
    Option.bind_some, List.drop_left]

/-- A year without a sign. -/
theorem year?_padded {n : Nat} (h : n < 10000) (rest : List Char) :
    year? ((padded 4 n).toList ++ rest) = some ((n : Int), rest) := by
  have hd : digits? 4 ((padded 4 n).toList ++ rest) = some (n, rest) :=
    digits?_padded (by decide) h rest
  obtain ⟨c, cs, hcs, hc⟩ := padded_eq_cons 4 n
  rw [hcs, List.cons_append] at hd ⊢
  rw [year?, skipBlanks_cons (not_isBlank_of_isDigit hc)]
  split
  · next he =>
    cases he
    cases hc
  · next he =>
    cases he
    cases hc
  · rw [hd]
    rfl

theorem year?_plus {cs rest : List Char} {n : Nat} (h : digits? cs.length cs = some (n, rest)) :
    year? ('+' :: cs) = some ((n : Int), rest) := by
  rw [year?, skipBlanks_cons rfl]
  simp only [h, Option.bind_eq_bind, Option.bind_some]

theorem year?_minus {cs rest : List Char} {n : Nat} (h : digits? cs.length cs = some (n, rest)) :
    year? ('-' :: cs) = some (-(n : Int), rest) := by
  rw [year?, skipBlanks_cons rfl]
  simp only [h, Option.bind_eq_bind, Option.bind_some]

theorem year?_yearText (year : Int) (rest : List Char) :
    year? ((yearText year).toList ++ '-' :: rest) = some (year, '-' :: rest) := by
  rw [yearText]
  split
  · next h => rw [year?_padded (by omega), Int.toNat_of_nonneg h.1]
  · split
    · next h =>
      rw [String.toList_append, show "+".toList = ['+'] from rfl, List.append_assoc,
        List.singleton_append, year?_plus (digits?_padded_cons rfl rest), Int.toNat_of_nonneg h]
    · next h =>
      rw [String.toList_append, show "-".toList = ['-'] from rfl, List.append_assoc,
        List.singleton_append, year?_minus (digits?_padded_cons rfl rest),
        Int.toNat_of_nonneg (by omega), Int.neg_neg]

/-! ### The parts of a text -/

theorem part?_padded (separator : Char) (hs : isBlank separator = false) {n : Nat} (h : n < 100)
    (rest : List Char) :
    part? separator (separator :: ((padded 2 n).toList ++ rest)) = some (n, rest) := by
  rw [part?, skipBlanks_cons hs]
  simp only [if_pos]
  rw [skipBlanks_padded]
  exact digits?_padded (by decide) h rest

theorem fraction?_padded {width n : Nat} (hw : 0 < width) (hl : width ≤ 9) (h : n < 10 ^ width)
    (rest : List Char) :
    fraction? ('.' :: ((padded width n).toList ++ 'Z' :: rest)) =
      some (10 ^ (9 - width) * n, 'Z' :: rest) := by
  have hlen := length_padded hw h
  have hrun : ((padded width n).toList ++ 'Z' :: rest).takeWhile Char.isDigit =
      (padded width n).toList := by
    rw [takeWhile_isDigit_padded, List.takeWhile_cons_of_neg (by decide), List.append_nil]
  have hdrop : ((padded width n).toList ++ 'Z' :: rest).dropWhile Char.isDigit = 'Z' :: rest := by
    rw [List.dropWhile_append_of_pos fun _ => isDigit_of_mem_padded,
      List.dropWhile_cons_of_neg (by decide)]
  have htake : ((padded width n).toList ++ List.replicate 9 '0').take 9 =
      (padded width n).toList ++ List.replicate (9 - width) '0' := by
    rw [List.take_append, hlen, List.take_of_length_le (by omega), List.take_replicate,
      Nat.min_eq_left (by omega)]
  have hdecimal : decimal? ((padded width n).toList ++ List.replicate (9 - width) '0') =
      some (10 ^ (9 - width) * n) := by
    have hd := decimal?_padded width n
    rw [decimal?_eq (padded_ne_nil width n) fun _ => isDigit_of_mem_padded] at hd
    rw [decimal?_eq (List.append_ne_nil_of_left_ne_nil (padded_ne_nil width n) _),
      Nat.ofDigitChars_append,
      Nat.ofDigitChars_replicate_zero, Option.some.inj hd]
    intro c hc
    rcases List.mem_append.1 hc with hc | hc
    · exact isDigit_of_mem_padded hc
    · rw [List.eq_of_mem_replicate hc]
      rfl
  simp only [fraction?, hrun, if_neg (padded_ne_nil width n), htake, hdecimal, hdrop,
    Option.map_some]

/-! ### The whole text -/

theorem toList_clockText (t : Instant) :
    t.clockText.toList = (yearText t.date.year).toList ++ '-' :: ((padded 2 t.date.month).toList ++
      '-' :: ((padded 2 t.date.day).toList ++ 'T' :: ((padded 2 t.hour).toList ++
        ':' :: ((padded 2 t.minute).toList ++ ':' :: (padded 2 t.second).toList)))) := by
  simp [clockText]

theorem of?_self (t : Instant) : of? t.date t.hour t.minute t.second t.nano = some t :=
  dif_pos t.valid

theorem shifted?_self (t : Instant) :
    shifted? t.date t.hour t.minute t.second t.nano 0 = some t := by
  obtain ⟨-, -, -, hh, hm, -, -⟩ := t.valid
  have hmod : (((t.hour : Int) * 60 + t.minute - 0) % 1440).toNat = t.hour * 60 + t.minute := by
    omega
  have hhour : (t.hour * 60 + t.minute) / 60 = t.hour := by omega
  have hminute : (t.hour * 60 + t.minute) % 60 = t.minute := by omega
  simp only [shifted?, of?_self, Option.bind_eq_bind, Option.bind_some, hmod, hhour, hminute]
  rw [if_neg (by omega), if_neg (by omega), of?_self]

theorem daysInMonth_lt (year : Int) (month : Nat) : Date.daysInMonth year month < 100 := by
  fun_cases Date.daysInMonth year month <;> decide

/-- The text of the date and time of day, with a fraction of the second behind it and a `Z`. -/
theorem read?_of_toList {t : Instant} {text : String} (tail : List Char)
    (ht : text.toList = t.clockText.toList ++ tail) (hf : fraction? tail = some (t.nano, ['Z'])) :
    read? text = some t := by
  obtain ⟨⟨-, hmonth, -, hday⟩, -, -, hhour, hminute, hsecond, -⟩ := t.valid
  have hdays := daysInMonth_lt t.date.year t.date.month
  have hdigits : digits? 2 (skipBlanks ((padded 2 t.hour).toList ++ ':' ::
      ((padded 2 t.minute).toList ++ ':' :: ((padded 2 t.second).toList ++ tail)))) =
        some (t.hour, ':' :: ((padded 2 t.minute).toList ++ ':' ::
          ((padded 2 t.second).toList ++ tail))) := by
    rw [skipBlanks_padded]
    exact digits?_padded (by decide) (by omega) _
  have hoffset : offset? (skipBlanks ['Z']) = some (0, []) := rfl
  rw [read?, ht, toList_clockText]
  simp only [List.append_assoc, List.cons_append, year?_yearText, Option.bind_eq_bind,
    Option.bind_some, part?_padded '-' rfl (show t.date.month < 100 by omega),
    part?_padded '-' rfl (show t.date.day < 100 by omega), hdigits,
    part?_padded ':' rfl (show t.minute < 100 by omega),
    part?_padded ':' rfl (show t.second < 100 by omega), hf, hoffset]
  rw [shifted?_self]
  rfl

theorem read?_fraction {t : Instant} {width n : Nat} (hw : 0 < width) (hl : width ≤ 9)
    (h : n < 10 ^ width) (hn : 10 ^ (9 - width) * n = t.nano) :
    read? (t.clockText ++ "." ++ padded width n ++ "Z") = some t := by
  refine read?_of_toList ('.' :: ((padded width n).toList ++ ['Z'])) (by simp) ?_
  rw [fraction?_padded hw hl h, hn]

/-- What is written of an instant is read back. -/
theorem read?_text (t : Instant) : read? t.text = some t := by
  obtain ⟨-, -, -, -, -, -, hnano⟩ := t.valid
  rw [text]
  split
  · next h => exact read?_of_toList ['Z'] (by simp [seconds]) (by rw [h]; rfl)
  · split
    · exact read?_fraction (by decide) (by decide) (by omega) (by omega)
    · split
      · exact read?_fraction (by decide) (by decide) (by omega) (by omega)
      · exact read?_fraction (by decide) (by decide) (by omega) (by omega)

end Instant

end Proctor
