import Mathlib.Tactic.Ring
import Proctor.Time.Span

/-!
# The length of a product

A span is told by its length in nanoseconds (`Span.toNanos_inj`), so a product of a span is the span
whose length is the product of the lengths, or the longest one if no span is so long
(`Span.toNanos_times`). On the words that a span is made of, this takes some care. The nanoseconds
beyond the seconds are multiplied apart from these, and whole seconds among them are carried over;
each step of this may leave the range of a word. It is just when no span is so long that one of them
does (`Span.carried?_eq_some_iff`).
-/

namespace Proctor.Span

variable {s t p : Span} {factor : UInt32}

/-! ### Lengths -/

theorem toNanos_mk (secs : UInt64) (nanos : Nat) (h : nanos < 1000000000) :
    (Span.mk secs nanos h).toNanos = secs.toNat * 1000000000 + nanos := rfl

theorem toNanos_longest : longest.toNanos = 18446744073709551615 * 1000000000 + 999999999 := by
  decide

theorem toNanos_le_longest (s : Span) : s.toNanos ≤ longest.toNanos := by
  have hsecs : s.secs.toNat < 18446744073709551616 := s.secs.toNat_lt
  have hnanos := s.nanos_lt
  rw [toNanos_longest, toNanos]
  omega

/-- The whole seconds of a length. -/
theorem toNat_secs (s : Span) : s.secs.toNat = s.toNanos / 1000000000 := by
  have hnanos := s.nanos_lt
  rw [toNanos]
  omega

/-- The nanoseconds of a length beyond its seconds. -/
theorem nanos_eq (s : Span) : s.nanos = s.toNanos % 1000000000 := by
  have hnanos := s.nanos_lt
  rw [toNanos]
  omega

theorem toNanos_inj : s.toNanos = t.toNanos ↔ s = t := by
  constructor
  · intro h
    have hsecs : s.secs = t.secs := UInt64.toNat_inj.1 (by rw [toNat_secs, toNat_secs, h])
    have hnanos : s.nanos = t.nanos := by rw [nanos_eq, nanos_eq, h]
    cases s
    cases t
    cases hsecs
    cases hnanos
    rfl
  · exact congrArg toNanos

theorem toNanos_times (s : Span) (factor : UInt32) :
    (s.times factor).toNanos = min longest.toNanos (s.toNanos * factor.toNat) := by
  rw [times]
  by_cases h : s.toNanos * factor.toNat ≤ longest.toNanos
  · rw [toNanos_ofNanos h, Nat.min_eq_right h]
  · rw [ofNanos, if_neg h, Nat.min_eq_left (Nat.le_of_not_le h)]

/-! ### Words -/

/-- The word of a number, if a word can hold it. -/
def word? (n : Nat) : Option UInt64 := if n < 2 ^ 64 then some n.toUInt64 else none

theorem word?_eq_some_iff {n : Nat} {w : UInt64} : word? n = some w ↔ w.toNat = n := by
  rw [word?]
  split
  · next h =>
    have hword : n.toUInt64.toNat = n := UInt64.toNat_ofNat_of_lt' h
    rw [Option.some.injEq, ← UInt64.toNat_inj, hword, eq_comm]
  · next h =>
    have hw : w.toNat < 2 ^ 64 := w.toNat_lt
    simp only [reduceCtorEq, false_iff]
    rintro rfl
    exact h hw

/-- The product of the nanoseconds beyond the seconds. -/
def spill (s : Span) (factor : UInt32) : UInt64 := s.nanos.toUInt64 * factor.toUInt64

/-- A word always holds this product. -/
theorem toNat_spill (s : Span) (factor : UInt32) :
    (s.spill factor).toNat = s.nanos * factor.toNat := by
  have hnanos : s.nanos.toUInt64.toNat = s.nanos :=
    UInt64.toNat_ofNat_of_lt' (Nat.lt_trans s.nanos_lt (by decide))
  have hlt : s.nanos * factor.toNat < 2 ^ 64 :=
    calc s.nanos * factor.toNat ≤ 1000000000 * factor.toNat :=
          Nat.mul_le_mul_right _ (Nat.le_of_lt s.nanos_lt)
      _ < 1000000000 * 2 ^ 32 := Nat.mul_lt_mul_of_pos_left factor.toNat_lt (by decide)
      _ ≤ 2 ^ 64 := by decide
  rw [spill, UInt64.toNat_mul, hnanos, UInt32.toNat_toUInt64, Nat.mod_eq_of_lt hlt]

/-- So many times the span, computed on its words. The whole seconds in the product of the
nanoseconds are carried over to the product of the seconds; there is no product if a word cannot
hold these. -/
def carried? (s : Span) (factor : UInt32) : Option Span :=
  (word? (s.secs.toNat * factor.toNat)).bind fun whole =>
    (word? (whole.toNat + (s.spill factor / 1000000000).toNat)).map fun secs =>
      ⟨secs, (s.spill factor % 1000000000).toNat, by
        rw [UInt64.toNat_mod]
        exact Nat.mod_lt _ (by decide)⟩

/-- The words give the product just if there is a span that is so long. -/
theorem carried?_eq_some_iff :
    s.carried? factor = some p ↔ p.toNanos = s.toNanos * factor.toNat := by
  have hlength : s.toNanos * factor.toNat =
      s.secs.toNat * factor.toNat * 1000000000 + s.nanos * factor.toNat := by
    rw [toNanos]
    ring
  have hcarry : (s.spill factor / 1000000000).toNat = s.nanos * factor.toNat / 1000000000 := by
    rw [UInt64.toNat_div, toNat_spill]
    rfl
  have hrest : (s.spill factor % 1000000000).toNat = s.nanos * factor.toNat % 1000000000 := by
    rw [UInt64.toNat_mod, toNat_spill]
    rfl
  simp only [carried?, Option.bind_eq_some_iff, Option.map_eq_some_iff, word?_eq_some_iff,
    hcarry, ← toNanos_inj]
  rw [hlength]
  constructor
  · rintro ⟨whole, hwhole, secs, hsecs, hp⟩
    rw [← hp, toNanos_mk, hsecs, hwhole, hrest]
    omega
  · intro h
    have hsecs := p.toNat_secs
    have hlt : p.secs.toNat < UInt64.size := p.secs.toNat_lt
    rw [h] at hsecs
    obtain ⟨whole, hwhole⟩ : ∃ whole : UInt64, whole.toNat = s.secs.toNat * factor.toNat :=
      ⟨_, UInt64.toNat_ofNat_of_lt' (by omega)⟩
    refine ⟨whole, hwhole, p.secs, by omega, ?_⟩
    rw [h, toNanos_mk, hsecs, hrest]
    omega

/-- A product is what the words give, or the longest span if they give nothing. -/
theorem times_eq_carried (s : Span) (factor : UInt32) :
    s.times factor = (s.carried? factor).getD longest := by
  rw [← toNanos_inj, toNanos_times]
  cases h : s.carried? factor with
  | some p =>
    rw [← carried?_eq_some_iff.1 h]
    exact Nat.min_eq_right p.toNanos_le_longest
  | none =>
    refine Nat.min_eq_left (Nat.le_of_not_le fun hle => ?_)
    have hp := carried?_eq_some_iff.2 (toNanos_ofNanos hle)
    rw [h] at hp
    cases hp

end Proctor.Span
