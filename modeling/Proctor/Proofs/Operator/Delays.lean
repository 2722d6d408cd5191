import Proctor.Operator.Backoff
import Proctor.Proofs.Time.Span

/-!
# How long the delays are

After each failure the first delay is waited twice as often as after the one before it, as far as a
word tells how often: up to the 32nd failure this is a power of two, and from the 33rd on it is the
largest word (`Backoff.toNat_factor`). No product wraps around, since one that is too long becomes
the longest span and is then cut at the longest delay (`Backoff.toNanos_delay`). So from one failure
to the next the delay doubles until it meets the longest one, where it stays.
-/

namespace Proctor.Backoff

variable {b : Backoff} {f g : UInt32}

/-! ### How often the first delay is waited -/

/-- How often the first delay is waited after so many failures. -/
def repetitions (failures : Nat) : Nat :=
  if failures ≤ 32 then 2 ^ (max failures 1 - 1) else 2 ^ 32 - 1

theorem toNat_factor (f : UInt32) : (factor f).toNat = repetitions f.toNat := by
  have hmax : max f.toNat 1 - 1 = f.toNat - 1 := by omega
  rw [factor, repetitions, hmax]
  by_cases h : f.toNat ≤ 32
  · have hlt : f.toNat - 1 < 32 := by omega
    have hpow : 2 ^ (f.toNat - 1) < UInt32.size := Nat.pow_lt_pow_right (by decide) hlt
    rw [if_pos hlt, if_pos h, Nat.one_shiftLeft]
    exact UInt32.toNat_ofNat_of_lt' hpow
  · have hge : ¬ f.toNat - 1 < 32 := by omega
    rw [if_neg hge, if_neg h]
    rfl

theorem repetitions_le (n : Nat) : repetitions n ≤ 2 ^ 32 - 1 := by
  rw [repetitions]
  split
  · next h =>
    have hpow : 2 ^ (max n 1 - 1) < 2 ^ 32 := Nat.pow_lt_pow_right (by decide) (by omega)
    omega
  · exact Nat.le_refl _

theorem repetitions_mono {m n : Nat} (h : m ≤ n) : repetitions m ≤ repetitions n := by
  by_cases hn : n ≤ 32
  · rw [repetitions, repetitions, if_pos (Nat.le_trans h hn), if_pos hn]
    exact Nat.pow_le_pow_right (by decide) (by omega)
  · have hlast : repetitions n = 2 ^ 32 - 1 := if_neg hn
    rw [hlast]
    exact repetitions_le m

theorem repetitions_succ {n : Nat} (h : 1 ≤ n) (h' : n ≤ 31) :
    repetitions (n + 1) = 2 * repetitions n := by
  have hsucc : max (n + 1) 1 - 1 = max n 1 - 1 + 1 := by omega
  rw [repetitions, repetitions, if_pos (Nat.succ_le_succ h'), if_pos (Nat.le_succ_of_le h'), hsucc,
    Nat.pow_succ, Nat.mul_comm]

/-! ### Delays -/

theorem toNanos_delay (b : Backoff) (f : UInt32) :
    (b.delay f).toNanos = min b.longest.toNanos (b.initial.toNanos * repetitions f.toNat) := by
  have hlongest := b.longest.toNanos_le_longest
  rw [delay, Span.toNanos_shorter, Span.toNanos_times, toNat_factor]
  omega

theorem toNanos_delay_mono (b : Backoff) (h : f ≤ g) :
    (b.delay f).toNanos ≤ (b.delay g).toNanos := by
  have hproduct : b.initial.toNanos * repetitions f.toNat ≤
      b.initial.toNanos * repetitions g.toNat :=
    Nat.mul_le_mul_left _ (repetitions_mono (UInt32.le_iff_toNat_le.1 h))
  rw [toNanos_delay, toNanos_delay]
  omega

/-- Where one more failure is counted, the delay doubles or meets the longest one. -/
theorem toNanos_delay_succ (b : Backoff) (h : 1 ≤ f) (h' : f ≤ 31) :
    (b.delay (f + 1)).toNanos = min b.longest.toNanos (2 * (b.delay f).toNanos) := by
  have hf : 1 ≤ f.toNat := UInt32.le_iff_toNat_le.1 h
  have hf' : f.toNat ≤ 31 := UInt32.le_iff_toNat_le.1 h'
  have hlt : f < 32 := UInt32.lt_iff_toNat_lt.2 (Nat.lt_succ_of_le hf')
  have hsucc : (f + 1).toNat = f.toNat + 1 := toNat_succ_of_lt hlt
  have hproduct : b.initial.toNanos * repetitions (f.toNat + 1) =
      2 * (b.initial.toNanos * repetitions f.toNat) := by
    rw [repetitions_succ hf hf', Nat.mul_left_comm]
  rw [toNanos_delay, toNanos_delay, hsucc, hproduct]
  omega

/-- How long the delays are. After `f` failures it is the first delay taken `2 ^ (max f 1 - 1)`
times up to the 32nd failure and `2 ^ 32 - 1` times from then on, but at most the longest delay; a
product that the words of a span cannot hold counts as the longest span, and none wraps around. So
no delay is longer than the longest one, they do not get shorter, and from the first failure to the
32nd each is twice the one before it, up to the longest. -/
theorem delay_doubles (b : Backoff) :
    (∀ f, (b.delay f).toNanos = min b.longest.toNanos
      (b.initial.toNanos * if f.toNat ≤ 32 then 2 ^ (max f.toNat 1 - 1) else 2 ^ 32 - 1)) ∧
    (∀ f, b.delay f =
      ((b.initial.carried? (factor f)).getD Span.longest).shorter b.longest) ∧
    (∀ f, (b.delay f).toNanos ≤ b.longest.toNanos) ∧
    (∀ f g, f ≤ g → (b.delay f).toNanos ≤ (b.delay g).toNanos) ∧
    ∀ f, 1 ≤ f → f ≤ 31 →
      (b.delay (f + 1)).toNanos = min b.longest.toNanos (2 * (b.delay f).toNanos) := by
  refine ⟨b.toNanos_delay, fun f => ?_, fun f => ?_, fun f g => b.toNanos_delay_mono,
    fun f => b.toNanos_delay_succ⟩
  · rw [delay, Span.times_eq_carried]
  · rw [toNanos_delay]
    exact Nat.min_le_left _ _

/-- A first delay of more than half of the longest span there is, and no other limit. -/
def vast : Backoff :=
  { attempts := 5, initial := ⟨9223372036854775808, 750000000, by decide⟩, longest := Span.longest }

/-- Twice the first delay is more than a span can hold, so the second delay is the longest span. -/
theorem vast_delays_meet : (1 : UInt32) ≤ 1 ∧ (1 : UInt32) ≤ 31 ∧
    (vast.delay 1).toNanos = 9223372036854775808750000000 ∧
    (vast.delay (1 + 1)).toNanos = Span.longest.toNanos := by
  obtain ⟨hlength, -, -, -, hsucc⟩ := delay_doubles vast
  have hfirst : (vast.delay 1).toNanos = 9223372036854775808750000000 :=
    (hlength 1).trans (by decide)
  refine ⟨by decide, by decide, hfirst, ?_⟩
  rw [hsucc 1 (by decide) (by decide), hfirst]
  decide

end Proctor.Backoff
