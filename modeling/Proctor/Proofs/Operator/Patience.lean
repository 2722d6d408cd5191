import Mathlib.Algebra.Order.Field.Basic
import Mathlib.Order.Bounds.Basic
import Mathlib.Tactic.GCongr
import Mathlib.Tactic.NormNum
import Mathlib.Tactic.Ring
import Proctor.Operator.Backoff
import Proctor.Proofs.Time.Span

/-!
# How often a call is repeated

A call is repeated until it succeeds, as often as the attempts allow. So the number of the last call
is the least one that is that of a call that succeeds, or the number of the attempts; and all calls
are made if no attempts are given, then just one. Between two calls, and nowhere else, there is a
pause: after the `n`-th failure it is the `n`-th delay, or as much of it as chance leaves, which is
at least a half. The counter of the failures tells their number exactly, as it never comes to the
end of its word: the attempts are a word as well, and the calls end with them.

## What is left out

A delay is scaled exactly here (`Shortens`). A machine scales it with 53 binary digits and rounds
the product to nanoseconds, so a pause may fall short of the half, or exceed the delay, by what is
rounded; and if the product is rounded up to 2⁶⁴ seconds, which only a delay close to the longest
span can come to, there is no span for it and the program stops. Of time no more is told than the
lengths of the pauses: not how long a call takes, nor that a pause is over when its length has gone
by.
-/

namespace Proctor.Backoff

variable {ε α σ : Type} {b : Backoff} {jitter : Nat → Span → Span} {call : σ → Except ε α × σ}
  {s : σ} {failures : UInt32} {n k : Nat}

/-! ### The calls that there can be -/

/-- The state that so many calls leave. -/
def stateAfter (call : σ → Except ε α × σ) (s : σ) : Nat → σ
  | 0 => s
  | n + 1 => (call (stateAfter call s n)).2

/-- The answer of the call of that number, counted from 1. -/
def answerOf (call : σ → Except ε α × σ) (s : σ) (n : Nat) : Except ε α :=
  (call (stateAfter call s (n - 1))).1

/-- The call of that number succeeds. -/
def Succeeds (call : σ → Except ε α × σ) (s : σ) (n : Nat) : Prop :=
  1 ≤ n ∧ ∃ a, answerOf call s n = .ok a

theorem answerOf_succ (n : Nat) : answerOf call s (n + 1) = (call (stateAfter call s n)).1 := rfl

/-- If no call before it has succeeded, then a call that succeeds or is the last of the attempts is
the one with which the calls end. -/
theorem isLeast_succ {limit : Nat} (hn : n < limit) (hfail : ∀ m ≤ n, ¬ Succeeds call s m)
    (h : n + 1 = limit ∨ Succeeds call s (n + 1)) :
    IsLeast {m | m = limit ∨ Succeeds call s m} (n + 1) := by
  refine ⟨h, ?_⟩
  rintro m (rfl | hm)
  · exact hn
  · exact Nat.lt_of_not_le fun hle => hfail m hle hm

/-! ### One call -/

theorem callFrom_of_ok {a : α} (h : failures < b.limit) (ha : (call s).1 = .ok a) :
    b.callFrom jitter call failures h s = ⟨.ok a, (call s).2, failures, [.call]⟩ := by
  rw [callFrom]
  split
  · next hc =>
    rw [hc] at ha ⊢
    cases ha
    rfl
  · next hc =>
    rw [hc] at ha
    cases ha

theorem callFrom_of_last {e : ε} (h : failures < b.limit) (he : (call s).1 = .error e)
    (hlast : ¬ failures + 1 < b.limit) :
    b.callFrom jitter call failures h s = ⟨.error e, (call s).2, failures + 1, [.call]⟩ := by
  rw [callFrom]
  split
  · next hc =>
    rw [hc] at he
    cases he
  · next hc =>
    rw [hc] at he ⊢
    cases he
    rw [dif_neg hlast]

theorem callFrom_of_more {e : ε} (h : failures < b.limit) (he : (call s).1 = .error e)
    (hmore : failures + 1 < b.limit) :
    b.callFrom jitter call failures h s =
      { b.callFrom jitter call (failures + 1) hmore (call s).2 with
        course := .call :: .pause (jitter failures.toNat (b.delay (failures + 1))) ::
          (b.callFrom jitter call (failures + 1) hmore (call s).2).course } := by
  rw [callFrom]
  split
  · next hc =>
    rw [hc] at he
    cases he
  · next hc =>
    rw [hc] at he ⊢
    cases he
    rw [dif_pos hmore]

/-! ### All calls -/

/-- The pause after a failure, where so many failures were before it. -/
def pauseAfter (b : Backoff) (jitter : Nat → Span → Span) (n : Nat) : Span :=
  jitter n (b.delay (n + 1).toUInt32)

/-- A call with the pause before it. -/
def pausing (p : Span) : List Deed := [.pause p, .call]

/-- What came of the calls that follow the `n`-th, up to the `k`-th. -/
structure EndsWith (b : Backoff) (jitter : Nat → Span → Span) (call : σ → Except ε α × σ) (s : σ)
    (n k : Nat) (r : Calls ε α σ) : Prop where
  /-- There is one at least. -/
  lt : n < k
  /-- The answer is that of the last one. -/
  answer : r.answer = answerOf call s k
  /-- So is the state. -/
  state : r.state = stateAfter call s k
  /-- There is a pause before each of them but the first. -/
  course : r.course =
    .call :: ((List.range' n (k - (n + 1))).map (b.pauseAfter jitter)).flatMap pausing
  /-- Before a success all calls have failed. -/
  failures_ok : ∀ a, r.answer = .ok a → r.failures.toNat = k - 1
  /-- Else all calls have. -/
  failures_error : ∀ e, r.answer = .error e → r.failures.toNat = k

theorem toUInt32_succ_toNat (failures : UInt32) : (failures.toNat + 1).toUInt32 = failures + 1 := by
  rw [Nat.toUInt32_eq, UInt32.ofNat_add, UInt32.ofNat_toNat]
  rfl

/-- The calls after so many failures end with the first one that succeeds, or with the attempts. -/
theorem callFrom_endsWith (left : Nat) (h : failures < b.limit)
    (hleft : failures.toNat + 1 + left = b.limit.toNat)
    (hfail : ∀ m ≤ failures.toNat, ¬ Succeeds call s m) :
    ∃ k, IsLeast {m | m = b.limit.toNat ∨ Succeeds call s m} k ∧
      EndsWith b jitter call s failures.toNat k
        (b.callFrom jitter call failures h (stateAfter call s failures.toNat)) := by
  have hlt : failures.toNat < b.limit.toNat := UInt32.lt_iff_toNat_lt.1 h
  have hsucc : (failures + 1).toNat = failures.toNat + 1 := toNat_succ_of_lt h
  induction left generalizing failures with
  | zero =>
    refine ⟨failures.toNat + 1, isLeast_succ hlt hfail (Or.inl hleft), ?_⟩
    cases hc : (call (stateAfter call s failures.toNat)).1 with
    | ok a =>
      rw [callFrom_of_ok h hc]
      exact ⟨Nat.lt_succ_self _, hc.symm, rfl, by simp, fun _ _ => rfl, nofun⟩
    | error e =>
      have hlast : ¬ failures + 1 < b.limit := by
        rw [UInt32.lt_iff_toNat_lt, hsucc]
        omega
      rw [callFrom_of_last h hc hlast]
      exact ⟨Nat.lt_succ_self _, hc.symm, rfl, by simp, nofun, fun _ _ => hsucc⟩
  | succ left ih =>
    cases hc : (call (stateAfter call s failures.toNat)).1 with
    | ok a =>
      have hs : Succeeds call s (failures.toNat + 1) := ⟨Nat.succ_le_succ (Nat.zero_le _), a, hc⟩
      refine ⟨failures.toNat + 1, isLeast_succ hlt hfail (Or.inr hs), ?_⟩
      rw [callFrom_of_ok h hc]
      exact ⟨Nat.lt_succ_self _, hc.symm, rfl, by simp, fun _ _ => rfl, nofun⟩
    | error e =>
      have hmore : failures + 1 < b.limit := by
        rw [UInt32.lt_iff_toNat_lt, hsucc]
        omega
      have hfail' : ∀ m ≤ (failures + 1).toNat, ¬ Succeeds call s m := by
        intro m hm hs
        rw [hsucc] at hm
        rcases Nat.le_succ_iff.1 hm with hm | rfl
        · exact hfail m hm hs
        · obtain ⟨-, a, ha⟩ := hs
          rw [answerOf_succ, hc] at ha
          cases ha
      obtain ⟨k, hk, hends⟩ := ih hmore (by omega) hfail' (UInt32.lt_iff_toNat_lt.1 hmore)
        (toNat_succ_of_lt hmore)
      rw [hsucc] at hends
      refine ⟨k, hk, ?_⟩
      rw [callFrom_of_more h hc hmore]
      refine ⟨Nat.lt_of_succ_lt hends.lt, hends.answer, hends.state, ?_, hends.failures_ok,
        hends.failures_error⟩
      have hrange : List.range' failures.toNat (k - (failures.toNat + 1)) =
          failures.toNat :: List.range' (failures.toNat + 1) (k - (failures.toNat + 1 + 1)) := by
        rw [← List.range'_succ]
        congr 1
        have := hends.lt
        omega
      have hcourse := hends.course
      simp only [stateAfter] at hcourse
      rw [hrange, hcourse, List.map_cons, List.flatMap_cons, pauseAfter, toUInt32_succ_toNat]
      rfl

/-- Chance shortens a delay by a factor between a half and one. The product is the exact one: it is
not rounded, and as it is no longer than the delay there is always a span for it. -/
def Shortens (jitter : Nat → Span → Span) : Prop :=
  ∀ n d, ∃ factor : ℚ, 1 / 2 ≤ factor ∧ factor ≤ 1 ∧
    ((jitter n d).toNanos : ℚ) = factor * d.toNanos

/-- A number scaled by such a factor lies between the half of it and itself. -/
theorem bounds_of_factor {x y : Nat} {factor : ℚ} (hlow : 1 / 2 ≤ factor) (hhigh : factor ≤ 1)
    (h : (y : ℚ) = factor * x) : x ≤ 2 * y ∧ y ≤ x := by
  have hx : (0 : ℚ) ≤ x := Nat.cast_nonneg x
  have hhalf : (x : ℚ) ≤ 2 * y :=
    calc (x : ℚ) = 2 * (1 / 2 * x) := by ring
      _ ≤ 2 * (factor * x) := by gcongr
      _ = 2 * y := by rw [h]
  have hfull : (y : ℚ) ≤ x := h ▸ mul_le_of_le_one_left hx hhigh
  exact ⟨by exact_mod_cast hhalf, by exact_mod_cast hfull⟩

theorem Shortens.bounds (h : Shortens jitter) (n : Nat) (d : Span) :
    d.toNanos ≤ 2 * (jitter n d).toNanos ∧ (jitter n d).toNanos ≤ d.toNanos := by
  obtain ⟨factor, hlow, hhigh, heq⟩ := h n d
  exact bounds_of_factor hlow hhigh heq

theorem count_call_course (pauses : List Span) :
    (Deed.call :: pauses.flatMap pausing).count .call = pauses.length + 1 := by
  induction pauses with
  | nil => rfl
  | cons p rest ih =>
    rw [List.count_cons_self] at ih ⊢
    rw [List.flatMap_cons, List.count_append, List.length_cons]
    have hp : (pausing p).count .call = 1 := rfl
    omega

/-- How calls are repeated. The number of the last call is the least that is the number of attempts
(or 1, if there are none) or that of a call that succeeds. Its answer is the answer, and if that is
a failure, then all attempts are used. A pause is made between two calls and nowhere else: after the
`n`-th call it is the `n`-th delay, shortened to no less than a half. And the counter tells the
number of failures, so it does not overflow. -/
theorem retry_course (b : Backoff) (hj : Shortens jitter) (call : σ → Except ε α × σ) (s : σ) :
    ∃ (k : Nat) (pauses : List Span),
      IsLeast {n | n = max 1 b.attempts.toNat ∨ Succeeds call s n} k ∧
      (b.retry jitter call s).calls = k ∧
      (b.retry jitter call s).answer = answerOf call s k ∧
      (∀ e, (b.retry jitter call s).answer = .error e → k = max 1 b.attempts.toNat) ∧
      (b.retry jitter call s).state = stateAfter call s k ∧
      (b.retry jitter call s).course =
        .call :: pauses.flatMap (fun p => [.pause p, .call]) ∧
      pauses.length = k - 1 ∧
      (∀ i (hi : i < pauses.length),
        (i + 1).toUInt32.toNat = i + 1 ∧
        (b.delay (i + 1).toUInt32).toNanos ≤ 2 * pauses[i].toNanos ∧
        pauses[i].toNanos ≤ (b.delay (i + 1).toUInt32).toNanos) ∧
      (∀ a, (b.retry jitter call s).answer = .ok a →
        (b.retry jitter call s).failures.toNat = k - 1) ∧
      (∀ e, (b.retry jitter call s).answer = .error e →
        (b.retry jitter call s).failures.toNat = k) := by
  have hleft : (0 : UInt32).toNat + 1 + (b.limit.toNat - 1) = b.limit.toNat := by simp
  have hfail : ∀ m ≤ (0 : UInt32).toNat, ¬ Succeeds call s m := fun m hm hs =>
    absurd (Nat.le_trans hs.1 hm) (by decide)
  obtain ⟨k, hk, hends⟩ : ∃ k, IsLeast {m | m = b.limit.toNat ∨ Succeeds call s m} k ∧
      EndsWith b jitter call s 0 k (b.retry jitter call s) :=
    callFrom_endsWith (b.limit.toNat - 1) b.limit_pos hleft hfail
  rw [toNat_limit] at hk
  have hlength : ((List.range' 0 (k - 1)).map (b.pauseAfter jitter)).length = k - 1 := by simp
  refine ⟨k, (List.range' 0 (k - 1)).map (b.pauseAfter jitter), hk, ?_, hends.answer, ?_,
    hends.state, hends.course, hlength, ?_, hends.failures_ok, hends.failures_error⟩
  · rw [Calls.calls, hends.course, count_call_course, hlength]
    exact Nat.sub_add_cancel hends.lt
  · intro e he
    rcases hk.1 with hk | ⟨-, a, ha⟩
    · exact hk
    · rw [hends.answer, ha] at he
      cases he
  · intro i hi
    have hword : i + 1 < 4294967296 := by
      have hle : k ≤ max 1 b.attempts.toNat := hk.2 (Or.inl rfl)
      have hattempts : b.attempts.toNat < 4294967296 := b.attempts.toNat_lt
      rw [hlength] at hi
      omega
    refine ⟨UInt32.toNat_ofNat_of_lt' hword, ?_⟩
    rw [List.getElem_map, List.getElem_range', Nat.zero_add, Nat.one_mul]
    exact hj.bounds i _

/-- A quarter of each delay is saved. -/
def hasty (_ : Nat) (d : Span) : Span := .ofNanos (d.toNanos - d.toNanos / 4)

theorem shortens_hasty : Shortens hasty := by
  intro n d
  have hlongest : d.toNanos - d.toNanos / 4 ≤ Span.longest.toNanos :=
    Nat.le_trans (Nat.sub_le _ _) d.toNanos_le_longest
  rw [hasty, Span.toNanos_ofNanos hlongest]
  rcases Nat.eq_zero_or_pos d.toNanos with hd | hd
  · exact ⟨1, by norm_num, le_refl _, by simp [hd]⟩
  · have hpos : (0 : ℚ) < d.toNanos := by exact_mod_cast hd
    refine ⟨((d.toNanos - d.toNanos / 4 : Nat) : ℚ) / d.toNanos, ?_, ?_, ?_⟩
    · rw [div_le_div_iff₀ (by norm_num) hpos]
      exact_mod_cast (by omega : 1 * d.toNanos ≤ (d.toNanos - d.toNanos / 4) * 2)
    · rw [div_le_one hpos]
      exact_mod_cast Nat.sub_le _ _
    · rw [div_mul_cancel₀ _ hpos.ne']

/-- A server that answers from the third call on. -/
def lateServer (n : Nat) : Except String Nat × Nat :=
  (if n < 2 then .error "connection refused" else .ok n, n + 1)

/-- As many attempts as there can be. -/
def tireless : Backoff := { install with attempts := 4294967295 }

theorem isLeast_lateServer :
    IsLeast {n | n = max 1 tireless.attempts.toNat ∨ Succeeds lateServer 0 n} 3 := by
  refine ⟨Or.inr ⟨by decide, 2, rfl⟩, ?_⟩
  rintro m (rfl | ⟨hm, a, ha⟩)
  · decide
  · match m, hm, ha with
    | 1, _, ha | 2, _, ha => cases ha
    | m + 3, _, _ => exact Nat.le_add_left 3 m

/-- The server is called three times, with a pause after each of the first two calls. -/
theorem third_call_answered :
    Shortens hasty ∧ (tireless.retry hasty lateServer 0).answer = .ok 2 ∧
    (tireless.retry hasty lateServer 0).failures.toNat = 2 ∧
    ∃ p q : Span, (tireless.retry hasty lateServer 0).course =
        [.call, .pause p, .call, .pause q, .call] ∧
      250000000 ≤ p.toNanos ∧ p.toNanos ≤ 500000000 ∧
      500000000 ≤ q.toNanos ∧ q.toNanos ≤ 1000000000 := by
  obtain ⟨k, pauses, hk, -, hanswer, -, -, hcourse, hlength, hpauses, hfailures, -⟩ :=
    retry_course tireless shortens_hasty lateServer 0
  obtain rfl : k = 3 := hk.unique isLeast_lateServer
  obtain ⟨p, q, rfl⟩ : ∃ p q, pauses = [p, q] := by
    match pauses, hlength with
    | [p, q], _ => exact ⟨p, q, rfl⟩
  have hp := (hpauses 0 (Nat.zero_lt_succ 1)).2
  have hq := (hpauses 1 (Nat.lt_succ_self 1)).2
  have hfirst : (tireless.delay (0 + 1).toUInt32).toNanos = 500000000 := by decide
  have hsecond : (tireless.delay (1 + 1).toUInt32).toNanos = 1000000000 := by decide
  simp only [hfirst, hsecond, List.getElem_cons_zero, List.getElem_cons_succ] at hp hq
  exact ⟨shortens_hasty, hanswer, hfailures _ hanswer, p, q, hcourse, by omega, hp.2, by omega,
    hq.2⟩

end Proctor.Backoff
