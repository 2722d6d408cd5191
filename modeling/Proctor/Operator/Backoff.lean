import Proctor.Time.Span

/-!
# Patience at startup

The API server may not be ready when the controller starts, so the first call is repeated a few
times, with delays that double up to a limit. Each delay is shortened by chance, so that several
controllers do not call at the same moment; the chance is a function that the caller gives. The
failures are counted in a word of 32 bits, which the limit of the attempts keeps from overflowing.
-/

namespace Proctor

/-- How often and how patiently a call is repeated. -/
structure Backoff where
  /-- The calls made before giving up; at least one is made. -/
  attempts : UInt32
  /-- The delay after the first failure. -/
  initial : Span
  /-- The longest delay. -/
  longest : Span
  deriving DecidableEq

namespace Backoff

/-- The schedule for installing the resource definition of Tests. -/
def install : Backoff :=
  { attempts := 5, initial := ⟨0, 500000000, by decide⟩, longest := .ofSecs 8 }

instance : Inhabited Backoff := ⟨install⟩

/-! ### Delays -/

/-- How many times the first delay is waited: doubled per failure, as far as the word goes. -/
def factor (failures : UInt32) : UInt32 :=
  let doublings := failures.toNat - 1
  if doublings < 32 then (1 <<< doublings).toUInt32 else 4294967295

/-- The delay after so many failures in a row, before chance shortens it. -/
def delay (b : Backoff) (failures : UInt32) : Span :=
  (b.initial.times (factor failures)).shorter b.longest

/-! ### Calls -/

/-- What is done until there is an answer. -/
inductive Deed where
  /-- A call is made. -/
  | call
  /-- So much time is let pass. -/
  | pause (length : Span)
  deriving DecidableEq

/-- What came of calls. -/
structure Calls (ε α σ : Type) where
  /-- The answer of the last call. -/
  answer : Except ε α
  /-- The state after it. -/
  state : σ
  /-- The failures counted. -/
  failures : UInt32
  /-- The calls and the pauses, in their order. -/
  course : List Deed

/-- The number of calls made. -/
def Calls.calls {ε α σ : Type} (c : Calls ε α σ) : Nat := c.course.count .call

/-- The calls made before giving up. -/
def limit (b : Backoff) : UInt32 := max 1 b.attempts

@[simp] theorem toNat_limit (b : Backoff) : b.limit.toNat = max 1 b.attempts.toNat := by
  have h : b.limit = if 1 ≤ b.attempts then b.attempts else 1 := rfl
  rw [h]
  split
  · next hle => exact (Nat.max_eq_right (UInt32.le_iff_toNat_le.1 hle)).symm
  · next hgt => exact (Nat.max_eq_left (Nat.le_of_not_le (mt UInt32.le_iff_toNat_le.2 hgt))).symm

theorem limit_pos (b : Backoff) : 0 < b.limit := by
  rw [UInt32.lt_iff_toNat_lt, toNat_limit]
  exact Nat.le_max_left ..

/-- The counter has room for a failure as long as it is below some word. -/
theorem toNat_succ_of_lt {n limit : UInt32} (h : n < limit) : (n + 1).toNat = n.toNat + 1 := by
  have hn : n.toNat < limit.toNat := UInt32.lt_iff_toNat_lt.1 h
  have hlimit : limit.toNat < 2 ^ 32 := limit.toNat_lt
  rw [UInt32.toNat_add]
  exact Nat.mod_eq_of_lt (by simpa using by omega)

/-- Calls until one succeeds, with so many failures counted, fewer than the limit. -/
def callFrom {ε α σ : Type} (b : Backoff) (jitter : Nat → Span → Span)
    (call : σ → Except ε α × σ) (failures : UInt32) (_h : failures < b.limit) (s : σ) :
    Calls ε α σ :=
  match call s with
  | (.ok a, s) => ⟨.ok a, s, failures, [.call]⟩
  | (.error e, s) =>
    if hmore : failures + 1 < b.limit then
      let pause := jitter failures.toNat (b.delay (failures + 1))
      let later := callFrom b jitter call (failures + 1) hmore s
      { later with course := .call :: .pause pause :: later.course }
    else ⟨.error e, s, failures + 1, [.call]⟩
termination_by b.limit.toNat - failures.toNat
decreasing_by
  have hlt : failures.toNat < b.limit.toNat := UInt32.lt_iff_toNat_lt.1 _h
  rw [toNat_succ_of_lt _h]
  omega

/-- Calls until one succeeds or all attempts are used. -/
def retry {ε α σ : Type} (b : Backoff) (jitter : Nat → Span → Span)
    (call : σ → Except ε α × σ) (s : σ) : Calls ε α σ :=
  callFrom b jitter call 0 b.limit_pos s

end Backoff

end Proctor
