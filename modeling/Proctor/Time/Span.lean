/-!
# Spans of time

The length of a delay in whole seconds, which fit a word of 64 bits, and nanoseconds. A product
that does not fit is the longest span there is.
-/

namespace Proctor

/-- A length of time. -/
structure Span where
  /-- Whole seconds. -/
  secs : UInt64
  /-- The nanoseconds beyond them. -/
  nanos : Nat
  /-- There is less than a second of them. -/
  nanos_lt : nanos < 1000000000
  deriving DecidableEq

namespace Span

/-- The length in nanoseconds. -/
def toNanos (s : Span) : Nat := s.secs.toNat * 1000000000 + s.nanos

/-- The longest span. -/
def longest : Span := ⟨18446744073709551615, 999999999, by decide⟩

/-- The span of so many nanoseconds, or the longest one if there are too many. -/
def ofNanos (n : Nat) : Span :=
  if n ≤ longest.toNanos then
    ⟨(n / 1000000000).toUInt64, n % 1000000000, Nat.mod_lt _ (by decide)⟩
  else longest

/-- So many seconds. -/
def ofSecs (n : UInt64) : Span := ⟨n, 0, by decide⟩

instance : Inhabited Span := ⟨ofSecs 0⟩

/-- So many times the span, or the longest one if that is too long. -/
def times (s : Span) (factor : UInt32) : Span := ofNanos (s.toNanos * factor.toNat)

/-- The shorter of two spans. -/
def shorter (a b : Span) : Span := if a.toNanos ≤ b.toNanos then a else b

@[simp] theorem toNanos_ofNanos {n : Nat} (h : n ≤ longest.toNanos) :
    (ofNanos n).toNanos = n := by
  have hl : longest.toNanos = 18446744073709551615 * 1000000000 + 999999999 := by decide
  have hd : n / 1000000000 < 2 ^ 64 := by omega
  rw [ofNanos, if_pos h]
  change (n / 1000000000).toUInt64.toNat * 1000000000 + n % 1000000000 = n
  rw [Nat.toUInt64_eq, UInt64.toNat_ofNat_of_lt' (by simpa using hd)]
  omega

@[simp] theorem toNanos_shorter (a b : Span) :
    (shorter a b).toNanos = min a.toNanos b.toNanos := by
  unfold shorter
  split <;> omega

end Span

end Proctor
