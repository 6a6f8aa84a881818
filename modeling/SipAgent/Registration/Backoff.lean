/-!
# Backoff

The delay before a failed registration is tried again: a base, doubled with every failure in a row,
up to a cap. The arithmetic is that of 32-bit words, which stop at their greatest value.
-/

namespace SipAgent

/-- The delays of a series of retries, in seconds. -/
structure Backoff where
  base : UInt32
  cap : UInt32
  multiplier : UInt32
  deriving DecidableEq, Repr

namespace Backoff

/-- The product of two words, or the greatest word if that is smaller. -/
def saturatingMul (a b : UInt32) : UInt32 :=
  if a.toNat * b.toNat < UInt32.size then a * b else 0xffffffff

theorem toNat_saturatingMul (a b : UInt32) :
    (saturatingMul a b).toNat = min (a.toNat * b.toNat) (UInt32.size - 1) := by
  unfold saturatingMul
  split
  · next h => rw [UInt32.toNat_mul, Nat.mod_eq_of_lt h]; omega
  · next h => simp only [UInt32.reduceToNat, UInt32.size] at h ⊢; omega

/-- A series that has not started. -/
def ofBase (base cap : UInt32) : Backoff :=
  ⟨base, cap, 1⟩

/-- The seconds before the next retry. -/
def delay (b : Backoff) : UInt32 :=
  let seconds := saturatingMul b.base b.multiplier
  if seconds < b.cap then seconds else b.cap

/-- The series after one more retry. The multiplier stands still once the cap is reached. -/
def advance (b : Backoff) : Backoff :=
  if b.delay < b.cap then { b with multiplier := saturatingMul b.multiplier 2 } else b

/-- The series from its start. -/
def reset (b : Backoff) : Backoff :=
  { b with multiplier := 1 }

end Backoff

end SipAgent
