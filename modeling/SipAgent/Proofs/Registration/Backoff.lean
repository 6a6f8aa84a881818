import Mathlib.Algebra.Group.Nat.Defs
import Mathlib.Logic.Function.Iterate
import SipAgent.Registration.Backoff

/-!
# Delays that are doubled

The delay before a retry is the base, doubled for every retry since the series last started over, up
to the cap (`Backoff.delay_of_uses`). Words stop at their greatest value, and the multiplier stands
still once the cap is reached. A `Reckoning` is a series in natural numbers that need not observe
these limits, and its delays are the same: no limit is met before the cap.
-/

namespace SipAgent

/-! ### Series with fewer limits -/

/-- The limits that a series may observe. -/
structure Limits where
  /-- The product of base and multiplier stops at the greatest word. -/
  product : Bool
  /-- So does the multiplier when it is doubled. -/
  doubling : Bool
  /-- The multiplier stands still once the cap is reached. -/
  standstill : Bool

/-- Every limit is observed. -/
def Limits.all : Limits :=
  ⟨true, true, true⟩

/-- A number that stops at the greatest word if it is limited. -/
def saturated (limited : Bool) (n : ℕ) : ℕ :=
  if limited then min n (UInt32.size - 1) else n

lemma saturated_eq_or (limited : Bool) (n : ℕ) :
    saturated limited n = n ∨ saturated limited n = 2 ^ 32 - 1 ∧ 2 ^ 32 - 1 ≤ n := by
  have hsize : UInt32.size = 2 ^ 32 := rfl
  unfold saturated
  split <;> omega

/-- A series of retries in natural numbers. -/
structure Reckoning where
  base : ℕ
  cap : ℕ
  multiplier : ℕ

namespace Reckoning

variable {limits : Limits} {r : Reckoning} {base cap n : ℕ}

/-- A series that has not started. -/
def ofBase (base cap : ℕ) : Reckoning :=
  ⟨base, cap, 1⟩

/-- The delay before the next retry. -/
def delay (limits : Limits) (r : Reckoning) : ℕ :=
  min (saturated limits.product (r.base * r.multiplier)) r.cap

/-- The series after one more retry. -/
def advance (limits : Limits) (r : Reckoning) : Reckoning :=
  if limits.standstill ∧ r.cap ≤ r.delay limits then r
  else { r with multiplier := saturated limits.doubling (r.multiplier * 2) }

/-- The series from its start. -/
def reset (r : Reckoning) : Reckoning :=
  { r with multiplier := 1 }

/-- The product of base and multiplier is not limited before the cap. -/
lemma delay_eq (hcap : r.cap < 2 ^ 32) (limits : Limits) :
    r.delay limits = min (r.base * r.multiplier) r.cap := by
  unfold delay
  rcases saturated_eq_or limits.product (r.base * r.multiplier) with heq | ⟨heq, hle⟩
  · rw [heq]
  · rw [heq]
    omega

/-- The multiplier has been doubled `n` times, or as often as matters. -/
structure Doubled (base cap n : ℕ) (r : Reckoning) : Prop where
  base_eq : r.base = base
  cap_eq : r.cap = cap
  le : r.multiplier ≤ 2 ^ n
  doubled : r.multiplier = 2 ^ n ∨ cap ≤ base * r.multiplier ∨ base = 0

namespace Doubled

lemma ofBase (base cap : ℕ) : Doubled base cap 0 (.ofBase base cap) :=
  ⟨rfl, rfl, Nat.le_refl 1, .inl rfl⟩

lemma reset (h : Doubled base cap n r) : Doubled base cap 0 r.reset :=
  ⟨h.base_eq, h.cap_eq, Nat.le_refl 1, .inl rfl⟩

lemma advance (h : Doubled base cap n r) (hcap : cap < 2 ^ 32) (limits : Limits) :
    Doubled base cap (n + 1) (r.advance limits) := by
  have hle := h.le
  have hpower : 2 ^ (n + 1) = 2 ^ n * 2 := Nat.pow_succ 2 n
  unfold Reckoning.advance
  split
  · next hstands =>
    rw [delay_eq (h.cap_eq ▸ hcap), h.base_eq, h.cap_eq] at hstands
    exact ⟨h.base_eq, h.cap_eq, by omega, .inr (.inl (by omega))⟩
  · rcases saturated_eq_or limits.doubling (r.multiplier * 2) with heq | ⟨heq, hlarge⟩ <;>
      rw [heq]
    · have hproduct : base * (r.multiplier * 2) = base * r.multiplier * 2 :=
        (Nat.mul_assoc _ _ _).symm
      refine ⟨h.base_eq, h.cap_eq, ?_, ?_⟩ <;> dsimp only
      · omega
      · rcases h.doubled with heq | hreached | hzero
        · exact .inl (by omega)
        · exact .inr (.inl (by omega))
        · exact .inr (.inr hzero)
    · refine ⟨h.base_eq, h.cap_eq, ?_, .inr ?_⟩ <;> dsimp only
      · omega
      -- any base brings the greatest word to the cap
      · rcases Nat.eq_zero_or_pos base with hzero | hpos
        · exact .inr hzero
        · have hword : 1 * (2 ^ 32 - 1) ≤ base * (2 ^ 32 - 1) := Nat.mul_le_mul_right _ hpos
          exact .inl (by omega)

/-- So the delay is the base, doubled as often, up to the cap. -/
lemma delay (h : Doubled base cap n r) (hcap : cap < 2 ^ 32) (limits : Limits) :
    r.delay limits = min (base * 2 ^ n) cap := by
  rw [delay_eq (h.cap_eq ▸ hcap), h.base_eq, h.cap_eq]
  rcases h.doubled with heq | hreached | hzero
  · rw [heq]
  · have hpower : base * r.multiplier ≤ base * 2 ^ n := Nat.mul_le_mul_left _ h.le
    omega
  · rw [hzero, Nat.zero_mul, Nat.zero_mul]

end Doubled

end Reckoning

/-! ### The same in words -/

namespace Backoff

variable {b : Backoff} {base cap : UInt32} {n : ℕ}

/-- What the words of a series stand for. -/
def reckoning (b : Backoff) : Reckoning :=
  ⟨b.base.toNat, b.cap.toNat, b.multiplier.toNat⟩

lemma toNat_delay (b : Backoff) : b.delay.toNat = b.reckoning.delay .all := by
  have hproduct := toNat_saturatingMul b.base b.multiplier
  unfold delay Reckoning.delay
  dsimp only [reckoning, Limits.all, saturated]
  rw [if_pos rfl, ← hproduct]
  split
  · next hlt =>
    rw [UInt32.lt_iff_toNat_lt] at hlt
    omega
  · next hle =>
    rw [UInt32.lt_iff_toNat_lt] at hle
    omega

lemma reckoning_advance (b : Backoff) : b.advance.reckoning = b.reckoning.advance .all := by
  have hdoubled := toNat_saturatingMul b.multiplier 2
  unfold advance Reckoning.advance
  rw [← toNat_delay]
  split
  · next hlt =>
    rw [UInt32.lt_iff_toNat_lt] at hlt
    rw [if_neg fun hstands => Nat.not_le.mpr hlt hstands.2]
    simp only [reckoning, hdoubled]
    rfl
  · next hle =>
    rw [UInt32.lt_iff_toNat_lt] at hle
    rw [if_pos ⟨rfl, Nat.not_lt.mp hle⟩]

/-- A series after some retries. -/
def later (base cap : UInt32) (n : ℕ) : Backoff :=
  advance^[n] (ofBase base cap)

@[simp] lemma later_zero (base cap : UInt32) : later base cap 0 = ofBase base cap := rfl

lemma advance_later (base cap : UInt32) (n : ℕ) :
    (later base cap n).advance = later base cap (n + 1) := by
  rw [later, later, Function.iterate_succ_apply']

lemma reset_eq (b : Backoff) : b.reset = ofBase b.base b.cap := rfl

lemma advance_base (b : Backoff) : b.advance.base = b.base := by
  unfold advance
  split <;> rfl

lemma advance_cap (b : Backoff) : b.advance.cap = b.cap := by
  unfold advance
  split <;> rfl

lemma doubled_later (base cap : UInt32) (n : ℕ) :
    (later base cap n).reckoning.Doubled base.toNat cap.toNat n := by
  induction n with
  | zero => exact .ofBase _ _
  | succ n ih =>
    rw [← advance_later, reckoning_advance]
    exact ih.advance cap.toNat_lt .all

/-- The delay doubles with every retry, up to the cap. -/
lemma delay_later (base cap : UInt32) (n : ℕ) :
    (later base cap n).delay.toNat = min (base.toNat * 2 ^ n) cap.toNat := by
  rw [toNat_delay]
  exact (doubled_later base cap n).delay cap.toNat_lt .all

/-! ### Any use of a series -/

/-- What is done with a series. -/
inductive Use where
  /-- The next delay is taken. -/
  | retry
  /-- The series starts over. -/
  | reset
  deriving DecidableEq, Repr

/-- The number of retries since the series last started over, after one more use. -/
def Use.count (n : ℕ) : Use → ℕ
  | retry => n + 1
  | reset => 0

/-- The series after one more use. -/
def use (b : Backoff) : Use → Backoff
  | .retry => b.advance
  | .reset => b.reset

end Backoff

/-- The series after one more use. -/
def Reckoning.use (limits : Limits) (r : Reckoning) : Backoff.Use → Reckoning
  | .retry => r.advance limits
  | .reset => r.reset

lemma Reckoning.Doubled.foldl_use {r : Reckoning} {base cap n : ℕ} (h : r.Doubled base cap n)
    (hcap : cap < 2 ^ 32) (limits : Limits) (uses : List Backoff.Use) :
    (uses.foldl (Reckoning.use limits) r).Doubled base cap (uses.foldl Backoff.Use.count n) := by
  induction uses generalizing r n with
  | nil => exact h
  | cons use more ih =>
    cases use with
    | retry => exact ih (h.advance hcap limits)
    | reset => exact ih h.reset

namespace Backoff

lemma reckoning_foldl_use (b : Backoff) (uses : List Use) :
    (uses.foldl use b).reckoning = uses.foldl (Reckoning.use .all) b.reckoning := by
  induction uses generalizing b with
  | nil => rfl
  | cons u more ih =>
    cases u with
    | retry =>
      rw [List.foldl_cons, List.foldl_cons, ih]
      exact congrArg (more.foldl (Reckoning.use .all)) (reckoning_advance b)
    | reset => exact ih b.reset

/-- Whatever has been done with a series, its next delay is the base, doubled for every retry since
it last started over, up to the cap, in exact arithmetic. So it is no longer than the one after it
if the series does not start over in between, and no limit makes a difference: with any of them left
out the delay is the same. -/
theorem delay_of_uses (base cap : UInt32) (uses : List Use) :
    let b := uses.foldl use (ofBase base cap)
    b.delay.toNat = min (base.toNat * 2 ^ uses.foldl Use.count 0) cap.toNat ∧
      b.delay ≤ b.advance.delay ∧
      ∀ limits : Limits,
        (uses.foldl (Reckoning.use limits) (.ofBase base.toNat cap.toNat)).delay limits =
          b.delay.toNat := by
  intro b
  have hcap := cap.toNat_lt
  have hstart := Reckoning.Doubled.ofBase base.toNat cap.toNat
  have hb : b.reckoning.Doubled base.toNat cap.toNat (uses.foldl Use.count 0) := by
    rw [reckoning_foldl_use]
    exact hstart.foldl_use hcap .all uses
  have hdelay := b.toNat_delay.trans (hb.delay hcap .all)
  have hnext := b.advance.toNat_delay
  rw [reckoning_advance, (hb.advance hcap .all).delay hcap] at hnext
  refine ⟨hdelay, ?_, fun limits => ?_⟩
  · have hpower : base.toNat * 2 ^ uses.foldl Use.count 0 ≤
        base.toNat * 2 ^ (uses.foldl Use.count 0 + 1) :=
      Nat.mul_le_mul_left _ (Nat.pow_le_pow_right Nat.two_pos (Nat.le_succ _))
    rw [UInt32.le_iff_toNat_le]
    omega
  · rw [hdelay]
    exact (hstart.foldl_use hcap limits uses).delay hcap limits

end Backoff

end SipAgent
