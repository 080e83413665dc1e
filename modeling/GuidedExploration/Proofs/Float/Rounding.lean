import Mathlib

/-!
Rounding to 53 bits. The mantissa is divided by a power of two and the quotient is taken or the
number above it; the one above only when the remainder is half the divisor at least.
-/

set_option autoImplicit false

namespace GuidedExploration.Binary64

open Float.Model
open Float.Model.UnpackedFloat (Sign Accuracy ExtendedMantissa roundWithAccuracy
  shiftToTargetExponent)
open Float.Model.UnpackedFloat.ExtendedMantissa (ofMantissaAndAccuracy)

/-! ## Shifting -/

theorem mantissa_shiftRight (m : ExtendedMantissa) (k : Nat) :
    (m >>> k).mantissa = m.mantissa / 2 ^ k := by
  induction k with
  | zero => exact (Nat.div_one _).symm
  | succ k ih =>
    change (m >>> k).mantissa / 2 = _
    rw [ih, Nat.div_div_eq_div_mul, pow_succ]

theorem half_le_of_roundBit {m k : Nat}
    (one : ((⟨m, false, false⟩ : ExtendedMantissa) >>> k).roundBit = true) :
    2 ^ k ≤ 2 * (m % 2 ^ k) := by
  cases k with
  | zero => cases one
  | succ k =>
    -- The bit that is shifted out last is the highest one of the remainder.
    have bit : (((⟨m, false, false⟩ : ExtendedMantissa) >>> k).mantissa % 2 != 0) = true := one
    rw [mantissa_shiftRight, bne_iff_ne] at bit
    have split : m % 2 ^ (k + 1) = m % 2 ^ k + 2 ^ k * (m / 2 ^ k % 2) := by
      rw [pow_succ, Nat.mod_mul]
    have odd : m / 2 ^ k % 2 = 1 := by
      change m / 2 ^ k % 2 ≠ 0 at bit
      omega
    rw [split, odd, pow_succ]
    omega

theorem le_roundedMantissa (m : ExtendedMantissa) : m.mantissa ≤ m.roundedMantissa := by
  rcases m with ⟨m, _ | _, _ | _⟩ <;>
    simp [ExtendedMantissa.roundedMantissa, ExtendedMantissa.accuracy, Accuracy.roundToNearestEven]

theorem roundedMantissa_le (m : ExtendedMantissa) : m.roundedMantissa ≤ m.mantissa + 1 := by
  rcases m with ⟨m, _ | _, _ | _⟩ <;>
    simp [ExtendedMantissa.roundedMantissa, ExtendedMantissa.accuracy, Accuracy.roundToNearestEven]
  omega

theorem roundedMantissa_of_roundBit_eq_false {m : ExtendedMantissa} (zero : m.roundBit = false) :
    m.roundedMantissa = m.mantissa := by
  rcases m with ⟨m, _ | _, _ | _⟩
  · rfl
  · rfl
  · cases zero
  · cases zero

theorem roundedMantissa_shiftRight_le (m k : Nat) :
    2 * (((⟨m, false, false⟩ : ExtendedMantissa) >>> k).roundedMantissa * 2 ^ k) ≤ 2 * m + 2 ^ k := by
  have quotient := mantissa_shiftRight ⟨m, false, false⟩ k
  have whole := Nat.div_add_mod m (2 ^ k)
  cases bit : ((⟨m, false, false⟩ : ExtendedMantissa) >>> k).roundBit with
  | false =>
    rw [roundedMantissa_of_roundBit_eq_false bit, quotient, Nat.mul_comm (m / 2 ^ k)]
    omega
  | true =>
    have half := half_le_of_roundBit bit
    have above := roundedMantissa_le ((⟨m, false, false⟩ : ExtendedMantissa) >>> k)
    rw [quotient] at above
    calc 2 * (((⟨m, false, false⟩ : ExtendedMantissa) >>> k).roundedMantissa * 2 ^ k)
        ≤ 2 * ((m / 2 ^ k + 1) * 2 ^ k) := Nat.mul_le_mul_left 2 (Nat.mul_le_mul_right _ above)
      _ = 2 * (2 ^ k * (m / 2 ^ k)) + 2 * 2 ^ k := by ring
      _ ≤ 2 * m + 2 ^ k := by omega

/-! ## Rounding -/

def target (m : Nat) (e : Int) : Int := max (m.log2 + e - 52) (-1074)

def shift (m : Nat) (e : Int) : Nat := (target m e - e).toNat

theorem targetExponent_eq (total : Int) :
    Format.binary64.targetExponent total = max (total - 53) (-1074) := by
  have least : Format.binary64.minExponent = -1074 := by decide
  rw [Format.targetExponent, least]
  rfl

theorem targetExponent_totalExponent (m : Nat) (e : Int) :
    Format.binary64.targetExponent (totalExponent m e) = target m e := by
  rw [targetExponent_eq, totalExponent, target]
  omega

theorem shiftToTargetExponent_eq (m : Nat) (e : Int) (accuracy : Accuracy) :
    shiftToTargetExponent .binary64 m e accuracy =
      (ofMantissaAndAccuracy m accuracy >>> shift m e, e + shift m e) := by
  simp only [shiftToTargetExponent, targetExponent_totalExponent, UnpackedFloat.shiftToExponent,
    shift]

theorem mantissa_ofMantissaAndAccuracy (m : Nat) (accuracy : Accuracy) :
    (ofMantissaAndAccuracy m accuracy).mantissa = m := by
  rcases accuracy with _ | _ | _ | _ <;> rfl

theorem div_lt (m : Nat) (e : Int) : m / 2 ^ shift m e < 2 ^ 53 := by
  rw [Nat.div_lt_iff_lt_mul (by positivity), ← pow_add]
  refine lt_of_lt_of_le Nat.lt_log2_self (Nat.pow_le_pow_right (by decide) ?_)
  simp only [shift, target]
  omega

/-- A rounded mantissa that has grown by one bit is halved. -/
def settled (sign : Sign) (r : Nat) (e : Int) : UnpackedFloat :=
  if zero : r = 0 then .zero sign
  else if r < 2 ^ 53 then .finite sign r e (Nat.pos_of_ne_zero zero)
  else .finite sign (2 ^ 52) (e + 1) (by decide)

theorem log2_le_of_lt {m : Nat} (small : m < 2 ^ 53) : m.log2 ≤ 52 := by
  rcases eq_or_ne m 0 with rfl | positive
  · decide
  · exact Nat.le_of_lt_succ ((Nat.log2_lt positive).2 small)

theorem shift_eq_zero {r : Nat} {e : Int} (small : r < 2 ^ 53) (least : -1074 ≤ e) :
    shift r e = 0 := by
  have bits := log2_le_of_lt small
  simp only [shift, target]
  omega

theorem shift_carry {e : Int} (least : -1074 ≤ e) : shift (2 ^ 53) e = 1 := by
  simp only [shift, target, Nat.log2_two_pow]
  omega

/-- What rounding gives: the quotient or the number above it, the one above an exact mantissa only
when that is near enough. -/
theorem roundWithAccuracy_eq (sign : Sign) (m : Nat) (e : Int) (accuracy : Accuracy) :
    ∃ r, m / 2 ^ shift m e ≤ r ∧ r ≤ m / 2 ^ shift m e + 1 ∧
      (accuracy = .exact → 2 * (r * 2 ^ shift m e) ≤ 2 * m + 2 ^ shift m e) ∧
      roundWithAccuracy .binary64 sign m e accuracy = settled sign r (e + shift m e) := by
  have quotient := mantissa_shiftRight (ofMantissaAndAccuracy m accuracy) (shift m e)
  rw [mantissa_ofMantissaAndAccuracy] at quotient
  have below := le_roundedMantissa (ofMantissaAndAccuracy m accuracy >>> shift m e)
  have above := roundedMantissa_le (ofMantissaAndAccuracy m accuracy >>> shift m e)
  rw [quotient] at below above
  refine ⟨_, below, above, ?_, ?_⟩
  · rintro rfl
    exact roundedMantissa_shiftRight_le m (shift m e)
  · rw [roundWithAccuracy, shiftToTargetExponent_eq]
    dsimp only
    generalize (ofMantissaAndAccuracy m accuracy >>> shift m e).roundedMantissa = r
      at above
    have least : -1074 ≤ e + shift m e := by
      simp only [shift, target]
      omega
    have fits := div_lt m e
    rw [shiftToTargetExponent_eq, settled]
    dsimp only
    rw [mantissa_shiftRight, mantissa_ofMantissaAndAccuracy]
    -- Only the carry out of the highest bit makes a second shift.
    by_cases small : r < 2 ^ 53
    · rw [shift_eq_zero small least]
      simp only [small, if_true, pow_zero, Nat.div_one, Nat.cast_zero, add_zero]
    · have carry : r = 2 ^ 53 := by omega
      subst carry
      rw [shift_carry least]
      simp

theorem roundWithAccuracy_of_dvd (sign : Sign) {m : Nat} {e : Int} (whole : 2 ^ shift m e ∣ m) :
    roundWithAccuracy .binary64 sign m e .exact =
      settled sign (m / 2 ^ shift m e) (e + shift m e) := by
  obtain ⟨r, below, -, near, rounded⟩ := roundWithAccuracy_eq sign m e .exact
  have product := Nat.div_mul_cancel whole
  -- The number above the quotient is a whole unit away, more than the half that is allowed.
  have above : r ≤ m / 2 ^ shift m e := by
    by_contra larger
    have step := Nat.mul_le_mul_right (2 ^ shift m e) (by omega : m / 2 ^ shift m e + 1 ≤ r)
    have unit : 0 < 2 ^ shift m e := by positivity
    have := near rfl
    rw [Nat.add_mul, product] at step
    omega
  rw [rounded, le_antisymm above below]

end GuidedExploration.Binary64
