import Mathlib
import GuidedExploration.Decimal.Shortest

/-!
How far the shortest decimal of a number can lie above it: by half the gap to the next number.
-/

set_option autoImplicit false

namespace GuidedExploration.Decimal

def Unsigned.value (d : Unsigned) : ℚ := d.coefficient * 10 ^ d.exponent

def Magnitude.upper (x : Magnitude) : ℚ := (4 * x.mantissa + 2 : Nat) * 2 ^ (x.exponent - 2)

theorem Interval.holds_of_pick? {tie : Tie} {i : Interval} {c : Nat}
    (picked : i.pick? tie = some c) : i.holds c = true := by
  unfold pick? at picked
  dsimp only at picked
  split_ifs at picked with nearest below above
  · cases picked
    exact nearest
  · cases picked
    exact below
  · cases picked
    exact above

theorem Interval.le_high_of_holds {i : Interval} {c : Nat} (inside : i.holds c = true) :
    c * i.step ≤ i.high := by
  unfold holds at inside
  dsimp only at inside
  split_ifs at inside with closed
  · simp only [Bool.and_eq_true, decide_eq_true_eq] at inside
    exact inside.2
  · simp only [Bool.and_eq_true, decide_eq_true_eq] at inside
    exact inside.2.le

-- A grid keeps its numbers whole: a power stands on the other side where its exponent is negative.
theorem pow_toNat_eq {base : ℚ} (nonzero : base ≠ 0) (n : Int) :
    base ^ n.toNat = base ^ n * base ^ (-n).toNat := by
  rcases le_total 0 n with up | down
  · rw [show (-n).toNat = 0 by omega, pow_zero, mul_one, ← zpow_natCast, Int.toNat_of_nonneg up]
  · rw [show n.toNat = 0 by omega, pow_zero, ← zpow_natCast, Int.toNat_of_nonneg (by omega),
      ← zpow_add₀ nonzero, add_neg_cancel, zpow_zero]

theorem value_le_of_onGrid {x : Magnitude} {e : Int} {c : Nat}
    (inside : c * (Interval.onGrid x e).step ≤ (Interval.onGrid x e).high) :
    (⟨c, e⟩ : Unsigned).value ≤ x.upper := by
  have scaled : (c : ℚ) * (2 ^ (-(x.exponent - 2)).toNat * 10 ^ e.toNat) ≤
      (4 * x.mantissa + 2 : Nat) * (2 ^ (x.exponent - 2).toNat * 10 ^ (-e).toNat) := by
    exact_mod_cast inside
  rw [pow_toNat_eq (by norm_num) (x.exponent - 2), pow_toNat_eq (by norm_num) e] at scaled
  have unit : (0 : ℚ) < 2 ^ (-(x.exponent - 2)).toNat * 10 ^ (-e).toNat := by positivity
  refine le_of_mul_le_mul_right ?_ unit
  rw [Unsigned.value, Magnitude.upper]
  linarith

theorem value_le_of_searchFrom {tie : Tie} {x : Magnitude} {fuel : Nat} {e : Int} {d : Unsigned}
    (found : searchFrom tie x fuel e = some d) : d.value ≤ x.upper := by
  induction fuel generalizing e with
  | zero => cases found
  | succ fuel ih =>
    unfold searchFrom at found
    split at found
    · next c picked =>
      cases found
      exact value_le_of_onGrid (Interval.le_high_of_holds (Interval.holds_of_pick? picked))
    · exact ih found

theorem value_exactly (x : Magnitude) : (exactly x).value = x.mantissa * 2 ^ x.exponent := by
  unfold exactly
  split_ifs with whole
  · rw [Unsigned.value, Nat.pow_eq]
    push_cast
    rw [mul_one, ← zpow_natCast, Int.toNat_of_nonneg whole]
  · have ten : (10 : ℚ) ^ x.exponent = 2 ^ x.exponent * 5 ^ x.exponent := by
      rw [← mul_zpow]
      norm_num
    have five : (5 : ℚ) ^ (-x.exponent).toNat * 5 ^ x.exponent = 1 := by
      rw [← zpow_natCast, Int.toNat_of_nonneg (by omega), ← zpow_add₀ (by norm_num),
        neg_add_cancel, zpow_zero]
    rw [Unsigned.value, ten, Nat.pow_eq]
    push_cast
    linear_combination (x.mantissa : ℚ) * 2 ^ x.exponent * five

theorem value_shortest_le (tie : Tie) (x : Magnitude) : (shortest tie x).value ≤ x.upper := by
  unfold shortest
  split_ifs with zero
  · rw [Unsigned.value, Nat.cast_zero, zero_mul]
    exact mul_nonneg (Nat.cast_nonneg _) (zpow_pos (by norm_num) _).le
  · cases found : searchFrom tie x 24 x.exponentBound with
    | some d => exact value_le_of_searchFrom found
    | none =>
      have quarter : (2 : ℚ) ^ x.exponent = 4 * 2 ^ (x.exponent - 2) := by
        rw [zpow_sub₀ (by norm_num)]
        norm_num
        ring
      have unit : (0 : ℚ) < 2 ^ (x.exponent - 2) := zpow_pos (by norm_num) _
      rw [Option.getD_none, value_exactly, Magnitude.upper, quarter]
      push_cast
      linarith

end GuidedExploration.Decimal
