import Mathlib
import GuidedExploration.Json.Float
import GuidedExploration.Proofs.Float.Integers

/-!
Scaling by powers of ten. What is collected from the literal of a number below the largest one is
not scaled to an infinity, though both the significand and the power of ten are rounded.
-/

set_option autoImplicit false

namespace GuidedExploration.Json.Number

open Binary64
open Float.Model (UnpackedFloat)
open Float.Model.UnpackedFloat (roundWithAccuracy)

/-! ## Powers of ten -/

def isExactly (u : UnpackedFloat) (s : Nat) : Bool :=
  match u with
  | .finite .positive m e _ =>
    decide (2 ^ 52 ≤ m) && decide (-52 ≤ e) && decide (m * 2 ^ (e + 52).toNat = s * 2 ^ 52) &&
      decide (0 < s) && decide (s ≤ above (s.log2 - 52) s)
  | _ => false

theorem represents_of_isExactly {x : Float} {s : Nat}
    (same : isExactly x.toModel.unpack s = true) : Represents x s := by
  unfold isExactly at same
  split at same
  · next m e positive found =>
    simp only [Bool.and_eq_true, decide_eq_true_eq] at same
    obtain ⟨⟨⟨⟨normal, least⟩, product⟩, filled⟩, cut⟩ := same
    have value : size m e = s := by
      have scaled : (m : ℚ) * 2 ^ (e + 52).toNat = s * 2 ^ 52 := by exact_mod_cast product
      have exponent : e = ((e + 52).toNat : Int) - (52 : Nat) := by omega
      rw [size, exponent, zpow_sub₀ (by norm_num), zpow_natCast, zpow_natCast, ← mul_div_assoc,
        scaled]
      field_simp
    refine ⟨m, e, positive, found, normal, ?_, ?_⟩
    · rw [value]
      exact_mod_cast Nat.log2_self_le filled.ne'
    · rw [value]
      exact_mod_cast cut
  · cases same

theorem isExactly_powerOfTen :
    ∀ n < 23, isExactly (powerOfTen n).toModel.unpack (10 ^ n) = true := by
  decide +kernel

theorem unpack_powerOfTen {n : Nat} (large : 22 < n) (bounded : n ≤ 308) :
    (powerOfTen n).toModel.unpack =
      repacked (roundWithAccuracy .binary64 .positive (10 ^ n <<< 53) (-53) .exact) := by
  have range : (2 : Int) ^ Float.Model.Format.binary64.exponentBits = 2048 := by rfl
  rw [powerOfTen, Float.ofScientific, dif_neg (by omega)]
  change repacked (.ofScientific .binary64 1 (n : Int)) = _
  rw [UnpackedFloat.ofScientific, dif_neg (by decide), if_neg (by omega), if_neg (by omega),
    if_pos (by omega)]
  change repacked (roundWithAccuracy .binary64 (.positive * .positive) (1 <<< 53 * 10 ^ n) (-53 + 0)
    .exact) = _
  rw [Nat.shiftLeft_eq, Nat.shiftLeft_eq, Nat.one_mul, Nat.mul_comm]
  rfl

theorem log2_power :
    ∀ n < 309, (10 ^ n).log2 ≤ 1022 ∨ (10 ^ n).log2 = 1023 ∧ 2 * 10 ^ n + 2 ^ 971 < 2 ^ 1025 := by
  decide +kernel

theorem represents_powerOfTen {n : Nat} (bounded : n ≤ 308) :
    Represents (powerOfTen n) (10 ^ n) := by
  by_cases small : n < 23
  -- The short powers are taken from a table, the others are rounded once.
  · exact represents_of_isExactly (isExactly_powerOfTen n small)
  · have large : 2 ^ 53 ≤ 10 ^ n :=
      (by decide : 2 ^ 53 ≤ 10 ^ 23).trans (Nat.pow_le_pow_right (by decide) (by omega))
    exact represents_of_round large (log2_power n (by omega))
      (unpack_powerOfTen (by omega) bounded)

/-! ## Products -/

/-- Above the numbers below the largest one; each is half a unit away from it at least. -/
def ceiling : Nat := (2 ^ 54 - 3) * 2 ^ 970

/-- The largest significand that leaves a product with a power of ten below the ceiling. -/
def capacity (n : Nat) : Nat := min significandLimit (ceiling / 10 ^ n)

def fits (n k : Nat) : Bool :=
  (decide (0 < k) && decide (capacity n < 2 ^ (k + 52))) ||
    decide (above k (min (capacity n) (2 ^ (k + 53) - 1)) *
      above ((10 ^ n).log2 - 52) (10 ^ n) + 2 ^ 970 < 2 ^ 1024)

-- Near the largest number the sum of the rounding errors is too large to be bounded by itself, so
-- the products are bounded length by length.
theorem fits_of_lt : ∀ n < 309, ∀ k < 12, fits n k = true := by
  decide +kernel

theorem lt_of_collected {s : Nat} (collected : s ≤ significandLimit) : s < 2 ^ 64 :=
  lt_of_le_of_lt collected (by decide)

theorem isFinite_scaled {s n : Nat} (positive : 0 < s) (collected : s ≤ significandLimit)
    (bounded : s * 10 ^ n ≤ ceiling) (small : n ≤ 308) :
    (Float.ofNat s * powerOfTen n).isFinite = true := by
  have bits : s.log2 < 64 := (Nat.log2_lt positive.ne').2 (lt_of_collected collected)
  have held : s ≤ capacity n :=
    le_min collected ((Nat.le_div_iff_mul_le (by positivity)).2 bounded)
  refine (represents_ofNat positive (lt_of_collected collected)).isFinite_mul
    (represents_powerOfTen small) ?_
  have checked := fits_of_lt n (by omega) (s.log2 - 52) (by omega)
  simp only [fits, Bool.or_eq_true, Bool.and_eq_true, decide_eq_true_eq] at checked
  rcases checked with ⟨long, short⟩ | room
  -- No significand of this length is below the capacity, or all of them have finite products.
  · have low := Nat.log2_self_le positive.ne'
    rw [Nat.sub_add_cancel (by omega)] at short
    omega
  · refine lt_of_le_of_lt (Nat.add_le_add_right (Nat.mul_le_mul_right _ (above_mono _ ?_)) _) room
    have length : s < 2 ^ (s.log2 - 52 + 53) :=
      lt_of_lt_of_le Nat.lt_log2_self (Nat.pow_le_pow_right (by decide) (by omega))
    omega

end GuidedExploration.Json.Number
