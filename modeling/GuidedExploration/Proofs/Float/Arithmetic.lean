import Mathlib
import GuidedExploration.Proofs.Float.Packing
import GuidedExploration.Proofs.Float.Rounding

/-!
Products and quotients of floating-point numbers, as far as they are finite.
-/

set_option autoImplicit false

namespace GuidedExploration.Binary64

open Float.Model
open Float.Model.UnpackedFloat (Sign Accuracy roundWithAccuracy)

/-! ## Rounded numbers -/

theorem isFinite_settled {sign : Sign} {r : Nat} {e : Int}
    (fits : e ≤ 970 ∨ e = 971 ∧ r < 2 ^ 53) : (repacked (settled sign r e)).isFinite = true := by
  unfold settled
  split_ifs with zero small
  · exact isFinite_repacked_zero
  · exact isFinite_repacked (by omega)
  · exact isFinite_repacked (by omega)

-- A rounded number is an infinity or finite: it is never none.
theorem isFinite_settled_of_isInf {sign : Sign} {r : Nat} {e : Int}
    (bounded : (repacked (settled sign r e)).isInf = false) :
    (repacked (settled sign r e)).isFinite = true := by
  unfold settled at bounded ⊢
  split_ifs at bounded ⊢ with zero small
  · exact isFinite_repacked_zero
  · refine isFinite_repacked (not_lt.1 fun large => ?_)
    rw [isInf_repacked (by omega)] at bounded
    cases bounded
  · refine isFinite_repacked (not_lt.1 fun large => ?_)
    rw [isInf_repacked (by omega)] at bounded
    cases bounded

def size (m : Nat) (e : Int) : ℚ := m * 2 ^ e

theorem two_zpow_pos (e : Int) : (0 : ℚ) < 2 ^ e := zpow_pos (by norm_num) e

theorem size_shift (m k : Nat) (e : Int) : size m (e + k) = (m * 2 ^ k : Nat) * 2 ^ e := by
  rw [size, zpow_add₀ (by norm_num), zpow_natCast]
  push_cast
  ring

theorem exists_settled (sign : Sign) {r : Nat} {e : Int} (low : 2 ^ 52 ≤ r) (high : r ≤ 2 ^ 53)
    (least : -1074 ≤ e) (fits : e ≤ 970 ∨ e = 971 ∧ r < 2 ^ 53) :
    ∃ m e' positive, repacked (settled sign r e) = .finite sign m e' positive ∧ 2 ^ 52 ≤ m ∧
      size m e' = size r e := by
  unfold settled
  rw [dif_neg (by omega)]
  split_ifs with small
  · exact ⟨r, e, by omega, repacked_normal low small least (by omega), low, rfl⟩
  · have carry : r = 2 ^ 53 := by omega
    refine ⟨2 ^ 52, e + 1, by decide, repacked_normal le_rfl (by decide) (by omega) (by omega),
      le_rfl, ?_⟩
    rw [carry]
    exact size_shift (2 ^ 52) 1 e

theorem two_zpow_log2_le {m : Nat} (positive : 0 < m) (e : Int) :
    (2 : ℚ) ^ ((m.log2 : Int) + e) ≤ size m e := by
  rw [zpow_add₀ (by norm_num), zpow_natCast, size]
  exact mul_le_mul_of_nonneg_right (by exact_mod_cast Nat.log2_self_le positive.ne')
    (two_zpow_pos e).le

/-- An exact number is finite when it is rounded if half a unit can be added to it. -/
theorem isFinite_round {sign : Sign} {m : Nat} {e : Int} (low : 2 ^ 52 ≤ m)
    (bounded : size m e + 2 ^ (970 : Int) < 2 ^ (1024 : Int)) :
    (repacked (roundWithAccuracy .binary64 sign m e .exact)).isFinite = true := by
  obtain ⟨r, -, -, near, rounded⟩ := roundWithAccuracy_eq sign m e .exact
  rw [rounded]
  have positive : 0 < m := lt_of_lt_of_le (by decide) low
  have bits : 52 ≤ m.log2 := (Nat.le_log2 positive.ne').2 low
  have leading : (m.log2 : Int) + e < 1024 := by
    have value : size m e < 2 ^ (1024 : Int) :=
      lt_of_le_of_lt (le_add_of_nonneg_right (two_zpow_pos 970).le) bounded
    exact (zpow_lt_zpow_iff_right₀ (by norm_num : (1 : ℚ) < 2)).1
      (lt_of_le_of_lt (two_zpow_log2_le positive e) value)
  have top : e + shift m e ≤ 971 := by
    simp only [shift, target]
    omega
  refine isFinite_settled ?_
  rcases lt_or_eq_of_le top with inside | last
  · exact .inl (by omega)
  refine .inr ⟨last, ?_⟩
  -- At the largest exponent half a unit is what the bound leaves.
  have unit : (2 : ℚ) ^ e * 2 ^ shift m e = 2 * 2 ^ (970 : Int) := by
    rw [← zpow_natCast, ← zpow_add₀ (by norm_num), last, ← zpow_one_add₀ (by norm_num)]
    rfl
  have limit : (2 : ℚ) ^ (1024 : Int) = 2 ^ 53 * (2 * 2 ^ (970 : Int)) := by
    rw [← zpow_one_add₀ (by norm_num), ← zpow_natCast, ← zpow_add₀ (by norm_num)]
    rfl
  have scaled : 2 * ((r : ℚ) * 2 ^ shift m e) * 2 ^ e ≤ (2 * m + 2 ^ shift m e) * 2 ^ e :=
    mul_le_mul_of_nonneg_right (by exact_mod_cast near rfl) (two_zpow_pos e).le
  have half := two_zpow_pos 970
  rw [size, limit] at bounded
  generalize (2 : ℚ) ^ (970 : Int) = quantum at *
  have value : (r : ℚ) * (2 * quantum) < 2 ^ 53 * (2 * quantum) := by
    rw [← unit] at bounded ⊢
    linarith
  have := lt_of_mul_lt_mul_right value (by positivity)
  exact_mod_cast this

/-! ## Operations -/

theorem unpack_mul (x y : Float) :
    (x * y).toModel.unpack = repacked (.mul .binary64 x.toModel.unpack y.toModel.unpack) := rfl

theorem unpack_div (x y : Float) :
    (x / y).toModel.unpack = repacked (.div .binary64 x.toModel.unpack y.toModel.unpack) := rfl

theorem unpack_of_isFinite {x : Float} (finite : x.isFinite = true) :
    (∃ sign, x.toModel.unpack = .zero sign) ∨
      ∃ sign m e positive, x.toModel.unpack = .finite sign m e positive := by
  change x.toModel.unpack.isFinite = true at finite
  generalize x.toModel.unpack = u at finite
  cases u with
  | infinity sign => cases finite
  | notANumber => cases finite
  | zero sign => exact .inl ⟨sign, rfl⟩
  | finite sign m e positive => exact .inr ⟨sign, m, e, positive, rfl⟩

theorem isFinite_neg {x : Float} (finite : x.isFinite = true) : (-x).isFinite = true := by
  change (repacked x.toModel.unpack.neg).isFinite = true
  rcases unpack_of_isFinite finite with ⟨sign, zero⟩ | ⟨sign, m, e, positive, found⟩
  · rw [zero]
    exact isFinite_repacked_zero
  · rw [found]
    exact isFinite_repacked (bounds_of_unpack found).2.2

theorem isInf_of_isFinite {x : Float} (finite : x.isFinite = true) : x.isInf = false := by
  change x.toModel.unpack.isInf = false
  rcases unpack_of_isFinite finite with ⟨sign, zero⟩ | ⟨sign, m, e, positive, found⟩
  · rw [zero]
    rfl
  · rw [found]
    rfl

theorem isFinite_zero_mul {x y : Float} {sign : Sign} (zero : x.toModel.unpack = .zero sign)
    (right : y.isFinite = true) : (x * y).isFinite = true := by
  change (x * y).toModel.unpack.isFinite = true
  rw [unpack_mul, zero]
  rcases unpack_of_isFinite right with ⟨s₂, zero₂⟩ | ⟨s₂, m₂, e₂, positive₂, found₂⟩
  · rw [zero₂]
    exact isFinite_repacked_zero
  · rw [found₂]
    exact isFinite_repacked_zero

theorem isFinite_mul_of_isInf {x y : Float} (left : x.isFinite = true) (right : y.isFinite = true)
    (bounded : (x * y).isInf = false) : (x * y).isFinite = true := by
  change (x * y).toModel.unpack.isInf = false at bounded
  change (x * y).toModel.unpack.isFinite = true
  rw [unpack_mul] at bounded ⊢
  rcases unpack_of_isFinite left with ⟨s₁, zero₁⟩ | ⟨s₁, m₁, e₁, positive₁, found₁⟩
  · exact isFinite_zero_mul zero₁ right
  rcases unpack_of_isFinite right with ⟨s₂, zero₂⟩ | ⟨s₂, m₂, e₂, positive₂, found₂⟩
  · rw [found₁, zero₂]
    exact isFinite_repacked_zero
  · rw [found₁, found₂] at bounded ⊢
    obtain ⟨r, -, -, -, rounded⟩ := roundWithAccuracy_eq (s₁ * s₂) (m₁ * m₂) (e₁ + e₂) .exact
    simp only [UnpackedFloat.mul, rounded] at bounded ⊢
    exact isFinite_settled_of_isInf bounded

theorem log2_div_le {m d : Nat} (k : Nat) (divisor : 0 < d) (filled : (m <<< k) / d ≠ 0) :
    ((m <<< k) / d).log2 + d.log2 ≤ m.log2 + k := by
  have positive : 0 < m := by
    rcases Nat.eq_zero_or_pos m with rfl | positive
    · simp at filled
    · exact positive
  have product : 2 ^ (((m <<< k) / d).log2 + d.log2) ≤ m * 2 ^ k := by
    rw [pow_add, ← Nat.shiftLeft_eq m]
    exact (Nat.mul_le_mul (Nat.log2_self_le filled) (Nat.log2_self_le divisor.ne')).trans
      (Nat.div_mul_le_self _ _)
  have below : m * 2 ^ k < 2 ^ (m.log2 + 1 + k) := by
    rw [pow_add]
    exact Nat.mul_lt_mul_of_pos_right Nat.lt_log2_self (by positivity)
  have := (Nat.pow_lt_pow_iff_right (by decide : 1 < 2)).1 (lt_of_le_of_lt product below)
  omega

/-- Dividing by a number from two on gives no infinity. -/
theorem isFinite_div {x y : Float} (finite : x.isFinite = true) {m : Nat} {e : Int}
    {positive : 0 < m} (divisor : y.toModel.unpack = .finite .positive m e positive)
    (large : 1 ≤ (m.log2 : Int) + e) : (x / y).isFinite = true := by
  change (x / y).toModel.unpack.isFinite = true
  rw [unpack_div, divisor]
  rcases unpack_of_isFinite finite with ⟨sign, zero⟩ | ⟨sign, m₁, e₁, positive₁, found⟩
  · rw [zero]
    exact isFinite_repacked_zero
  rw [found]
  obtain ⟨small, -, fits⟩ := bounds_of_unpack found
  have bits := log2_le_of_lt small
  simp only [UnpackedFloat.div, UnpackedFloat.divCore, targetExponent_eq, totalExponent]
  generalize chosen : min (e₁ - e) (max ((m₁.log2 : Int) + 1 + e₁ - (m.log2 + 1 + e) - 53) (-1074)) =
    start
  obtain ⟨r, -, above, -, rounded⟩ := roundWithAccuracy_eq (sign / .positive)
    ((m₁ <<< (e₁ - e - start).toNat) / m) start
    (UnpackedFloat.accuracyOfFraction (m₁ <<< (e₁ - e - start).toNat % m) m)
  rw [rounded]
  have leading : (((m₁ <<< (e₁ - e - start).toNat) / m).log2 : Int) + start ≤ 1022 := by
    by_cases filled : (m₁ <<< (e₁ - e - start).toNat) / m = 0
    · rw [filled]
      simp only [Nat.log2_zero]
      omega
    · have := log2_div_le _ positive filled
      omega
  refine isFinite_settled (.inl ?_)
  simp only [shift, target]
  omega

end GuidedExploration.Binary64
