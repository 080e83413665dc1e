import Mathlib
import GuidedExploration.Proofs.Float.Arithmetic

/-!
Integers as floating-point numbers. An integer of 53 bits is exact; of a longer one, half a unit
behind the 53rd bit may be added.
-/

set_option autoImplicit false

namespace GuidedExploration.Binary64

open Float.Model
open Float.Model.UnpackedFloat (Sign Accuracy roundWithAccuracy)

theorem unpack_one :
    Float.exactlyRepresentablePowersOfTen[0].toModel.unpack =
      .finite .positive (2 ^ 52) (-52) (by decide) := by
  rfl

theorem aligned {s : Nat} (positive : 0 < s) (small : s < 2 ^ 53) :
    2 ^ 52 ≤ s <<< (52 - s.log2) ∧ s <<< (52 - s.log2) < 2 ^ 53 := by
  have bits := log2_le_of_lt small
  rw [Nat.shiftLeft_eq]
  constructor
  · calc 2 ^ 52 = 2 ^ s.log2 * 2 ^ (52 - s.log2) := by
          rw [← pow_add]
          exact congrArg (2 ^ ·) (by omega)
      _ ≤ s * 2 ^ (52 - s.log2) := Nat.mul_le_mul_right _ (Nat.log2_self_le positive.ne')
  · calc s * 2 ^ (52 - s.log2) < 2 ^ (s.log2 + 1) * 2 ^ (52 - s.log2) :=
          Nat.mul_lt_mul_of_pos_right Nat.lt_log2_self (by positivity)
      _ = 2 ^ 53 := by
          rw [← pow_add]
          exact congrArg (2 ^ ·) (by omega)

theorem unpack_toFloat {s : Nat} (positive : 0 < s) (small : s < 2 ^ 53) :
    ∃ filled, s.toUInt64.toFloat.toModel.unpack =
      .finite .positive (s <<< (52 - s.log2)) (-(52 - s.log2 : Nat)) filled := by
  obtain ⟨low, high⟩ := aligned positive small
  have bits := log2_le_of_lt small
  have value : s.toUInt64.toNat = s := by
    rw [Nat.toUInt64, UInt64.toNat_ofNat']
    omega
  have converted : s.toUInt64.toFloat.toModel.unpack =
      repacked (.round .binary64 .positive s 0) := by
    have greater : compare (s : Int) 0 = .gt := by
      rw [compare_gt_iff_gt]
      omega
    change repacked (.normalize .binary64 (s.toUInt64.toNat : Int) 0 .positive) = _
    rw [value, UnpackedFloat.normalize, greater]
    rfl
  have moved : (-target s 0).toNat = 52 - s.log2 := by
    simp only [target]
    omega
  have least : -1074 ≤ -((52 - s.log2 : Nat) : Int) := by omega
  -- Moved to the 53rd place the bits need no more rounding.
  have still := shift_eq_zero high least
  refine ⟨by omega, ?_⟩
  rw [converted, UnpackedFloat.round, targetExponent_totalExponent]
  simp only [UnpackedFloat.decreaseExponent, zero_sub, moved]
  rw [roundWithAccuracy_of_dvd .positive (by rw [still]; exact one_dvd _), still]
  simp only [pow_zero, Nat.div_one, Nat.cast_zero, add_zero, settled]
  rw [dif_neg (by omega), if_pos high]
  exact repacked_normal low high least (by omega)

theorem ofNat_of_lt {s : Nat} (small : s < 2 ^ 53) :
    Float.ofNat s = s.toUInt64.toFloat * Float.exactlyRepresentablePowersOfTen[0] := by
  change Float.ofScientific s false 0 = _
  rw [Float.ofScientific, dif_pos ⟨small, by decide⟩]
  rfl

theorem ofNat_of_ge {s : Nat} (large : 2 ^ 53 ≤ s) :
    (Float.ofNat s).toModel.unpack =
      repacked (roundWithAccuracy .binary64 .positive (s <<< 53) (-53) .exact) := by
  change (Float.ofScientific s false 0).toModel.unpack = _
  rw [Float.ofScientific, dif_neg (by omega)]
  change repacked (.ofScientific .binary64 s 0) = _
  have range : (0 : Int) ≤ 2 ^ Format.binary64.exponentBits := by positivity
  rw [UnpackedFloat.ofScientific, dif_neg (by omega), if_neg (by decide), if_neg (by omega),
    if_pos (by decide)]
  change repacked (roundWithAccuracy .binary64 (.positive * .positive) (s <<< 53 * 1) (-53 + 0)
    .exact) = _
  rw [Nat.mul_one]
  rfl

theorem log2_shiftLeft {s : Nat} (positive : 0 < s) (k : Nat) : (s <<< k).log2 = s.log2 + k := by
  have filled : s <<< k ≠ 0 := by
    rw [Nat.shiftLeft_eq]
    positivity
  rw [Nat.log2_eq_iff filled, Nat.shiftLeft_eq, pow_add, pow_succ, pow_add]
  have low := Nat.log2_self_le positive.ne'
  have high : s < 2 ^ s.log2 * 2 := by
    rw [← pow_succ]
    exact Nat.lt_log2_self
  exact ⟨Nat.mul_le_mul_right _ low, by nlinarith [Nat.two_pow_pos k]⟩

/-- An integer with half a unit behind the 53rd bit added to it, cut off behind that bit. -/
def above (k s : Nat) : Nat := (2 * s + 2 ^ k) / 2 ^ (k + 1) * 2 ^ k

theorem above_mono (k : Nat) {s t : Nat} (less : s ≤ t) : above k s ≤ above k t :=
  Nat.mul_le_mul_right _ (Nat.div_le_div_right (by omega))

/-- A number is an integer up to what rounding may have done. -/
def Represents (x : Float) (s : Nat) : Prop :=
  ∃ m e positive, x.toModel.unpack = .finite .positive m e positive ∧ 2 ^ 52 ≤ m ∧
    (2 : ℚ) ^ s.log2 ≤ size m e ∧ size m e ≤ above (s.log2 - 52) s

theorem represents_of_lt {s : Nat} (positive : 0 < s) (small : s < 2 ^ 53) :
    Represents (Float.ofNat s) s := by
  obtain ⟨low, high⟩ := aligned positive small
  obtain ⟨filled, first⟩ := unpack_toFloat positive small
  have bits := log2_le_of_lt small
  have leading : (s <<< (52 - s.log2) * 2 ^ 52).log2 = 104 := by
    rw [← Nat.shiftLeft_eq _ 52, log2_shiftLeft filled, log2_shiftLeft positive]
    omega
  have places : shift (s <<< (52 - s.log2) * 2 ^ 52) (-(52 - s.log2 : Nat) + -52) = 52 := by
    simp only [shift, target, leading]
    omega
  have product : (Float.ofNat s).toModel.unpack =
      repacked (settled .positive (s <<< (52 - s.log2)) (-(52 - s.log2 : Nat))) := by
    rw [ofNat_of_lt small, unpack_mul, first, unpack_one]
    change repacked (roundWithAccuracy .binary64 .positive _ _ .exact) = _
    rw [roundWithAccuracy_of_dvd .positive (by rw [places]; exact Nat.dvd_mul_left _ _), places,
      Nat.mul_div_cancel _ (by decide)]
    congr 2
    omega
  obtain ⟨m, e, filled', packed, normal, kept⟩ :=
    exists_settled .positive (e := -(52 - s.log2 : Nat)) low high.le (by omega) (by omega)
  have value : size m e = s := by
    rw [kept, size, Nat.shiftLeft_eq, zpow_neg, zpow_natCast]
    push_cast
    field_simp
  refine ⟨m, e, filled', product.trans packed, normal, ?_, ?_⟩
  · rw [value]
    exact_mod_cast Nat.log2_self_le positive.ne'
  · rw [value, Nat.sub_eq_zero_of_le bits, above]
    exact_mod_cast (by omega : s ≤ (2 * s + 2 ^ 0) / 2 ^ (0 + 1) * 2 ^ 0)

theorem represents_of_round {x : Float} {s : Nat} (large : 2 ^ 53 ≤ s)
    (fits : s.log2 ≤ 1022 ∨ s.log2 = 1023 ∧ 2 * s + 2 ^ 971 < 2 ^ 1025)
    (found : x.toModel.unpack =
      repacked (roundWithAccuracy .binary64 .positive (s <<< 53) (-53) .exact)) :
    Represents x s := by
  have positive : 0 < s := lt_of_lt_of_le (by decide) large
  have bits : 53 ≤ s.log2 := (Nat.le_log2 positive.ne').2 large
  have places : shift (s <<< 53) (-53) = 53 + (s.log2 - 52) := by
    simp only [shift, target, log2_shiftLeft positive]
    omega
  obtain ⟨r, below, next, near, rounded⟩ :=
    roundWithAccuracy_eq .positive (s <<< 53) (-53) .exact
  have high := div_lt (s <<< 53) (-53)
  rw [places] at below next near rounded high
  have low : 2 ^ 52 ≤ s <<< 53 / 2 ^ (53 + (s.log2 - 52)) := by
    rw [Nat.le_div_iff_mul_le (by positivity), Nat.shiftLeft_eq]
    calc 2 ^ 52 * 2 ^ (53 + (s.log2 - 52)) = 2 ^ s.log2 * 2 ^ 53 := by
          rw [← pow_add, ← pow_add]
          exact congrArg (2 ^ ·) (by omega)
      _ ≤ s * 2 ^ 53 := Nat.mul_le_mul_right _ (Nat.log2_self_le positive.ne')
  have halves : 2 * (r * 2 ^ (s.log2 - 52)) ≤ 2 * s + 2 ^ (s.log2 - 52) := by
    have scaled := near rfl
    rw [pow_add, Nat.shiftLeft_eq] at scaled
    nlinarith
  have room : ((s.log2 - 52 : Nat) : Int) ≤ 970 ∨ ((s.log2 - 52 : Nat) : Int) = 971 ∧ r < 2 ^ 53 := by
    rcases fits with inside | ⟨last, bounded⟩
    · exact .inl (by omega)
    · rw [last] at halves
      exact .inr ⟨by omega, by omega⟩
  have exponent : (-53 : Int) + (53 + (s.log2 - 52) : Nat) = (s.log2 - 52 : Nat) := by omega
  obtain ⟨m, e, filled, packed, normal, kept⟩ :=
    exists_settled .positive (low.trans below) (by omega) (by omega) room
  have value : size m e = (r * 2 ^ (s.log2 - 52) : Nat) := by
    rw [kept, size, zpow_natCast]
    push_cast
    rfl
  refine ⟨m, e, filled, ?_, normal, ?_, ?_⟩
  · rw [found, rounded, exponent, packed]
  · have leading : 2 ^ s.log2 ≤ r * 2 ^ (s.log2 - 52) := by
      calc 2 ^ s.log2 = 2 ^ 52 * 2 ^ (s.log2 - 52) := by
            rw [← pow_add]
            exact congrArg (2 ^ ·) (by omega)
        _ ≤ r * 2 ^ (s.log2 - 52) := Nat.mul_le_mul_right _ (low.trans below)
    rw [value]
    exact_mod_cast leading
  · have cut : r ≤ (2 * s + 2 ^ (s.log2 - 52)) / 2 ^ (s.log2 - 52 + 1) := by
      rw [Nat.le_div_iff_mul_le (by positivity), pow_succ]
      linarith
    rw [value, above]
    exact_mod_cast Nat.mul_le_mul_right _ cut

theorem represents_ofNat {s : Nat} (positive : 0 < s) (small : s < 2 ^ 64) :
    Represents (Float.ofNat s) s := by
  by_cases short : s < 2 ^ 53
  · exact represents_of_lt positive short
  · have bits := (Nat.log2_lt positive.ne').2 small
    exact represents_of_round (by omega) (.inl (by omega)) (ofNat_of_ge (by omega))

theorem Represents.isFinite_mul {x y : Float} {s t : Nat} (left : Represents x s)
    (right : Represents y t)
    (bounded : above (s.log2 - 52) s * above (t.log2 - 52) t + 2 ^ 970 < 2 ^ 1024) :
    (x * y).isFinite = true := by
  obtain ⟨m₁, e₁, positive₁, found₁, normal₁, -, upper₁⟩ := left
  obtain ⟨m₂, e₂, positive₂, found₂, -, -, upper₂⟩ := right
  change (x * y).toModel.unpack.isFinite = true
  rw [unpack_mul, found₁, found₂]
  refine isFinite_round (normal₁.trans (Nat.le_mul_of_pos_right m₁ positive₂)) ?_
  have product : size (m₁ * m₂) (e₁ + e₂) = size m₁ e₁ * size m₂ e₂ := by
    rw [size, size, size, zpow_add₀ (by norm_num)]
    push_cast
    ring
  have nonneg : 0 ≤ size m₂ e₂ := mul_nonneg (Nat.cast_nonneg _) (two_zpow_pos e₂).le
  have total : ((above (s.log2 - 52) s * above (t.log2 - 52) t + 2 ^ 970 : Nat) : ℚ) <
    (2 ^ 1024 : Nat) := Nat.cast_lt.2 bounded
  simp only [Nat.cast_add, Nat.cast_mul, Nat.cast_pow, Nat.cast_ofNat] at total
  rw [product, zpow_ofNat, zpow_ofNat]
  exact lt_of_le_of_lt
    (add_le_add_left (mul_le_mul upper₁ upper₂ nonneg (Nat.cast_nonneg _)) _) total

theorem Represents.isFinite_div {x y : Float} {t : Nat} (finite : x.isFinite = true)
    (divisor : Represents y t) (large : 2 ≤ t) : (x / y).isFinite = true := by
  obtain ⟨m, e, positive, found, -, lower, -⟩ := divisor
  refine Binary64.isFinite_div finite found ?_
  have bits : 1 ≤ t.log2 := (Nat.le_log2 (by omega)).2 large
  have leading : (2 : ℚ) ^ (t.log2 : Int) < 2 ^ ((m.log2 : Int) + 1 + e) := by
    rw [zpow_natCast]
    refine lt_of_le_of_lt lower ?_
    rw [zpow_add₀ (by norm_num), size]
    exact mul_lt_mul_of_pos_right (by exact_mod_cast Nat.lt_log2_self) (two_zpow_pos e)
  have := (zpow_lt_zpow_iff_right₀ (by norm_num : (1 : ℚ) < 2)).1 leading
  omega

end GuidedExploration.Binary64
