import Mathlib
import GuidedExploration.Json.Schema
import GuidedExploration.Proofs.Json.Collecting

/-!
Numbers that are written and read again. Every finite number is read as a finite number again, not
always as itself, and no other number is read at all.
-/

set_option autoImplicit false

namespace GuidedExploration

open Decimal
open Json.Number (ceiling)

def Json.reread? (x : Float) : Option Float := (Json.ofFloat x).float?

/-! ## The largest number -/

theorem ceiling_eq : (ceiling : ℚ) = (2 ^ 54 - 3 : Nat) * 2 ^ (970 : Int) := by
  rw [ceiling, Nat.cast_mul, Nat.cast_pow, zpow_ofNat]
  rfl

theorem scaled_le_ceiling {a j : Nat} {k : Int} (mantissa : a ≤ (2 ^ 54 - 3) * 2 ^ j)
    (exponent : k + j ≤ 970) : (a : ℚ) * 2 ^ k ≤ ceiling := by
  calc (a : ℚ) * 2 ^ k ≤ ((2 ^ 54 - 3) * 2 ^ j : Nat) * 2 ^ k :=
        mul_le_mul_of_nonneg_right (Nat.cast_le.2 mantissa) (zpow_pos (by norm_num) _).le
    _ = (2 ^ 54 - 3 : Nat) * 2 ^ (k + j) := by
        rw [Nat.cast_mul, Nat.cast_pow, zpow_add₀ (by norm_num), zpow_natCast]
        push_cast
        ring
    _ ≤ (2 ^ 54 - 3 : Nat) * 2 ^ (970 : Int) :=
        mul_le_mul_of_nonneg_left (zpow_le_zpow_right₀ (by norm_num) exponent) (Nat.cast_nonneg _)
    _ = ceiling := ceiling_eq.symm

theorem field_of_isFinite {x : Float} (finite : x.isFinite = true) :
    x.toBits.toNat / 2 ^ 52 % 2048 ≠ 2047 := by
  intro top
  have field : (@Float.Model.UnpackedFloat.unpackExponent .binary64
      x.toModel.toBits.toBitVec).toNat = x.toBits.toNat / 2 ^ 52 % 2048 := by
    rw [Float.Model.UnpackedFloat.unpackExponent_def, BitVec.extractLsb'_toNat,
      Nat.shiftRight_eq_div_pow]
    rfl
  have all : @Float.Model.UnpackedFloat.unpackExponent .binary64
      x.toModel.toBits.toBitVec = -1#11 := BitVec.eq_of_toNat_eq (field.trans top)
  change x.toModel.unpack.isFinite = true at finite
  rw [Float.Model.unpack, Float.Model.UnpackedFloat.unpack] at finite
  dsimp only at finite
  rw [if_pos all] at finite
  split_ifs at finite <;> cases finite

def largestBits : Nat := 0x7FEFFFFFFFFFFFFF

theorem ofBits_subnormal {bits : Nat} (low : bits / 2 ^ 52 % 2048 = 0) :
    Magnitude.ofBits bits = ⟨bits % 2 ^ 52, -1074, false⟩ := if_pos low

theorem ofBits_normal {bits : Nat} (high : bits / 2 ^ 52 % 2048 ≠ 0) :
    Magnitude.ofBits bits = ⟨2 ^ 52 + bits % 2 ^ 52, (bits / 2 ^ 52 % 2048 : Nat) - 1075,
      decide (bits % 2 ^ 52 = 0) && decide (1 < bits / 2 ^ 52 % 2048)⟩ := if_neg high

theorem upper_ofBits_le_ceiling {bits : Nat} (finite : bits / 2 ^ 52 % 2048 ≠ 2047)
    (inside : bits < 2 ^ 63) (other : bits ≠ largestBits) : (Magnitude.ofBits bits).upper ≤ ceiling := by
  simp only [largestBits] at other
  by_cases subnormal : bits / 2 ^ 52 % 2048 = 0
  · rw [ofBits_subnormal subnormal]
    exact scaled_le_ceiling (j := 1) (by dsimp only; omega) (by dsimp only; omega)
  · rw [ofBits_normal subnormal]
    -- With the largest exponent only the largest number itself is too large.
    by_cases last : bits / 2 ^ 52 % 2048 = 2046
    · exact scaled_le_ceiling (j := 1) (by dsimp only; omega) (by dsimp only; omega)
    · exact scaled_le_ceiling (j := 2) (by dsimp only; omega) (by dsimp only; omega)

theorem upper_le_ceiling {x : Float} (finite : x.isFinite = true)
    (other : x.toBits.toNat % 2 ^ 63 ≠ largestBits) : (magnitude x).upper ≤ ceiling := by
  have field := field_of_isFinite finite
  refine upper_ofBits_le_ceiling ?_ (Nat.mod_lt _ (by decide)) other
  change x.toBits.toNat % 2 ^ 63 / 2 ^ 52 % 2048 ≠ 2047
  omega

theorem eq_ofBits {x : Float} {bits : UInt64} (same : x.toBits.toNat = bits.toNat) :
    x = .ofBits bits := by
  rw [← Float.ofBits_toBits x, UInt64.toNat_inj.1 same]

theorem eq_ofBits_of_largest {x : Float} (largest : x.toBits.toNat % 2 ^ 63 = largestBits) :
    x = .ofBits 0x7FEFFFFFFFFFFFFF ∨ x = .ofBits 0xFFEFFFFFFFFFFFFF := by
  have bound := x.toBits.toNat_lt
  simp only [largestBits] at largest
  rcases (by omega : x.toBits.toNat = 0x7FEFFFFFFFFFFFFF ∨ x.toBits.toNat = 0xFFEFFFFFFFFFFFFF)
    with same | same
  · exact .inl (eq_ofBits same)
  · exact .inr (eq_ofBits same)

/-! ## Reading numbers again -/

/-- A number is read again exactly if it is finite. -/
theorem Json.isSome_reread?_iff {x : Float} :
    (Json.reread? x).isSome = true ↔ x.isFinite = true := by
  constructor
  · intro found
    unfold reread? ofFloat at found
    split_ifs at found with finite
    · exact finite
    · cases found
  · intro finite
    -- Half a unit above the largest number is past the ceiling: its literal is read as it stands.
    by_cases largest : x.toBits.toNat % 2 ^ 63 = largestBits
    · rcases eq_ofBits_of_largest largest with rfl | rfl <;> decide +kernel
    · unfold reread? ofFloat
      rw [if_pos finite]
      exact Number.isSome_toFloat?_ofDecimal _
        ((value_shortest_le .toEven (magnitude x)).trans (upper_le_ceiling finite largest))

theorem Json.isFinite_of_float? {j : Json} {x : Float} (found : j.float? = some x) :
    x.isFinite = true := by
  cases j with
  | number n => exact Number.isFinite_of_toFloat? found
  | _ => cases found

theorem Json.isFinite_of_reread? {x y : Float} (found : Json.reread? x = some y) :
    y.isFinite = true :=
  isFinite_of_float? found

/-- A number is read again as an equal one only if it is the number itself. -/
theorem Json.exists_reread?_beq_iff {x : Float} :
    (∃ y, Json.reread? x = some y ∧ (y == x) = true) ↔ Json.reread? x = some x := by
  constructor
  · rintro ⟨y, found, same⟩
    obtain ⟨-, -, rfl | ⟨positive, negative⟩ | ⟨negative, positive⟩⟩ :=
      Float.beq_iff_ne_nan_and_eq.1 same
    · exact found
    -- A zero is read again with its sign.
    · subst positive negative
      exact absurd found (by decide +kernel)
    · subst positive negative
      exact absurd found (by decide +kernel)
  · intro found
    refine ⟨x, found, Float.beq_self_iff.2 ?_⟩
    rintro rfl
    exact absurd (isFinite_of_reread? found) (by decide +kernel)

end GuidedExploration
