import Mathlib

/-!
The bits of floating-point numbers. A rounded number is unpacked as it was packed, and it is finite
as long as its exponent fits.
-/

set_option autoImplicit false

namespace GuidedExploration.Binary64

open Float.Model
open Float.Model.UnpackedFloat (Sign packComponents packedInfinity)

/-- What the bits stand for that a number is packed into. -/
def repacked (u : UnpackedFloat) : UnpackedFloat :=
  UnpackedFloat.unpack .binary64 (UnpackedFloat.pack .binary64 u)

variable {sign : Sign} {m : Nat} {e : Int} {positive : 0 < m}

theorem pack_finite :
    UnpackedFloat.pack .binary64 (.finite sign m e positive) =
      if 2048 ≤ (e + 1075).toNat + 1 then packedInfinity .binary64 sign
      else packComponents .binary64 sign
        (if m.log2 = 52 then BitVec.ofNat 11 (e + 1075).toNat else 0#11) (BitVec.ofNat 52 m) := by
  have biased : (e + (1023 : Nat) + (52 : Nat)).toNat = (e + 1075).toNat := by omega
  change (if 2 ^ 11 ≤ (e + (1023 : Nat) + (52 : Nat)).toNat + 1 then _ else
    if m.log2 + 1 = 53 then packComponents .binary64 sign
      (BitVec.ofNat 11 (e + (1023 : Nat) + (52 : Nat)).toNat) _ else _) = _
  rw [biased]
  by_cases normal : m.log2 = 52
  · simp only [normal, if_true]
  · rw [if_neg (by omega : ¬m.log2 + 1 = 53), if_neg normal]

theorem field_toNat (fits : e ≤ 971) :
    (BitVec.ofNat 11 (e + 1075).toNat).toNat = (e + 1075).toNat := by
  rw [BitVec.toNat_ofNat, Nat.mod_eq_of_lt (by omega)]

theorem field_ne_top (fits : e ≤ 971) :
    (if m.log2 = 52 then BitVec.ofNat 11 (e + 1075).toNat else 0#11) ≠ -1#11 := by
  intro same
  have value := field_toNat fits
  split_ifs at same
  · rw [same] at value
    have top : (-1#11).toNat = 2047 := by decide
    omega
  · exact absurd same (by decide)

theorem isFinite_repacked (fits : e ≤ 971) :
    (repacked (.finite sign m e positive)).isFinite = true := by
  have inside : ¬2048 ≤ (e + 1075).toNat + 1 := by omega
  have field := field_ne_top (m := m) fits
  unfold repacked UnpackedFloat.unpack
  rw [pack_finite, if_neg inside]
  simp only [UnpackedFloat.unpackExponent_packComponents,
    UnpackedFloat.unpackMantissa_packComponents]
  -- A number is unpacked as an infinity or as none by its exponent alone.
  generalize (if m.log2 = 52 then BitVec.ofNat 11 (e + 1075).toNat else 0#11) = exponent at field
  rw [if_neg field]
  split_ifs <;> rfl

theorem repacked_zero : repacked (.zero sign) = .zero sign := UnpackedFloat.unpack_packedZero

theorem isFinite_repacked_zero : (repacked (.zero sign)).isFinite = true := by
  rw [repacked_zero]
  rfl

theorem isInf_repacked (large : 972 ≤ e) :
    (repacked (.finite sign m e positive)).isInf = true := by
  have outside : 2048 ≤ (e + 1075).toNat + 1 := by omega
  unfold repacked UnpackedFloat.unpack
  rw [pack_finite, if_pos outside]
  simp [packedInfinity, UnpackedFloat.isInf]

theorem toNat_one_append (v : BitVec 52) : (1#1 ++ v).toNat = 2 ^ 52 + v.toNat := by
  rw [BitVec.toNat_append, ← Nat.shiftLeft_add_eq_or_of_lt v.isLt]
  rfl

theorem repacked_normal (low : 2 ^ 52 ≤ m) (high : m < 2 ^ 53) (least : -1074 ≤ e)
    (fits : e ≤ 971) : repacked (.finite sign m e positive) = .finite sign m e positive := by
  have normal : m.log2 = 52 := (Nat.log2_eq_iff positive.ne').2 ⟨low, high⟩
  have inside : ¬2048 ≤ (e + 1075).toNat + 1 := by omega
  have top := field_ne_top (m := m) fits
  have value := field_toNat fits
  have mantissa : (1#1 ++ BitVec.ofNat 52 m).toNat = m := by
    rw [toNat_one_append, BitVec.toNat_ofNat]
    omega
  rw [if_pos normal] at top
  have bottom : BitVec.ofNat 11 (e + 1075).toNat ≠ 0#11 := by
    intro same
    rw [same] at value
    have zero : (0#11).toNat = 0 := rfl
    omega
  unfold repacked UnpackedFloat.unpack
  rw [pack_finite, if_neg inside, if_pos normal]
  simp only [UnpackedFloat.unpackExponent_packComponents,
    UnpackedFloat.unpackMantissa_packComponents, UnpackedFloat.unpackSign_packComponents,
    Sign.ofBitVec_toBitVec]
  rw [if_neg top, if_neg bottom]
  congr 1
  change ((BitVec.ofNat 11 (e + 1075).toNat).toNat : Int) - ((1023 : Nat) + (52 : Nat)) = e
  omega

theorem bounds_of_unpack {b : BitVec 64}
    (found : UnpackedFloat.unpack .binary64 b = .finite sign m e positive) :
    m < 2 ^ 53 ∧ -1074 ≤ e ∧ e ≤ 971 := by
  have field := (@UnpackedFloat.unpackExponent .binary64 b).isLt
  have fraction := (@UnpackedFloat.unpackMantissa .binary64 b).isLt
  change _ < 2 ^ 11 at field
  change _ < 2 ^ 52 at fraction
  simp only [UnpackedFloat.unpack] at found
  split_ifs at found with top _ bottom
  · injection found with _ mantissa exponent
    rw [bottom] at exponent
    change (0 : Int) - 1075 + 1 = e at exponent
    omega
  · injection found with _ mantissa exponent
    have below : (@UnpackedFloat.unpackExponent .binary64 b).toNat ≠ 2047 := fun same =>
      top (BitVec.eq_of_toNat_eq same)
    have above : (@UnpackedFloat.unpackExponent .binary64 b).toNat ≠ 0 := fun same =>
      bottom (BitVec.eq_of_toNat_eq same)
    have leading := mantissa.symm.trans
      (toNat_one_append (@UnpackedFloat.unpackMantissa .binary64 b))
    change ((@UnpackedFloat.unpackExponent .binary64 b).toNat : Int) - 1075 = e at exponent
    clear mantissa
    omega

end GuidedExploration.Binary64
