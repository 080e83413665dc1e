import Mathlib
import GuidedExploration.Proofs.Decimal.Shortest
import GuidedExploration.Proofs.Json.Literal
import GuidedExploration.Proofs.Json.Scaling

/-!
Reading the literals of numbers. The literal of a finite number is read as a number again, and
whatever a literal is read as is finite.
-/

set_option autoImplicit false

namespace GuidedExploration.Json.Number

open Binary64

/-! ## Collecting digits -/

def extend (s : Nat) (ds : List (Fin 10)) : Nat := ds.foldl (fun n d => 10 * n + d.val) s

theorem le_extend (s : Nat) (ds : List (Fin 10)) : s * 10 ^ ds.length ≤ extend s ds := by
  induction ds generalizing s with
  | nil => simp [extend]
  | cons d ds ih =>
    calc s * 10 ^ (ds.length + 1) = 10 * s * 10 ^ ds.length := by ring
      _ ≤ (10 * s + d.val) * 10 ^ ds.length := Nat.mul_le_mul_right _ (Nat.le_add_right _ _)
      _ ≤ extend s (d :: ds) := ih (10 * s + d.val)

theorem extend_lt (s : Nat) (ds : List (Fin 10)) : extend s ds < (s + 1) * 10 ^ ds.length := by
  induction ds generalizing s with
  | nil => simp [extend]
  | cons d ds ih =>
    calc extend s (d :: ds) < (10 * s + d.val + 1) * 10 ^ ds.length := ih (10 * s + d.val)
      _ ≤ (10 * (s + 1)) * 10 ^ ds.length := Nat.mul_le_mul_right _ (by omega)
      _ = (s + 1) * 10 ^ (ds.length + 1) := by ring

theorem collect_le {s : Nat} (fitting : s ≤ significandLimit) (ds : List (Fin 10)) :
    (collect s ds).1 ≤ significandLimit := by
  induction ds generalizing s with
  | nil => exact fitting
  | cons d ds ih =>
    unfold collect
    split_ifs with room
    · exact ih room
    · exact fitting

theorem length_collect_le (s : Nat) (ds : List (Fin 10)) : (collect s ds).2.length ≤ ds.length := by
  induction ds generalizing s with
  | nil => exact le_rfl
  | cons d ds ih =>
    unfold collect
    split_ifs with room
    · exact (ih _).trans (Nat.le_succ _)
    · exact le_rfl

theorem collect_mul_le (s : Nat) (ds : List (Fin 10)) :
    (collect s ds).1 * 10 ^ (collect s ds).2.length ≤ extend s ds := by
  induction ds generalizing s with
  | nil => simp [collect, extend]
  | cons d ds ih =>
    unfold collect
    split_ifs with room
    · exact ih (10 * s + d.val)
    · exact le_extend s (d :: ds)

theorem collect_of_le {s : Nat} {ds : List (Fin 10)} (fitting : extend s ds ≤ significandLimit) :
    collect s ds = (extend s ds, []) := by
  induction ds generalizing s with
  | nil => rfl
  | cons d ds ih =>
    -- A significand only grows, so there is room for the next digit if there is for all of them.
    have room : 10 * s + d.val ≤ significandLimit := by
      have more := le_extend (10 * s + d.val) ds
      exact (Nat.le_mul_of_pos_right _ (by positivity)).trans (more.trans fitting)
    rw [collect, if_pos room]
    exact ih fitting

theorem collect_digitList {n : Nat} (fitting : n ≤ significandLimit) :
    collect 0 (digitList n) = (n, []) := by
  have value : extend 0 (digitList n) = n := valueOf_digitList n
  rw [collect_of_le (value.trans_le fitting), value]

/-! ## Scaling -/

theorem unpack_ofNat_zero : (Float.ofNat 0).toModel.unpack = .zero .positive := by
  rfl

theorem isFinite_ofNat {s : Nat} (collected : s ≤ significandLimit) :
    (Float.ofNat s).isFinite = true := by
  rcases Nat.eq_zero_or_pos s with rfl | positive
  · exact congrArg _ unpack_ofNat_zero
  · obtain ⟨m, e, _, found, -⟩ := represents_ofNat positive (lt_of_collected collected)
    change (Float.ofNat s).toModel.unpack.isFinite = true
    rw [found]
    rfl

theorem isFinite_powerOfTen {n : Nat} (bounded : n ≤ 308) : (powerOfTen n).isFinite = true := by
  obtain ⟨m, e, _, found, -⟩ := represents_powerOfTen bounded
  change (powerOfTen n).toModel.unpack.isFinite = true
  rw [found]
  rfl

theorem isFinite_div_powerOfTen {x : Float} (finite : x.isFinite = true) {n : Nat} (positive : 0 < n)
    (bounded : n ≤ 308) : (x / powerOfTen n).isFinite = true := by
  refine (represents_powerOfTen bounded).isFinite_div finite ?_
  calc 2 ≤ 10 ^ 1 := by decide
    _ ≤ 10 ^ n := Nat.pow_le_pow_right (by decide) positive

/-- One step is enough for the exponents of the powers in use. -/
theorem scaleFrom_of_near {fuel : Nat} {x : Float} {e : Int} (near : e.natAbs ≤ 308) :
    scaleFrom fuel x e =
      if 0 ≤ e then
        if (x * powerOfTen e.toNat).isInf then none else some (x * powerOfTen e.toNat)
      else some (x / powerOfTen e.natAbs) := by
  cases fuel <;> rw [scaleFrom, if_pos near]

theorem isFinite_of_near {fuel : Nat} {x y : Float} {e : Int} (finite : x.isFinite = true)
    (near : e.natAbs ≤ 308) (scaled : scaleFrom fuel x e = some y) : y.isFinite = true := by
  rw [scaleFrom_of_near near] at scaled
  split_ifs at scaled with up infinite
  · cases scaled
    exact isFinite_mul_of_isInf finite (isFinite_powerOfTen (by omega))
      (Bool.eq_false_iff.2 infinite)
  · cases scaled
    exact isFinite_div_powerOfTen finite (by omega) near

theorem isFinite_of_scaleFrom {fuel : Nat} {x y : Float} {e : Int} (finite : x.isFinite = true)
    (scaled : scaleFrom fuel x e = some y) : y.isFinite = true := by
  induction fuel generalizing x e with
  | zero =>
    by_cases near : e.natAbs ≤ 308
    · exact isFinite_of_near finite near scaled
    · rw [scaleFrom, if_neg near] at scaled
      split_ifs at scaled
      · cases scaled
        exact finite
      · cases scaled
        decide +kernel
  | succ fuel ih =>
    by_cases near : e.natAbs ≤ 308
    · exact isFinite_of_near finite near scaled
    · rw [scaleFrom, if_neg near] at scaled
      split_ifs at scaled
      · cases scaled
        exact finite
      · exact ih (isFinite_div_powerOfTen finite (by decide) le_rfl) scaled

theorem isSome_scaleFrom {fuel : Nat} {x : Float} {e : Int} (negative : e < 0) :
    (scaleFrom fuel x e).isSome = true := by
  induction fuel generalizing x e with
  | zero =>
    unfold scaleFrom
    split_ifs
    · omega
    · rfl
    · rfl
    · omega
    · rfl
  | succ fuel ih =>
    unfold scaleFrom
    split_ifs
    · omega
    · rfl
    · rfl
    · omega
    · exact ih (by omega)

theorem ceiling_lt : ceiling < 10 ^ 309 := by
  decide +kernel

theorem isSome_scale {s n : Nat} (collected : s ≤ significandLimit)
    (bounded : s * 10 ^ n ≤ ceiling) : (scale (Float.ofNat s) n).isSome = true := by
  unfold scale
  by_cases near : (n : Int).natAbs ≤ 308
  · rw [scaleFrom_of_near near, if_pos (Int.natCast_nonneg n)]
    have finite : (Float.ofNat s * powerOfTen n).isFinite = true := by
      rcases Nat.eq_zero_or_pos s with rfl | positive
      · exact isFinite_zero_mul unpack_ofNat_zero (isFinite_powerOfTen (by omega))
      · exact isFinite_scaled positive collected bounded (by omega)
    rw [Int.toNat_natCast, isInf_of_isFinite finite, if_neg (by decide)]
    rfl
  -- A power that large leaves no room for a significand but zero.
  · have zero : s = 0 := by
      by_contra positive
      have power : 10 ^ n ≤ s * 10 ^ n := Nat.le_mul_of_pos_left _ (Nat.pos_of_ne_zero positive)
      have := (Nat.pow_lt_pow_iff_right (by decide : 1 < 10)).1
        (lt_of_le_of_lt (power.trans bounded) ceiling_lt)
      omega
    subst zero
    rw [scaleFrom, if_neg near, if_pos (by decide +kernel)]
    rfl

/-! ## Literals -/

theorem toFloat?_eq {n : Number} (fitting : n.whole ≤ significandLimit)
    (marked : n.fraction ≠ [] ∨ n.exponent.isSome = true) :
    n.toFloat? = (scale (Float.ofNat (collect n.whole n.fraction).1)
      (n.exponent.getD 0 - (n.fraction.length - (collect n.whole n.fraction).2.length : Nat))).map
        n.signed := by
  have whole := collect_digitList fitting
  rw [digitList] at whole
  have other : ¬(([] : List (Fin 10)).isEmpty && n.fraction.isEmpty && n.exponent.isNone) = true := by
    rcases marked with more | shifted
    · simp [more]
    · simp [Option.isSome_iff_ne_none.1 shifted]
  rw [toFloat?, whole]
  dsimp only
  rw [if_neg other]
  congr 2
  simp only [List.length_nil, Nat.cast_zero]
  omega

theorem extend_zero (ds : List (Fin 10)) : extend 0 ds = valueOf ds := rfl

theorem lt_pow_length (n : Nat) : n < 10 ^ (digitList n).length := by
  have below := extend_lt 0 (digitList n)
  rw [extend_zero, valueOf_digitList] at below
  omega

/-- The literal of a decimal has a point, or its digits are those of the decimal. In either case
what stands before the point is short. -/
theorem ofDecimal_shape (negative : Bool) (d : Decimal.Unsigned) :
    (ofDecimal negative d).whole < 10 ^ 17 ∧
      ((ofDecimal negative d).exponent = none ∧ (ofDecimal negative d).fraction ≠ [] ∨
        (ofDecimal negative d).exponent = some ((ofDecimal negative d).fraction.length + d.exponent) ∧
          extend (ofDecimal negative d).whole (ofDecimal negative d).fraction = d.coefficient) := by
  have below := lt_pow_length d.coefficient
  have filled := digitList_ne_nil d.coefficient
  have value := valueOf_digitList d.coefficient
  have written : (Text.digits d.coefficient).map digitOf = digitList d.coefficient := rfl
  simp only [ofDecimal, written]
  generalize digitList d.coefficient = digits at *
  split_ifs with zero short whole
  · refine ⟨?_, .inl ⟨rfl, by simp⟩⟩
    exact (by decide : 0 < 10 ^ 17)
  · refine ⟨?_, .inl ⟨rfl, by simp⟩⟩
    calc d.coefficient * 10 ^ d.exponent.toNat < 10 ^ digits.length * 10 ^ d.exponent.toNat :=
          Nat.mul_lt_mul_of_pos_right below (by positivity)
      _ = 10 ^ (digits.length + d.exponent.toNat) := (pow_add _ _ _).symm
      _ ≤ 10 ^ 17 := Nat.pow_le_pow_right (by decide) (by omega)
  · refine ⟨?_, .inl ⟨rfl, ?_⟩⟩
    · refine lt_of_lt_of_le (extend_lt 0 _) ?_
      rw [zero_add, one_mul]
      refine Nat.pow_le_pow_right (by decide) ((List.length_take_le _ _).trans ?_)
      rw [List.length_append, List.length_replicate]
      omega
    · rw [← List.length_pos_iff, List.length_drop, List.length_append, List.length_replicate]
      omega
  · obtain ⟨first, rest, rfl⟩ := List.exists_cons_of_ne_nil filled
    refine ⟨?_, .inr ⟨?_, value⟩⟩
    · exact lt_of_lt_of_le (extend_lt 0 [first]) (by decide : (0 + 1) * 10 ^ 1 ≤ 10 ^ 17)
    · simp

theorem isSome_toFloat?_ofDecimal (negative : Bool) {d : Decimal.Unsigned}
    (bounded : d.value ≤ ceiling) : (ofDecimal negative d).toFloat?.isSome = true := by
  obtain ⟨short, shape⟩ := ofDecimal_shape negative d
  generalize ofDecimal negative d = n at short shape
  have fitting : n.whole ≤ significandLimit := short.le.trans (by decide)
  have marked : n.fraction ≠ [] ∨ n.exponent.isSome = true := by
    rcases shape with ⟨-, filled⟩ | ⟨shifted, -⟩
    · exact .inl filled
    · exact .inr (by rw [shifted]; rfl)
  have collected := collect_le fitting n.fraction
  have left := length_collect_le n.whole n.fraction
  have product := collect_mul_le n.whole n.fraction
  rw [toFloat?_eq fitting marked, Option.isSome_map]
  generalize collect n.whole n.fraction = taken at *
  by_cases negative : n.exponent.getD 0 - (n.fraction.length - taken.2.length : Nat) < 0
  · exact isSome_scaleFrom negative
  obtain ⟨places, total⟩ := Int.eq_ofNat_of_zero_le (not_lt.1 negative)
  rw [total]
  refine isSome_scale collected ?_
  rcases shape with ⟨plain, -⟩ | ⟨shifted, digits⟩
  · -- Without an exponent nothing is left to scale up.
    rw [plain, Option.getD_none] at total
    have none : places = 0 := by omega
    rw [none, pow_zero, mul_one]
    exact collected.trans (by decide +kernel)
  -- With one the digits that were left over are scaled up again, and the decimal bounds them.
  · rw [shifted, Option.getD_some] at total
    have exponent : (places : Int) = taken.2.length + d.exponent := by omega
    rw [digits] at product
    have unit : (0 : ℚ) < 10 ^ d.exponent := zpow_pos (by norm_num) _
    have below : (taken.1 : ℚ) * 10 ^ places ≤ ceiling := by
      calc (taken.1 : ℚ) * 10 ^ places = taken.1 * 10 ^ taken.2.length * 10 ^ d.exponent := by
            rw [← zpow_natCast, exponent, zpow_add₀ (by norm_num), zpow_natCast, mul_assoc]
        _ ≤ d.coefficient * 10 ^ d.exponent :=
            mul_le_mul_of_nonneg_right (by exact_mod_cast product) unit.le
        _ ≤ ceiling := bounded
    exact_mod_cast below

theorem isFinite_of_toFloat? {n : Number} {x : Float} (found : n.toFloat? = some x) :
    x.isFinite = true := by
  have signed : ∀ {y : Float}, y.isFinite = true → (n.signed y).isFinite = true := by
    intro y finite
    unfold Number.signed
    split_ifs
    · exact isFinite_neg finite
    · exact finite
  have fitting := collect_le (by decide : 0 ≤ significandLimit) ((Text.digits n.whole).map digitOf)
  unfold toFloat? at found
  generalize collect 0 ((Text.digits n.whole).map digitOf) = taken at found fitting
  dsimp only at found
  split_ifs at found with integer
  · cases found
    exact signed (isFinite_ofNat fitting)
  · obtain ⟨y, scaled, rfl⟩ := Option.map_eq_some_iff.1 found
    exact signed (isFinite_of_scaleFrom (isFinite_ofNat (collect_le fitting n.fraction)) scaled)

end GuidedExploration.Json.Number
