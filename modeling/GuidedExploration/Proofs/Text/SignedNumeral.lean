import GuidedExploration.Proofs.Text.Numeral
import Mathlib.Data.List.Induction

/-!
Integers with a sign of either kind, and, among all that spell one integer, the text that it is
written with.
-/

set_option autoImplicit false

namespace GuidedExploration.Text

/-! ## What spells an integer -/

inductive SpellsSigned : List Char → Int → Prop where
  | bare {s : List Char} {n : Int} : Spells s n → SpellsSigned s n
  | plus {digits : List Char} : digits ≠ [] → (∀ c ∈ digits, c.isDigit = true) →
      SpellsSigned ('+' :: digits) (Nat.ofDigitChars 10 digits 0)

theorem not_spells_plus (s : List Char) (n : Int) : ¬Spells ('+' :: s) n := by
  intro spelled
  rcases spelled.mem List.mem_cons_self with same | digit
  · cases same
  · cases digit

theorem signedInteger?_eq_some_iff {n : Int} {s : List Char} :
    signedInteger? s = some n ↔ SpellsSigned s n := by
  constructor
  · intro read
    unfold signedInteger? at read
    split at read
    · obtain ⟨_, lifted, rfl⟩ := Option.map_eq_some_iff.1 read
      obtain ⟨m, found, same⟩ := Option.bind_eq_some_iff.1 lifted
      obtain ⟨filled, digits, rfl⟩ := natural?_eq_some_iff.1 found
      cases same
      exact .plus filled digits
    · exact .bare (integer?_eq_some_iff.1 read)
  · intro spelled
    cases spelled with
    | bare spelled =>
      unfold signedInteger?
      split
      · exact absurd spelled (not_spells_plus _ n)
      · exact integer?_eq_some_iff.2 spelled
    | plus filled digits =>
      rw [signedInteger?, natural?_eq_some_iff.2 ⟨filled, digits, rfl⟩]
      rfl

theorem SpellsSigned.mem {n : Int} {s : List Char} (spelled : SpellsSigned s n) {c : Char}
    (member : c ∈ s) : c = '+' ∨ c = '-' ∨ c.isDigit = true := by
  cases spelled with
  | bare spelled => exact .inr (spelled.mem member)
  | plus _ digits =>
    rcases List.mem_cons.1 member with rfl | digit
    · exact .inl rfl
    · exact .inr (.inr (digits c digit))

theorem SpellsSigned.colon_notMem {n : Int} {s : List Char} (spelled : SpellsSigned s n) :
    ':' ∉ s := by
  intro member
  rcases spelled.mem member with same | same | digit
  · cases same
  · cases same
  · cases digit

theorem spellsSigned_integer (n : Int) : SpellsSigned (integer n) n :=
  signedInteger?_eq_some_iff.1 (signedInteger?_integer n)

/-! ## How an integer is written -/

/-- A text without a plus sign, without zeros in front of other digits, and without a minus sign in
front of a zero. -/
inductive Canonical : List Char → Prop where
  | zero : Canonical ['0']
  | positive {c : Char} {digits : List Char} : c ≠ '0' →
      (∀ d ∈ c :: digits, d.isDigit = true) → Canonical (c :: digits)
  | negative {c : Char} {digits : List Char} : c ≠ '0' →
      (∀ d ∈ c :: digits, d.isDigit = true) → Canonical ('-' :: c :: digits)

theorem digitChar_sub {c : Char} (digit : c.isDigit = true) :
    c.toNat - '0'.toNat < 10 ∧ digitChar (c.toNat - '0'.toNat) = c := by
  have value := digit?_eq c
  rw [if_pos digit, digit?] at value
  split at value
  · next range =>
    have small : c.toNat - '0'.toNat < 10 := by
      change c.toNat - 48 < 10
      omega
    refine ⟨small, Char.toNat_inj.1 ?_⟩
    rw [digitChar_toNat small]
    change 48 + (c.toNat - 48) = c.toNat
    omega
  · cases value

theorem exists_digits_of_pos {n : Nat} (positive : 0 < n) :
    ∃ c s, digits n = c :: s ∧ c ≠ '0' := by
  induction n using Nat.strongRecOn with
  | ind n ih =>
    by_cases small : n < 10
    · refine ⟨digitChar n, [], digits_of_lt small, fun same => ?_⟩
      have value := digitChar_toNat small
      rw [same] at value
      change 48 = 48 + n at value
      omega
    · obtain ⟨c, s, shape, first⟩ := ih (n / 10) (by omega) (by omega)
      exact ⟨c, s ++ [digitChar (n % 10)], by rw [digits_of_ge (by omega), shape]; rfl, first⟩

theorem digits_ofDigitChars {c : Char} {s : List Char} (first : c ≠ '0')
    (plain : ∀ d ∈ c :: s, d.isDigit = true) :
    digits (Nat.ofDigitChars 10 (c :: s) 0) = c :: s := by
  induction s using List.reverseRecOn with
  | nil =>
    obtain ⟨small, same⟩ := digitChar_sub (plain c List.mem_cons_self)
    rw [Nat.ofDigitChars_cons, Nat.ofDigitChars_nil, Nat.mul_zero, Nat.zero_add, digits_of_lt small,
      same]
  | append_singleton s d ih =>
    have front := ih fun e member => plain e (by grind)
    obtain ⟨small, same⟩ := digitChar_sub (plain d (by simp))
    have positive : 0 < Nat.ofDigitChars 10 (c :: s) 0 := by
      by_contra zero
      rw [Nat.eq_zero_of_not_pos zero, digits_of_lt (by decide)] at front
      exact first (List.cons.inj front).1.symm
    rw [← List.cons_append, Nat.ofDigitChars_append, Nat.ofDigitChars_cons, Nat.ofDigitChars_nil]
    generalize Nat.ofDigitChars 10 (c :: s) 0 = value at front positive
    rw [digits_of_ge (by omega), Nat.mul_add_mod, Nat.mod_eq_of_lt small, same,
      show (10 * value + (d.toNat - '0'.toNat)) / 10 = value by omega, front]

theorem canonical_integer (n : Int) : Canonical (integer n) := by
  have plain : ∀ m, ∀ d ∈ digits m, d.isDigit = true := fun m d member =>
    (isDigit_eq d).symm.trans (isDigit_of_mem_digits member)
  cases n with
  | ofNat m =>
    cases m with
    | zero => exact .zero
    | succ m =>
      obtain ⟨c, s, shape, first⟩ := exists_digits_of_pos m.succ_pos
      have all := plain (m + 1)
      rw [shape] at all
      change Canonical (digits (m + 1))
      rw [shape]
      exact .positive first all
  | negSucc m =>
    obtain ⟨c, s, shape, first⟩ := exists_digits_of_pos m.succ_pos
    have all := plain (m + 1)
    rw [shape] at all
    change Canonical ('-' :: digits (m + 1))
    rw [shape]
    exact .negative first all

theorem Canonical.exists_integer {s : List Char} (canonical : Canonical s) :
    ∃ n, s = integer n := by
  cases canonical with
  | zero => exact ⟨0, rfl⟩
  | @positive c digits first plain =>
    exact ⟨.ofNat (Nat.ofDigitChars 10 (c :: digits) 0), (digits_ofDigitChars first plain).symm⟩
  | @negative c digits first plain =>
    have same := digits_ofDigitChars first plain
    cases value : Nat.ofDigitChars 10 (c :: digits) 0 with
    | zero =>
      rw [value, digits_of_lt (by decide)] at same
      exact absurd (List.cons.inj same).1.symm first
    | succ m => exact ⟨.negSucc m, by rw [integer, ← value, same]⟩

theorem SpellsSigned.canonical_iff {s : List Char} {n : Int} (spelled : SpellsSigned s n) :
    Canonical s ↔ s = integer n := by
  refine ⟨fun canonical => ?_, fun same => same ▸ canonical_integer n⟩
  obtain ⟨m, rfl⟩ := canonical.exists_integer
  have read := signedInteger?_eq_some_iff.2 spelled
  rw [signedInteger?_integer] at read
  cases read
  rfl

end GuidedExploration.Text
