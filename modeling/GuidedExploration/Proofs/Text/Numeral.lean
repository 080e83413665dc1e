import GuidedExploration.Text.Numeral

/-!
The digits of a number from the last one on: what stands before the last digit are the digits of a
tenth of the number. An integer is read back from the characters it is written with, and from those
alone that spell it.
-/

set_option autoImplicit false

namespace GuidedExploration.Text

theorem digitsOnto_append {fuel n : Nat} (enough : n < fuel) (tail : List Char) :
    digitsOnto fuel n tail = digits n ++ tail := by
  induction n using Nat.strongRecOn generalizing fuel tail with
  | ind n ih =>
    obtain ⟨fuel, rfl⟩ : ∃ k, fuel = k + 1 := ⟨fuel - 1, by omega⟩
    unfold digits digitsOnto
    by_cases small : n < 10
    · simp only [small, if_true, List.cons_append, List.nil_append]
    · have tenth : n / 10 < n := by omega
      simp only [small, if_false]
      rw [ih (n / 10) tenth (by omega), ih (n / 10) tenth (by omega), List.append_assoc,
        List.cons_append, List.nil_append]

theorem digits_of_lt {n : Nat} (small : n < 10) : digits n = [digitChar n] := by
  unfold digits digitsOnto
  rw [if_pos small]

theorem digits_of_ge {n : Nat} (large : 10 ≤ n) :
    digits n = digits (n / 10) ++ [digitChar (n % 10)] := by
  have tenth : n / 10 < n := by omega
  conv => lhs; unfold digits digitsOnto
  rw [if_neg (by omega)]
  exact digitsOnto_append tenth _

theorem digits_ne_nil (n : Nat) : digits n ≠ [] := digitsOnto_ne_nil n n []

theorem digitChar_toNat {d : Nat} (small : d < 10) : (digitChar d).toNat = 48 + d := by
  revert d
  decide

theorem hexDigit?_hexDigit {d : Nat} (small : d < 16) : hexDigit? (hexDigit d) = some d := by
  revert d
  decide

theorem isDigit_of_mem_digits {n : Nat} {c : Char} (member : c ∈ digits n) : isDigit c = true := by
  induction n using Nat.strongRecOn with
  | ind n ih =>
    by_cases small : n < 10
    · rw [digits_of_lt small, List.mem_singleton] at member
      rw [member, isDigit, digit?_digitChar small]
      rfl
    · rw [digits_of_ge (by omega), List.mem_append, List.mem_singleton] at member
      rcases member with front | rfl
      · exact ih (n / 10) (by omega) front
      · rw [isDigit, digit?_digitChar (Nat.mod_lt n (by decide))]
        rfl

theorem exists_digits_eq_cons (n : Nat) : ∃ c s, digits n = c :: s ∧ isDigit c = true := by
  obtain ⟨c, s, shape⟩ := List.exists_cons_of_ne_nil (digits_ne_nil n)
  exact ⟨c, s, shape, isDigit_of_mem_digits (shape ▸ List.mem_cons_self)⟩

theorem integer?_integer (n : Int) : integer? (integer n) = some n := by
  cases n with
  | ofNat m =>
    obtain ⟨c, s, shape, digit⟩ := exists_digits_eq_cons m
    have unsigned : c ≠ '-' := by
      rintro rfl
      cases digit
    have read := natural?_digits m
    rw [shape] at read
    simp [integer, integer?, shape, unsigned, read]
  | negSucc m => simp [integer, integer?, Int.negSucc_eq]

theorem signedInteger?_integer (n : Int) : signedInteger? (integer n) = some n := by
  have read := integer?_integer n
  obtain ⟨c, s, shape, unsigned⟩ : ∃ c s, integer n = c :: s ∧ c ≠ '+' := by
    cases n with
    | ofNat m =>
      obtain ⟨c, s, shape, digit⟩ := exists_digits_eq_cons m
      refine ⟨c, s, shape, ?_⟩
      rintro rfl
      cases digit
    | negSucc m => exact ⟨'-', _, rfl, by decide⟩
  rw [shape] at read ⊢
  simp [signedInteger?, unsigned, read]

theorem mem_integer {n : Int} {c : Char} (member : c ∈ integer n) : c = '-' ∨ isDigit c = true := by
  cases n with
  | ofNat m => exact .inr (isDigit_of_mem_digits member)
  | negSucc m =>
    rcases List.mem_cons.1 member with rfl | digit
    · exact .inl rfl
    · exact .inr (isDigit_of_mem_digits digit)

theorem int64?_toInt (n : Int64) : int64? n.toInt = some n := by
  have low := n.le_toInt
  have high := n.toInt_lt
  have fits : fitsSigned 64 n.toInt = true := by
    simp only [fitsSigned, Bool.and_eq_true, decide_eq_true_eq]
    exact ⟨low, high⟩
  rw [int64?, if_pos fits, Int64.ofInt_toInt]

/-! ## Ids with zeros in front -/

theorem naturalFrom_zeros (zeros : Nat) (digits : List Char) :
    naturalFrom 0 (List.replicate zeros '0' ++ digits) = naturalFrom 0 digits := by
  induction zeros with
  | zero => rfl
  | succ zeros ih =>
    rw [List.replicate_succ, List.cons_append]
    exact ih

theorem natural?_zeros (zeros : Nat) {digits : List Char} (filled : digits ≠ []) :
    natural? (List.replicate zeros '0' ++ digits) = natural? digits := by
  simp [natural?, filled, naturalFrom_zeros]

theorem integer?_of_isDigit {s : List Char} (digits : ∀ c ∈ s, isDigit c = true) :
    integer? s = (natural? s).map fun n => (n : Int) := by
  cases s with
  | nil => rfl
  | cons c s =>
    have unsigned : c ≠ '-' := by
      rintro rfl
      cases digits '-' List.mem_cons_self
    simp [integer?, unsigned]

/-! ## What spells an integer -/

theorem digit?_eq (c : Char) :
    digit? c = if c.isDigit = true then some (c.toNat - '0'.toNat) else none := by
  have range : c.isDigit = true ↔ 48 ≤ c.toNat ∧ c.toNat ≤ 57 := by
    simp only [Char.isDigit, Bool.and_eq_true, decide_eq_true_eq, ge_iff_le,
      UInt32.le_iff_toNat_le]
    rfl
  simp only [digit?, range]
  rfl

theorem isDigit_eq (c : Char) : isDigit c = c.isDigit := by
  rw [isDigit, digit?_eq]
  cases c.isDigit <;> rfl

/-- The texts of an integer: decimal digits, with a minus sign before them if it is negative. Zeros
in front do not matter, and zero may have a minus sign. -/
inductive Spells : List Char → Int → Prop where
  | unsigned {digits : List Char} : digits ≠ [] → (∀ c ∈ digits, c.isDigit = true) →
      Spells digits (Nat.ofDigitChars 10 digits 0)
  | signed {digits : List Char} : digits ≠ [] → (∀ c ∈ digits, c.isDigit = true) →
      Spells ('-' :: digits) (-(Nat.ofDigitChars 10 digits 0))

theorem naturalFrom_eq_some_iff {value n : Nat} {s : List Char} :
    naturalFrom value s = some n ↔
      (∀ c ∈ s, c.isDigit = true) ∧ Nat.ofDigitChars 10 s value = n := by
  induction s generalizing value with
  | nil => simp [naturalFrom]
  | cons c s ih =>
    rw [naturalFrom, digit?_eq, Nat.ofDigitChars_cons, List.forall_mem_cons]
    cases c.isDigit with
    | true => simp [ih]
    | false => simp

theorem natural?_eq_some_iff {n : Nat} {s : List Char} :
    natural? s = some n ↔
      s ≠ [] ∧ (∀ c ∈ s, c.isDigit = true) ∧ Nat.ofDigitChars 10 s 0 = n := by
  cases s with
  | nil => simp [natural?]
  | cons c s => simp [natural?, naturalFrom_eq_some_iff]

theorem integer?_eq_some_iff {n : Int} {s : List Char} : integer? s = some n ↔ Spells s n := by
  constructor
  · intro read
    unfold integer? at read
    split at read
    all_goals
      obtain ⟨_, lifted, rfl⟩ := Option.map_eq_some_iff.1 read
      obtain ⟨m, found, same⟩ := Option.bind_eq_some_iff.1 lifted
      obtain ⟨filled, digits, rfl⟩ := natural?_eq_some_iff.1 found
      cases same
    · exact .signed filled digits
    · exact .unsigned filled digits
  · intro spelled
    cases spelled with
    | unsigned filled digits =>
      rw [integer?_of_isDigit fun c member => (isDigit_eq c).trans (digits c member),
        natural?_eq_some_iff.2 ⟨filled, digits, rfl⟩]
      rfl
    | signed filled digits =>
      rw [integer?, natural?_eq_some_iff.2 ⟨filled, digits, rfl⟩]
      rfl

theorem Spells.mem {n : Int} {s : List Char} (spelled : Spells s n) {c : Char} (member : c ∈ s) :
    c = '-' ∨ c.isDigit = true := by
  cases spelled with
  | unsigned _ digits => exact .inr (digits c member)
  | signed _ digits =>
    rcases List.mem_cons.1 member with rfl | digit
    · exact .inl rfl
    · exact .inr (digits c digit)

theorem Spells.exists_concat {n : Int} {s : List Char} (spelled : Spells s n) :
    ∃ front c, s = front ++ [c] ∧ c.isDigit = true := by
  cases spelled with
  | unsigned filled digits =>
    obtain ⟨front, c, rfl⟩ := (List.eq_nil_or_concat s).resolve_left filled
    exact ⟨front, c, List.concat_eq_append, digits c (by simp)⟩
  | @signed digits filled plain =>
    obtain ⟨front, c, rfl⟩ := (List.eq_nil_or_concat digits).resolve_left filled
    exact ⟨'-' :: front, c, by simp, plain c (by simp)⟩

theorem int64?_eq_some_iff {n : Int} {word : Int64} : int64? n = some word ↔ n = word.toInt := by
  constructor
  · intro read
    unfold int64? at read
    split at read
    · next fits =>
      cases read
      simp only [fitsSigned, Bool.and_eq_true, decide_eq_true_eq] at fits
      exact (Int64.toInt_ofInt_of_le fits.1 fits.2).symm
    · cases read
  · rintro rfl
    exact int64?_toInt word

end GuidedExploration.Text
