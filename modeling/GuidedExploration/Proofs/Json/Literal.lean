import GuidedExploration.Json.Float
import GuidedExploration.Json.Printer
import GuidedExploration.Json.Reader
import GuidedExploration.Proofs.Text.Numeral
import Mathlib.Data.List.Basic
import Mathlib.Tactic.SplitIfs

/-!
Literals are read back as they were written: strings character by character, numbers digit by
digit.
-/

set_option autoImplicit false

namespace GuidedExploration.Json

open Text (digitChar digits)

/-! ## Numbers -/

def digitList (n : Nat) : List (Fin 10) := (digits n).map Number.digitOf

theorem digitOf_digitChar {d : Nat} (small : d < 10) : Number.digitOf (digitChar d) = ⟨d, small⟩ := by
  rw [Number.digitOf, Text.digitChar_toNat small]
  ext
  simp [Nat.mod_eq_of_lt small]

theorem digitList_of_lt {n : Nat} (small : n < 10) : digitList n = [⟨n, small⟩] := by
  rw [digitList, Text.digits_of_lt small, List.map_singleton, digitOf_digitChar small]

theorem digitList_of_ge {n : Nat} (large : 10 ≤ n) :
    digitList n = digitList (n / 10) ++ [⟨n % 10, Nat.mod_lt n (by decide)⟩] := by
  rw [digitList, Text.digits_of_ge large, List.map_append, List.map_singleton,
    digitOf_digitChar (Nat.mod_lt n (by decide)), digitList]

theorem valueOf_concat (ds : List (Fin 10)) (d : Fin 10) :
    valueOf (ds ++ [d]) = 10 * valueOf ds + d.val := by
  simp [valueOf]

theorem valueOf_digitList (n : Nat) : valueOf (digitList n) = n := by
  induction n using Nat.strongRecOn with
  | ind n ih =>
    by_cases small : n < 10
    · simp [digitList_of_lt small, valueOf]
    · have tenth : n / 10 < n := by omega
      rw [digitList_of_ge (by omega), valueOf_concat, ih (n / 10) tenth]
      exact Nat.div_add_mod n 10

theorem digitList_ne_nil (n : Nat) : digitList n ≠ [] := by
  by_cases small : n < 10
  · simp [digitList_of_lt small]
  · simp [digitList_of_ge (Nat.le_of_not_lt small)]

theorem head_digitList {n : Nat} {d : Fin 10} {more : List (Fin 10)}
    (written : digitList n = d :: more) (zero : d.val = 0) : more = [] := by
  induction n using Nat.strongRecOn generalizing more with
  | ind n ih =>
    by_cases small : n < 10
    · rw [digitList_of_lt small] at written
      exact (List.cons.inj written).2.symm
    · rw [digitList_of_ge (by omega)] at written
      obtain ⟨e, rest, front⟩ := List.exists_cons_of_ne_nil (digitList_ne_nil (n / 10))
      rw [front, List.cons_append] at written
      obtain ⟨rfl, rfl⟩ := List.cons.inj written
      -- A zero in front of other digits would stand alone before the last one, and be a tenth of `n`.
      have alone := ih (n / 10) (by omega) front
      have value := valueOf_digitList (n / 10)
      rw [front, alone] at value
      simp [valueOf, zero] at value
      omega

theorem map_digitChar_digitList (n : Nat) :
    (digitList n).map (fun d => digitChar d.val) = digits n := by
  induction n using Nat.strongRecOn with
  | ind n ih =>
    by_cases small : n < 10
    · simp [digitList_of_lt small, Text.digits_of_lt small]
    · have tenth : n / 10 < n := by omega
      rw [digitList_of_ge (by omega), List.map_append, ih (n / 10) tenth,
        Text.digits_of_ge (n := n) (by omega)]
      rfl

def NoDigit (s : List Char) : Prop := ∀ c rest, s = c :: rest → fin10? c = none

theorem fin10?_digitChar (d : Fin 10) : fin10? (digitChar d.val) = some d := by
  simp [fin10?, Text.digit?_digitChar d.isLt]

theorem leadingDigits_map (ds : List (Fin 10)) {rest : List Char} (ended : NoDigit rest) :
    leadingDigits (ds.map (fun d => digitChar d.val) ++ rest) = (ds, rest) := by
  induction ds with
  | nil =>
    cases rest with
    | nil => rfl
    | cons c rest => simp [leadingDigits, ended c rest rfl]
  | cons d ds ih => simp [leadingDigits, fin10?_digitChar, ih]

theorem leadingDigits_digits (n : Nat) {rest : List Char} (ended : NoDigit rest) :
    leadingDigits (digits n ++ rest) = (digitList n, rest) := by
  rw [← map_digitChar_digitList n]
  exact leadingDigits_map (digitList n) ended

def EndsNumber (s : List Char) : Prop :=
  ∀ c rest, s = c :: rest → fin10? c = none ∧ c ≠ '.' ∧ c ≠ 'e' ∧ c ≠ 'E'

theorem EndsNumber.noDigit {s : List Char} (ended : EndsNumber s) : NoDigit s :=
  fun c rest shape => (ended c rest shape).1

theorem NoDigit.cons {c : Char} (other : fin10? c = none) (rest : List Char) : NoDigit (c :: rest) := by
  intro d more shape
  rw [(List.cons.inj shape).1.symm]
  exact other

theorem noDigit_exponentChars (exponent : Option Int) {rest : List Char}
    (ended : EndsNumber rest) : NoDigit (exponentChars exponent ++ rest) := by
  rcases exponent with _ | ⟨n⟩ | n
  · exact ended.noDigit
  · exact .cons (by decide) _
  · exact .cons (by decide) _

theorem noDigit_fractionChars (fraction : List (Fin 10)) {rest : List Char}
    (ended : NoDigit rest) : NoDigit (fractionChars fraction ++ rest) := by
  cases fraction with
  | nil => exact ended
  | cons d ds => exact .cons (by decide) _

theorem whole?_digits (n : Nat) {rest : List Char} (ended : NoDigit rest) :
    whole? (digits n ++ rest) = some (n, rest) := by
  obtain ⟨d, more, shape⟩ := List.exists_cons_of_ne_nil (digitList_ne_nil n)
  have value := valueOf_digitList n
  have first : ¬(d.val = 0 ∧ more ≠ []) := fun ⟨zero, others⟩ => others (head_digitList shape zero)
  rw [shape] at value
  simp only [whole?, leadingDigits_digits n ended, shape, if_neg first, value]

theorem fraction?_fractionChars (fraction : List (Fin 10)) {exponent : Option Int}
    {rest : List Char} (ended : EndsNumber rest) :
    fraction? (fractionChars fraction ++ (exponentChars exponent ++ rest)) =
      some (fraction, exponentChars exponent ++ rest) := by
  cases fraction with
  | nil =>
    rcases exponent with _ | ⟨n⟩ | n
    · cases rest with
      | nil => rfl
      | cons c rest =>
        have other := (ended c rest rfl).2.1
        simp [fractionChars, exponentChars, fraction?, other]
    · rfl
    · rfl
  | cons d ds =>
    have found := leadingDigits_map (d :: ds) (noDigit_exponentChars exponent ended)
    simp only [fractionChars, List.isEmpty_cons, List.cons_append, fraction?, Bool.false_eq_true,
      if_false, found]

theorem exponent?_exponentChars (exponent : Option Int) {rest : List Char}
    (ended : EndsNumber rest) :
    exponent? (exponentChars exponent ++ rest) = some (exponent, rest) := by
  rcases exponent with _ | ⟨n⟩ | n
  · cases rest with
    | nil => rfl
    | cons c rest =>
      obtain ⟨-, -, lower, upper⟩ := ended c rest rfl
      simp [exponentChars, exponent?, lower, upper]
  · have found := leadingDigits_digits n ended.noDigit
    obtain ⟨d, more, shape⟩ := List.exists_cons_of_ne_nil (digitList_ne_nil n)
    have value := valueOf_digitList n
    rw [shape] at found value
    simp [exponentChars, exponent?, found, value]
  · have found := leadingDigits_digits (n + 1) ended.noDigit
    obtain ⟨d, more, shape⟩ := List.exists_cons_of_ne_nil (digitList_ne_nil (n + 1))
    have value := valueOf_digitList (n + 1)
    rw [shape] at found value
    simp [exponentChars, exponent?, found, value]
    omega

theorem unsigned?_chars (n : Number) {rest : List Char} (ended : EndsNumber rest) :
    unsigned? n.negative (digits n.whole ++ (fractionChars n.fraction ++
      (exponentChars n.exponent ++ rest))) = some (n, rest) := by
  have whole := whole?_digits n.whole
    (noDigit_fractionChars n.fraction (noDigit_exponentChars n.exponent ended))
  simp only [unsigned?, whole, fraction?_fractionChars n.fraction ended,
    exponent?_exponentChars n.exponent ended, Option.bind_eq_bind, Option.bind_some]
  rfl

theorem digitChar_ne (d : Fin 10) {c : Char} (other : fin10? c = none) : digitChar d.val ≠ c := by
  intro same
  rw [← same, fin10?_digitChar] at other
  cases other

theorem exists_digits (n : Nat) : ∃ (d : Fin 10) (more : List Char), digits n = digitChar d.val :: more := by
  obtain ⟨d, more, shape⟩ := List.exists_cons_of_ne_nil (digitList_ne_nil n)
  exact ⟨d, _, by rw [← map_digitChar_digitList, shape, List.map_cons]⟩

theorem number?_numberChars (n : Number) {rest : List Char} (ended : EndsNumber rest) :
    number? (numberChars n ++ rest) = some (n, rest) := by
  have read := unsigned?_chars n ended
  simp only [numberChars, List.append_assoc]
  cases sign : n.negative with
  | true =>
    rw [sign] at read
    exact read
  | false =>
    rw [sign] at read
    obtain ⟨d, more, start⟩ := exists_digits n.whole
    have plain : digitChar d.val ≠ '-' := digitChar_ne d (by decide)
    rw [start] at read ⊢
    simpa [number?, plain] using read

/-! ## Strings -/

def pieceOf (c : Char) : Piece :=
  if c.toNat < 32 ∧ c ≠ '\n' ∧ c ≠ '\r' ∧ c ≠ '\t' ∧ c.toNat ≠ 8 ∧ c.toNat ≠ 12 then .unit c.toNat
  else .char c

def withPiece (piece : Piece) : List Piece × List Char → List Piece × List Char
  | (more, rest) => (piece :: more, rest)

theorem pieces_escaped {letter c : Char} (plain : letter ≠ 'u')
    (stands : escaped? letter = some c) (rest : List Char) :
    pieces ('\\' :: letter :: rest) = (pieces rest).map (withPiece (.char c)) := by
  rw [pieces]
  · rw [stands]
    cases pieces rest <;> rfl
  · intro _ _ _ _ _ same
    exact absurd same plain

theorem pieces_unit {a b c d : Char} {code : Nat} (spelt : unit? a b c d = some code)
    (rest : List Char) :
    pieces ('\\' :: 'u' :: a :: b :: c :: d :: rest) =
      (pieces rest).map (withPiece (.unit code)) := by
  rw [pieces, spelt]
  cases pieces rest <;> rfl

theorem pieces_char {c : Char} (quote : c ≠ '"') (backslash : c ≠ '\\') (visible : ¬c.toNat < 32)
    (rest : List Char) : pieces (c :: rest) = (pieces rest).map (withPiece (.char c)) := by
  rw [pieces]
  · rw [if_neg (by simp [backslash, visible])]
    cases pieces rest <;> rfl
  · exact quote
  · intro _ _ _ _ _ same
    exact absurd same backslash
  · intro _ _ same
    exact absurd same backslash

theorem unit?_hexDigit {n : Nat} (small : n < 32) :
    unit? '0' '0' (Text.hexDigit (n / 16)) (Text.hexDigit (n % 16)) = some n := by
  have zero : Text.hexDigit? '0' = some 0 := rfl
  simp only [unit?, zero, Text.hexDigit?_hexDigit (show n / 16 < 16 by omega),
    Text.hexDigit?_hexDigit (show n % 16 < 16 by omega), Option.bind_eq_bind, Option.bind_some]
  exact congrArg some (by omega)

theorem pieces_escape (c : Char) (rest : List Char) :
    pieces (escape c ++ rest) = (pieces rest).map (withPiece (pieceOf c)) := by
  -- Two control characters are told by their codes, the others by themselves.
  have ofToNat : ∀ n, c.toNat = n → c = Char.ofNat n := fun n same => by
    rw [← same, Char.ofNat_toNat]
  unfold escape
  split_ifs with quote backslash feed carriage tab back form control
  · subst quote
    exact pieces_escaped (by decide) (by decide) rest
  · subst backslash
    exact pieces_escaped (by decide) (by decide) rest
  · subst feed
    exact pieces_escaped (by decide) (by decide) rest
  · subst carriage
    exact pieces_escaped (by decide) (by decide) rest
  · subst tab
    exact pieces_escaped (by decide) (by decide) rest
  · rw [ofToNat 8 back]
    exact pieces_escaped (by decide) (by decide) rest
  · rw [ofToNat 12 form]
    exact pieces_escaped (by decide) (by decide) rest
  · have rare : pieceOf c = .unit c.toNat := if_pos ⟨control, feed, carriage, tab, back, form⟩
    rw [rare]
    exact pieces_unit (unit?_hexDigit control) rest
  · have plain : pieceOf c = .char c := if_neg fun rare => control rare.1
    rw [plain]
    exact pieces_char quote backslash control rest

theorem pieces_flatMap_escape (s rest : List Char) :
    pieces (s.flatMap escape ++ '"' :: rest) = some (s.map pieceOf, rest) := by
  induction s with
  | nil => simp [pieces]
  | cons c s ih =>
    rw [List.flatMap_cons, List.append_assoc, pieces_escape, ih]
    rfl

theorem spell?_unit {code : Nat} (low : code < 0xD800) (more : List Piece) :
    spell? (.unit code :: more) = (spell? more).map (Char.ofNat code :: ·) := by
  have notHigh : ¬(0xD800 ≤ code ∧ code < 0xDC00) := by omega
  have notLow : ¬(0xDC00 ≤ code ∧ code < 0xE000) := by omega
  have neither : ¬(0xD800 ≤ code ∧ code < 0xE000) := by omega
  rcases more with _ | ⟨_ | _, more⟩
  · simp only [spell?, if_neg neither]
  · simp only [spell?, if_neg neither]
  · simp only [spell?, if_neg notHigh, if_neg notLow]

theorem spell?_pieces (s : List Char) : spell? (s.map pieceOf) = some s := by
  induction s with
  | nil => rfl
  | cons c s ih =>
    rw [List.map_cons]
    by_cases rare : c.toNat < 32 ∧ c ≠ '\n' ∧ c ≠ '\r' ∧ c ≠ '\t' ∧ c.toNat ≠ 8 ∧ c.toNat ≠ 12
    · rw [pieceOf, if_pos rare, spell?_unit (by omega), ih, Char.ofNat_toNat]
      rfl
    · rw [pieceOf, if_neg rare, spell?, ih]
      rfl

theorem string?_literal (text : Option String) (rest : List Char) :
    ∃ inner, literal text ++ rest = '"' :: inner ∧ string? inner = some (text, rest) := by
  cases text with
  | none => exact ⟨_, rfl, rfl⟩
  | some s =>
    refine ⟨s.toList.flatMap escape ++ '"' :: rest, by simp [literal], ?_⟩
    simp only [string?, pieces_flatMap_escape, spell?_pieces, Option.map_some, String.ofList_toList]

end GuidedExploration.Json
