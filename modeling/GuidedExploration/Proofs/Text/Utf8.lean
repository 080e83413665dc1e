import GuidedExploration.Proofs.Text.Cut
import GuidedExploration.Text.Utf8
import Mathlib.Tactic.SplitIfs

/-!
Bytes that are decoded in pieces. An ASCII byte is a character of its own and part of no other one,
ill-formed sequences included, so it makes no difference whether bytes are decoded before or after
they are cut at such a byte, into lines above all.
-/

set_option autoImplicit false

namespace GuidedExploration.Text

namespace Utf8

theorem decodeFrom_plain (state : Option Pending) {b : UInt8} (plain : b.toNat < 0x80)
    (bytes : List UInt8) :
    decodeFrom state (b :: bytes) =
      finish state ++ Char.ofNat b.toNat :: decodeFrom none bytes := by
  have started : start b.toNat = ([Char.ofNat b.toNat], none) := if_pos plain
  rw [decodeFrom_cons]
  cases state with
  | none => simp [step, finish, started]
  | some p =>
    have outside : ¬(p.low ≤ b.toNat ∧ b.toNat ≤ p.high) := by
      have continues := p.continues
      omega
    simp [step, outside, finish, started]

theorem decodeFrom_concat (state : Option Pending) (bytes : List UInt8) {b : UInt8}
    (plain : b.toNat < 0x80) :
    decodeFrom state (bytes ++ [b]) = decodeFrom state bytes ++ [Char.ofNat b.toNat] := by
  induction bytes generalizing state with
  | nil =>
    rw [List.nil_append, decodeFrom_plain state plain]
    rfl
  | cons first bytes ih =>
    rw [List.cons_append, decodeFrom_cons, decodeFrom_cons, ih, List.append_assoc]

/-- A byte that is a character of its own. NUL is left out: it also stands in for numbers that are no
characters. -/
def Plain (b : UInt8) : Prop := 0 < b.toNat ∧ b.toNat < 0x80

instance : DecidablePred Plain := fun b => inferInstanceAs (Decidable (0 < b.toNat ∧ b.toNat < 0x80))

def plainChar (b : UInt8) : Char := Char.ofNat b.toNat

theorem plain_lineFeed : Plain 10 := by decide

/-- Bytes can be decoded in two parts wherever a plain one stands. -/
theorem decodeLossy_append_plain {mark : UInt8} (plain : Plain mark) (bytes rest : List UInt8) :
    decodeLossy (bytes ++ mark :: rest) = decodeLossy bytes ++ plainChar mark :: decodeLossy rest := by
  have general : ∀ state, decodeFrom state (bytes ++ mark :: rest) =
      decodeFrom state bytes ++ plainChar mark :: decodeFrom none rest := by
    induction bytes with
    | nil => exact fun state => decodeFrom_plain state plain.2 rest
    | cons b bytes ih =>
      intro state
      rw [List.cons_append, decodeFrom_cons, decodeFrom_cons, ih, List.append_assoc]
  exact general none

theorem decodeLossy_append (bytes rest : List UInt8) :
    decodeLossy (bytes ++ 10 :: rest) = decodeLossy bytes ++ '\n' :: decodeLossy rest :=
  decodeLossy_append_plain plain_lineFeed bytes rest

theorem decodeLossy_concat (bytes : List UInt8) :
    decodeLossy (bytes ++ [10]) = decodeLossy bytes ++ ['\n'] := decodeLossy_append bytes []

def Pending.Sound (p : Pending) : Prop :=
  2 ≤ p.bits * 64 + (p.low - 0x80) ∧ (p.missing ≤ 1 → 0x80 ≤ p.bits * 64 + (p.low - 0x80))

theorem sound_start {b : Nat} {p : Pending} (opened : (start b).2 = some p) : p.Sound := by
  unfold start at opened
  split_ifs at opened <;> cases opened <;> simp only [Pending.Sound] <;> omega

theorem sound_step {state : Option Pending} (sound : ∀ p ∈ state, p.Sound) (b : Nat) :
    ∀ p ∈ (step state b).2, p.Sound := by
  intro p opened
  cases state with
  | none => exact sound_start opened
  | some q =>
    obtain ⟨least, -⟩ := sound q rfl
    unfold step at opened
    dsimp only at opened
    split_ifs at opened with inside last
    · cases opened
    · cases opened
      have continues := q.continues
      simp only [Pending.Sound]
      omega
    · exact sound_start opened

section

variable {mark : UInt8}

theorem toNat_plainChar (plain : Plain mark) : (plainChar mark).toNat = mark.toNat := by
  have valid : mark.toNat.isValidChar := .inl (Nat.lt_trans plain.2 (by decide))
  rw [plainChar, Char.ofNat, dif_pos valid]
  rfl

theorem ofNat_ne_plainChar (plain : Plain mark) {n : Nat} (apart : n ≠ mark.toNat) :
    Char.ofNat n ≠ plainChar mark := by
  intro same
  have code : (Char.ofNat n).toNat = mark.toNat :=
    (congrArg Char.toNat same).trans (toNat_plainChar plain)
  by_cases valid : n.isValidChar
  · rw [Char.ofNat, dif_pos valid] at code
    exact apart code
  · rw [Char.ofNat, dif_neg valid] at code
    exact Nat.ne_of_lt plain.1 code

theorem replacement_ne_plainChar (plain : Plain mark) : replacement ≠ plainChar mark :=
  ofNat_ne_plainChar (n := 0xFFFD) plain (by have := plain.2; omega)

theorem notMem_start (plain : Plain mark) {b : Nat} (apart : b ≠ mark.toNat) :
    plainChar mark ∉ (start b).1 := by
  unfold start
  split_ifs <;>
    simp [(replacement_ne_plainChar plain).symm, (ofNat_ne_plainChar plain apart).symm]

theorem notMem_step (plain : Plain mark) {state : Option Pending} (sound : ∀ p ∈ state, p.Sound)
    {b : Nat} (apart : b ≠ mark.toNat) : plainChar mark ∉ (step state b).1 := by
  cases state with
  | none => exact notMem_start plain apart
  | some p =>
    unfold step
    dsimp only
    split_ifs with inside last
    · have high := (sound p rfl).2 last
      have continues := p.continues
      have low := plain.2
      have above : p.bits * 64 + (b - 0x80) ≠ mark.toNat := by omega
      simp [(ofNat_ne_plainChar plain above).symm]
    · simp
    · simp [(replacement_ne_plainChar plain).symm, notMem_start plain apart]

theorem notMem_decodeLossy_plain (plain : Plain mark) {bytes : List UInt8} (absent : mark ∉ bytes) :
    plainChar mark ∉ decodeLossy bytes := by
  -- A sequence may be open at any byte; that it is sound keeps it from completing to the character.
  have general : ∀ state : Option Pending, (∀ p ∈ state, p.Sound) →
      plainChar mark ∉ decodeFrom state bytes := by
    induction bytes with
    | nil =>
      intro state _
      cases state <;> simp [decodeFrom, finish, (replacement_ne_plainChar plain).symm]
    | cons b bytes ih =>
      intro state sound
      rw [List.mem_cons, not_or] at absent
      have apart : b.toNat ≠ mark.toNat := fun same => absent.1 (UInt8.toNat_inj.1 same).symm
      rw [decodeFrom_cons, List.mem_append, not_or]
      exact ⟨notMem_step plain sound apart, ih absent.2 _ (sound_step sound b.toNat)⟩
  exact general none fun p opened => (Option.not_mem_none p opened).elim

end

theorem notMem_decodeLossy {bytes : List UInt8} (absent : 10 ∉ bytes) :
    '\n' ∉ decodeLossy bytes := notMem_decodeLossy_plain plain_lineFeed absent

/-- No byte is passed over: it completes a character or leaves a sequence open. -/
theorem step_filled (state : Option Pending) (b : Nat) :
    (step state b).1 ≠ [] ∨ (step state b).2.isSome = true := by
  have begun : (start b).1 ≠ [] ∨ (start b).2.isSome = true := by
    unfold start
    split_ifs <;> simp
  cases state with
  | none => exact begun
  | some p =>
    unfold step
    dsimp only
    split_ifs <;> simp

theorem decodeFrom_ne_nil {state : Option Pending} {bytes : List UInt8}
    (filled : bytes ≠ [] ∨ state.isSome = true) : decodeFrom state bytes ≠ [] := by
  induction bytes generalizing state with
  | nil =>
    cases state with
    | none => simp at filled
    | some p => simp [decodeFrom, finish]
  | cons b bytes ih =>
    rw [decodeFrom_cons]
    rcases step_filled state b.toNat with completed | opened
    · exact List.append_ne_nil_of_left_ne_nil completed _
    · exact List.append_ne_nil_of_right_ne_nil _ (ih (.inr opened))

/-- The lines of the decoded text are the decoded lines. -/
theorem splitAfter_decodeLossy (bytes : List UInt8) :
    splitAfter '\n' (decodeLossy bytes) = (splitAfter 10 bytes).map decodeLossy := by
  -- Each step takes off a whole line, so the induction is on the length.
  induction size : bytes.length using Nat.strongRecOn generalizing bytes with
  | ind n ih =>
    by_cases ended : 10 ∈ bytes
    · obtain ⟨line, rest, rfl, absent⟩ := List.eq_append_cons_of_mem ended
      have shorter : rest.length < n := by
        rw [← size]
        simp
        omega
      rw [decodeLossy_append, splitAfter_append (notMem_decodeLossy absent),
        splitAfter_append absent, List.map_cons, decodeLossy_concat, ih _ shorter rest rfl]
    · by_cases empty : bytes = []
      · subst empty
        rfl
      · rw [splitAfter_of_notMem (notMem_decodeLossy ended) (decodeFrom_ne_nil (.inl empty)),
          splitAfter_of_notMem ended empty, List.map_singleton]

end Utf8

end GuidedExploration.Text
