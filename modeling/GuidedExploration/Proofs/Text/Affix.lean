import GuidedExploration.Proofs.Text.Utf8
import Mathlib.Data.List.Induction

/-!
How a text begins and ends. Plain bytes at the front or at the end of others, ill-formed ones
included, are found there again when these are decoded; nothing else decodes to a text that begins
or ends so.
-/

set_option autoImplicit false

namespace GuidedExploration.Text

theorem isPrefixOf_and_isSuffixOf_iff {α : Type} [DecidableEq α] {front back s : List α} {c : α}
    (starts : back.head? = some c) (apart : c ∉ front) :
    (front.isPrefixOf s && back.isSuffixOf s) = true ↔ ∃ text, s = front ++ text ++ back := by
  rw [Bool.and_eq_true, List.isPrefixOf_iff_prefix, List.isSuffixOf_iff_suffix]
  constructor
  · rintro ⟨⟨after, rfl⟩, before, same⟩
    rcases List.append_eq_append_iff.1 same with ⟨shared, inFront, inBack⟩ | ⟨text, -, rfl⟩
    · cases shared with
      | nil => exact ⟨[], by simp [inBack]⟩
      | cons d shared =>
        -- The first of the second affix would stand in the first one.
        rw [inBack, List.cons_append, List.head?_cons] at starts
        cases starts
        exact absurd (inFront ▸ List.mem_append_right before List.mem_cons_self) apart
    · exact ⟨text, (List.append_assoc ..).symm⟩
  · rintro ⟨text, rfl⟩
    exact ⟨⟨text ++ back, (List.append_assoc ..).symm⟩, ⟨front ++ text, rfl⟩⟩

namespace Utf8

section

variable {mark : UInt8} {bytes : List UInt8} {s : List Char}

theorem mem_of_plainChar_mem (plain : Plain mark) (member : plainChar mark ∈ decodeLossy bytes) :
    mark ∈ bytes := by
  by_contra absent
  exact notMem_decodeLossy_plain plain absent member

theorem eq_nil_of_decodeLossy (empty : decodeLossy bytes = []) : bytes = [] := by
  by_contra filled
  exact decodeFrom_ne_nil (.inl filled) empty

theorem exists_of_decodeLossy_eq_cons (plain : Plain mark)
    (decoded : decodeLossy bytes = plainChar mark :: s) :
    ∃ rest, bytes = mark :: rest ∧ decodeLossy rest = s := by
  -- The first byte of this kind is the first of all, since it is the first of its kind decoded.
  obtain ⟨front, rest, rfl, absent⟩ := List.eq_append_cons_of_mem
    (mem_of_plainChar_mem plain (decoded ▸ List.mem_cons_self))
  rw [decodeLossy_append_plain plain] at decoded
  cases shape : decodeLossy front with
  | nil =>
    obtain rfl := eq_nil_of_decodeLossy shape
    exact ⟨rest, rfl, (List.cons.inj decoded).2⟩
  | cons c text =>
    rw [shape, List.cons_append] at decoded
    have member : plainChar mark ∈ decodeLossy front := by
      rw [shape, (List.cons.inj decoded).1]
      exact List.mem_cons_self
    exact absurd member (notMem_decodeLossy_plain plain absent)

theorem exists_of_decodeLossy_eq_concat (plain : Plain mark)
    (decoded : decodeLossy bytes = s ++ [plainChar mark]) :
    ∃ rest, bytes = rest ++ [mark] ∧ decodeLossy rest = s := by
  have member : mark ∈ bytes.reverse := List.mem_reverse.2 <|
    mem_of_plainChar_mem plain (decoded ▸ List.mem_append_right s List.mem_cons_self)
  obtain ⟨back, front, split, absent⟩ := List.eq_append_cons_of_mem member
  obtain rfl : bytes = front.reverse ++ mark :: back.reverse := by
    rw [← List.reverse_reverse bytes, split]
    simp
  rw [decodeLossy_append_plain plain] at decoded
  rcases List.eq_nil_or_concat (decodeLossy back.reverse) with empty | ⟨text, c, shape⟩
  · rw [empty] at decoded
    rw [eq_nil_of_decodeLossy empty]
    exact ⟨front.reverse, rfl, (List.append_inj' decoded rfl).1⟩
  · rw [shape, List.concat_eq_append, ← List.cons_append, ← List.append_assoc] at decoded
    have last : c = plainChar mark := (List.cons.inj (List.append_inj' decoded rfl).2).1
    have inside : plainChar mark ∈ decodeLossy back.reverse := by
      rw [shape, last, List.concat_eq_append]
      exact List.mem_append_right text List.mem_cons_self
    exact absurd inside (notMem_decodeLossy_plain plain (mt List.mem_reverse.1 absent))

end

section

variable {word bytes : List UInt8} {s : List Char}

theorem decodeLossy_eq_append_iff (plain : ∀ b ∈ word, Plain b) :
    decodeLossy bytes = word.map plainChar ++ s ↔
      ∃ rest, bytes = word ++ rest ∧ decodeLossy rest = s := by
  induction word generalizing bytes with
  | nil => simp
  | cons mark word ih =>
    obtain ⟨first, later⟩ := List.forall_mem_cons.1 plain
    constructor
    · intro decoded
      obtain ⟨more, rfl, behind⟩ := exists_of_decodeLossy_eq_cons first decoded
      obtain ⟨rest, rfl, left⟩ := (ih later).1 behind
      exact ⟨rest, rfl, left⟩
    · rintro ⟨rest, rfl, rfl⟩
      have behind := (ih later).2 ⟨rest, rfl, rfl⟩
      exact (decodeLossy_append_plain first [] _).trans (congrArg (plainChar mark :: ·) behind)

theorem decodeLossy_eq_append_iff_right (plain : ∀ b ∈ word, Plain b) :
    decodeLossy bytes = s ++ word.map plainChar ↔
      ∃ rest, bytes = rest ++ word ∧ decodeLossy rest = s := by
  induction word using List.reverseRecOn generalizing bytes with
  | nil => simp
  | append_singleton word mark ih =>
    have last : Plain mark := plain mark (List.mem_append_right word List.mem_cons_self)
    have earlier : ∀ b ∈ word, Plain b := fun b member => plain b (List.mem_append_left _ member)
    rw [List.map_append, List.map_singleton, ← List.append_assoc]
    constructor
    · intro decoded
      obtain ⟨more, rfl, ahead⟩ := exists_of_decodeLossy_eq_concat last decoded
      obtain ⟨rest, rfl, left⟩ := (ih earlier).1 ahead
      exact ⟨rest, List.append_assoc .., left⟩
    · rintro ⟨rest, rfl, rfl⟩
      rw [← List.append_assoc, decodeLossy_append_plain last, (ih earlier).2 ⟨rest, rfl, rfl⟩]
      rfl

/-- Bytes decode to a text between two plain words just when they stand between these themselves. -/
theorem exists_decodeLossy_eq_enclosed_iff {front back : List UInt8}
    (plain : ∀ b ∈ front ++ back, Plain b) :
    (∃ text, decodeLossy bytes = front.map plainChar ++ text ++ back.map plainChar) ↔
      ∃ rest, bytes = front ++ rest ++ back := by
  obtain ⟨plainFront, plainBack⟩ := List.forall_mem_append.1 plain
  simp only [List.append_assoc, decodeLossy_eq_append_iff plainFront,
    decodeLossy_eq_append_iff_right plainBack]
  constructor
  · rintro ⟨_, _, rfl, rest, rfl, -⟩
    exact ⟨rest, rfl⟩
  · rintro ⟨rest, rfl⟩
    exact ⟨_, _, rfl, rest, rfl, rfl⟩

end

end Utf8

end GuidedExploration.Text
