import GuidedExploration.Text.Glob
import Mathlib.Data.List.Basic

/-!
What patterns stand for: a letter for itself, and a star for any text in its place. A pattern with
one star stands for the texts that its two ends enclose.
-/

set_option autoImplicit false

namespace GuidedExploration.Glob

theorem accepts_nil_iff {s : List Char} : accepts [] s = true ↔ s = [] := by
  rw [accepts, List.isEmpty_iff]

theorem accepts_one_iff {c : Char} {g : Glob} {s : List Char} :
    accepts (.one c :: g) s = true ↔ ∃ rest, s = c :: rest ∧ accepts g rest = true := by
  cases s with
  | nil => simp [accepts]
  | cons d s =>
    simp only [accepts, Part.admits, Bool.and_eq_true, decide_eq_true_eq]
    constructor
    · rintro ⟨rfl, accepted⟩
      exact ⟨s, rfl, accepted⟩
    · rintro ⟨_, same, accepted⟩
      cases same
      exact ⟨rfl, accepted⟩

theorem accepts_run_iff {g : Glob} {s : List Char} :
    accepts (.run :: g) s = true ↔ ∃ text rest, s = text ++ rest ∧ accepts g rest = true := by
  induction s with
  | nil => simp [accepts]
  | cons c s ih =>
    rw [accepts, Bool.or_eq_true, ih]
    constructor
    · rintro (here | ⟨text, rest, rfl, later⟩)
      · exact ⟨[], c :: s, rfl, here⟩
      · exact ⟨c :: text, rest, rfl, later⟩
    · rintro ⟨text, rest, split, accepted⟩
      cases text with
      | nil => exact .inl (split ▸ accepted)
      | cons d text =>
        obtain ⟨rfl, rfl⟩ := List.cons.inj split
        exact .inr ⟨text, rest, rfl, accepted⟩

def literal (word : List Char) : Glob := word.map .one

theorem accepts_literal_append_iff {word : List Char} {g : Glob} {s : List Char} :
    accepts (literal word ++ g) s = true ↔ ∃ rest, s = word ++ rest ∧ accepts g rest = true := by
  induction word generalizing s with
  | nil => simp [literal]
  | cons c word ih =>
    rw [literal, List.map_cons, List.cons_append, accepts_one_iff]
    constructor
    · rintro ⟨_, rfl, accepted⟩
      obtain ⟨rest, rfl, later⟩ := ih.1 accepted
      exact ⟨rest, rfl, later⟩
    · rintro ⟨rest, rfl, later⟩
      exact ⟨word ++ rest, rfl, ih.2 ⟨rest, rfl, later⟩⟩

theorem accepts_literal_iff {word s : List Char} : accepts (literal word) s = true ↔ s = word := by
  rw [← List.append_nil (literal word), accepts_literal_append_iff]
  simp [accepts_nil_iff]

theorem accepts_enclosed_iff {front back s : List Char} :
    accepts (literal front ++ .run :: literal back) s = true ↔ ∃ text, s = front ++ text ++ back := by
  simp only [accepts_literal_append_iff, accepts_run_iff, accepts_literal_iff, List.append_assoc]
  constructor
  · rintro ⟨_, rfl, text, _, rfl, rfl⟩
    exact ⟨text, rfl⟩
  · rintro ⟨text, rfl⟩
    exact ⟨_, rfl, text, back, rfl, rfl⟩

end GuidedExploration.Glob
