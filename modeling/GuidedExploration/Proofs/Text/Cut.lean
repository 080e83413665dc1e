import GuidedExploration.Text.Cut
import Mathlib.Data.List.Basic

/-!
Where a text is cut. A cut is made at the first mark, so what stands before it has none, and a text
is cut into lines wherever it is put together from them.
-/

set_option autoImplicit false

namespace GuidedExploration.Text

theorem cutAt_append {mark : Char} {before : List Char} (absent : mark ∉ before)
    (after : List Char) : cutAt mark (before ++ mark :: after) = some (before, after) := by
  induction before with
  | nil => simp [cutAt]
  | cons c before ih =>
    rw [List.mem_cons, not_or] at absent
    simp [cutAt, Ne.symm absent.1, ih absent.2]

theorem cutAt_eq_some_iff {mark : Char} {s before after : List Char} :
    cutAt mark s = some (before, after) ↔ s = before ++ mark :: after ∧ mark ∉ before := by
  constructor
  · intro cut
    refine ⟨eq_of_cutAt cut, ?_⟩
    induction s generalizing before with
    | nil => cases cut
    | cons c s ih =>
      unfold cutAt at cut
      split at cut
      · cases cut
        exact List.not_mem_nil
      · next apart =>
        obtain ⟨⟨front, rest⟩, found, same⟩ := Option.map_eq_some_iff.1 cut
        cases same
        simp [Ne.symm apart, ih found]
  · rintro ⟨rfl, absent⟩
    exact cutAt_append absent after

theorem isPrefixOf?_append {α : Type} [DecidableEq α] (front rest : List α) :
    front.isPrefixOf? (front ++ rest) = some rest :=
  List.isPrefixOf?_eq_some_iff_append_eq.2 rfl

theorem cutAround_eq_none {c : Char} {mark s : List Char} (absent : c ∉ s) :
    cutAround (c :: mark) s = none := by
  induction s with
  | nil => rfl
  | cons d s ih =>
    rw [List.mem_cons, not_or] at absent
    have here : (c :: mark).isPrefixOf? (d :: s) = none := by simp [List.isPrefixOf?, absent.1]
    rw [cutAround, here, ih absent.2]
    rfl

theorem cutAround_append {c : Char} (mark : List Char) {before : List Char} (absent : c ∉ before)
    (after : List Char) :
    cutAround (c :: mark) (before ++ (c :: mark ++ after)) = some (before, after) := by
  induction before with
  | nil =>
    have here := isPrefixOf?_append (c :: mark) after
    rw [List.cons_append] at here
    rw [List.nil_append, List.cons_append, cutAround, here]
  | cons d before ih =>
    rw [List.mem_cons, not_or] at absent
    have here : ∀ rest, (c :: mark).isPrefixOf? (d :: rest) = none := by
      intro rest
      simp [List.isPrefixOf?, absent.1]
    rw [List.cons_append, cutAround, here, ih absent.2]
    rfl

theorem eq_of_cutAround {mark s before after : List Char}
    (cut : cutAround mark s = some (before, after)) : s = before ++ (mark ++ after) := by
  induction s generalizing before with
  | nil =>
    unfold cutAround at cut
    split at cut
    · next empty =>
      cases cut
      simpa using (List.isEmpty_iff.1 empty).symm
    · cases cut
  | cons c s ih =>
    unfold cutAround at cut
    split at cut
    · next here =>
      cases cut
      exact (List.isPrefixOf?_eq_some_iff_append_eq.1 here).symm
    · obtain ⟨⟨front, rest⟩, found, same⟩ := Option.map_eq_some_iff.1 cut
      cases same
      rw [ih found, List.cons_append]

theorem splitAfter_append {α : Type} [DecidableEq α] {mark : α} {piece : List α}
    (absent : mark ∉ piece) (rest : List α) :
    splitAfter mark (piece ++ mark :: rest) = (piece ++ [mark]) :: splitAfter mark rest := by
  induction piece with
  | nil => simp [splitAfter]
  | cons c piece ih =>
    rw [List.mem_cons, not_or] at absent
    simp [splitAfter, Ne.symm absent.1, ih absent.2]

theorem splitAfter_flatMap {α : Type} [DecidableEq α] {mark : α} {pieces : List (List α)}
    (absent : ∀ piece ∈ pieces, mark ∉ piece) :
    splitAfter mark (pieces.flatMap fun piece => piece ++ [mark]) =
      pieces.map fun piece => piece ++ [mark] := by
  induction pieces with
  | nil => rfl
  | cons piece pieces ih =>
    obtain ⟨first, others⟩ := List.forall_mem_cons.1 absent
    rw [List.flatMap_cons, List.append_assoc, List.singleton_append, splitAfter_append first,
      ih others, List.map_cons]

theorem splitAfter_of_notMem {α : Type} [DecidableEq α] {mark : α} {piece : List α}
    (absent : mark ∉ piece) (filled : piece ≠ []) : splitAfter mark piece = [piece] := by
  induction piece with
  | nil => exact absurd rfl filled
  | cons c piece ih =>
    rw [List.mem_cons, not_or] at absent
    cases piece with
    | nil => simp [splitAfter, Ne.symm absent.1]
    | cons d piece =>
      have tail := ih absent.2 (List.cons_ne_nil d piece)
      rw [splitAfter, if_neg (Ne.symm absent.1), tail]

theorem splitAfter_ne_nil {α : Type} [DecidableEq α] (mark : α) {s : List α} (filled : s ≠ []) :
    splitAfter mark s ≠ [] := by
  intro empty
  have whole := flatten_splitAfter mark s
  rw [empty] at whole
  exact filled whole.symm

theorem length_splitAfter_le {α : Type} [DecidableEq α] (mark : α) (s : List α) :
    (splitAfter mark s).length ≤ s.length := by
  induction s with
  | nil => exact Nat.le_refl 0
  | cons c s ih =>
    unfold splitAfter
    split
    · exact Nat.succ_le_succ ih
    · split
      · simp
      · next shape =>
        rw [shape] at ih
        exact Nat.le_succ_of_le ih

theorem splitAfter_append_mark {α : Type} [DecidableEq α] (mark : α) (s rest : List α) :
    splitAfter mark (s ++ mark :: rest) = splitAfter mark (s ++ [mark]) ++ splitAfter mark rest := by
  induction s with
  | nil => simp [splitAfter]
  | cons c s ih =>
    rw [List.cons_append, List.cons_append, splitAfter, splitAfter, ih]
    split
    · rfl
    · -- The character goes to the first piece of the rest, so there has to be one.
      obtain ⟨piece, pieces, shape⟩ :=
        List.exists_cons_of_ne_nil (splitAfter_ne_nil mark (s := s ++ [mark]) (by simp))
      rw [shape]
      rfl

end GuidedExploration.Text
