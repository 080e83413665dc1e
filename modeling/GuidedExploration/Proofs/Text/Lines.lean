import GuidedExploration.Proofs.Text.Cut
import Mathlib.Tactic.SplitIfs

/-!
The lines of a text. No line holds a line feed, and lines that are each written with one behind
them are the lines of what was written.
-/

set_option autoImplicit false

namespace GuidedExploration.Text

theorem exists_front_of_mem_splitAfter {α : Type} [DecidableEq α] {mark : α} {s piece : List α}
    (member : piece ∈ splitAfter mark s) :
    ∃ front, mark ∉ front ∧ (piece = front ∨ piece = front ++ [mark]) := by
  induction s generalizing piece with
  | nil => cases member
  | cons c s ih =>
    unfold splitAfter at member
    split at member
    · next here =>
      rcases List.mem_cons.1 member with rfl | member
      · exact ⟨[], List.not_mem_nil, .inr (by rw [here, List.nil_append])⟩
      · exact ih member
    · next apart =>
      split at member
      · obtain rfl := List.mem_singleton.1 member
        exact ⟨[c], by simpa using Ne.symm apart, .inl rfl⟩
      · next first pieces shape =>
        rw [shape] at ih
        rcases List.mem_cons.1 member with rfl | member
        · obtain ⟨front, absent, ends⟩ := ih List.mem_cons_self
          refine ⟨c :: front, by simpa [absent] using Ne.symm apart, ?_⟩
          rcases ends with rfl | rfl
          · exact .inl rfl
          · exact .inr rfl
        · exact ih (List.mem_cons_of_mem _ member)

theorem withoutLineEnd_of_notMem {line : List Char} (absent : '\n' ∉ line) :
    withoutLineEnd line = line := by
  unfold withoutLineEnd
  split
  · next shape => exact absurd (List.mem_reverse.1 (shape ▸ List.mem_cons_self)) absent
  · next shape => exact absurd (List.mem_reverse.1 (shape ▸ List.mem_cons_self)) absent
  · rfl

theorem withoutLineEnd_carriageReturn (line : List Char) :
    withoutLineEnd (line ++ ['\r', '\n']) = line := by
  simp [withoutLineEnd]

theorem withoutLineEnd_lineFeed {line : List Char} (ended : line.getLast? ≠ some '\r') :
    withoutLineEnd (line ++ ['\n']) = line := by
  rcases List.eq_nil_or_concat line with rfl | ⟨front, c, rfl⟩
  · rfl
  · have other : c ≠ '\r' := by simpa using ended
    simp [withoutLineEnd, other]

theorem lineFeed_notMem_withoutLineEnd {front : List Char} (absent : '\n' ∉ front) :
    '\n' ∉ withoutLineEnd (front ++ ['\n']) := by
  by_cases ended : front.getLast? = some '\r'
  · obtain ⟨line, rfl⟩ := List.getLast?_eq_some_iff.1 ended
    rw [List.append_assoc]
    exact (withoutLineEnd_carriageReturn line).symm ▸ fun member => absent (by simp [member])
  · rwa [withoutLineEnd_lineFeed ended]

theorem lineFeed_notMem_of_mem_lines {s line : List Char} (member : line ∈ lines s) :
    '\n' ∉ line := by
  obtain ⟨piece, inside, rfl⟩ := List.mem_map.1 member
  obtain ⟨front, absent, rfl | rfl⟩ := exists_front_of_mem_splitAfter inside
  · rwa [withoutLineEnd_of_notMem absent]
  · exact lineFeed_notMem_withoutLineEnd absent

theorem lines_flatMap {written : List (List Char)} (absent : ∀ line ∈ written, '\n' ∉ line)
    (ended : ∀ line ∈ written, line.getLast? ≠ some '\r') :
    lines (written.flatMap fun line => line ++ ['\n']) = written := by
  rw [lines, splitAfter_flatMap absent, List.map_map]
  exact (List.map_congr_left fun line member => withoutLineEnd_lineFeed (ended line member)).trans
    (List.map_id _)

end GuidedExploration.Text
