import GuidedExploration.Proofs.Text.Numeral
import GuidedExploration.Text.Blank
import Mathlib.Data.List.DropRight

/-!
Trimming takes the blanks off both ends of a text and nothing else, and what it leaves is told by
that alone.
-/

set_option autoImplicit false

namespace GuidedExploration.Text

theorem trimEnd_concat (s : List Char) {c : Char} (blank : isBlank c = true) :
    trimEnd (s ++ [c]) = trimEnd s := by
  induction s with
  | nil => simp [trimEnd, blank]
  | cons d s ih => simp [trimEnd, ih]

theorem trimEnd_concat_of_solid (s : List Char) {c : Char} (solid : isBlank c = false) :
    trimEnd (s ++ [c]) = s ++ [c] := by
  induction s with
  | nil => simp [trimEnd, solid]
  | cons d s ih =>
    rw [List.cons_append, trimEnd, ih]
    cases s <;> rfl

theorem trimEnd_eq_rdropWhile (s : List Char) : trimEnd s = s.rdropWhile isBlank := by
  induction s using List.reverseRecOn with
  | nil => rfl
  | append_singleton s c ih =>
    cases here : isBlank c with
    | true => rw [trimEnd_concat s here, ih, List.rdropWhile_concat_pos _ _ _ here]
    | false =>
      rw [trimEnd_concat_of_solid s here, List.rdropWhile_concat_neg _ _ _ (by simp [here])]

theorem trimEnd_eq_nil_iff {s : List Char} : trimEnd s = [] ↔ ∀ c ∈ s, isBlank c = true := by
  rw [trimEnd_eq_rdropWhile, List.rdropWhile_eq_nil_iff]

theorem trimEnd_append (front : List Char) {s : List Char} (filled : trimEnd s ≠ []) :
    trimEnd (front ++ s) = front ++ trimEnd s := by
  obtain ⟨c, rest, shape⟩ := List.exists_cons_of_ne_nil filled
  rw [shape]
  induction front with
  | nil => exact shape
  | cons d front ih =>
    rw [List.cons_append, trimEnd, ih]
    cases front <;> rfl

theorem trim_concat (s : List Char) {c : Char} (blank : isBlank c = true) :
    trim (s ++ [c]) = trim s := by
  induction s with
  | nil => simp [trim, trimStart, blank]
  | cons d s ih =>
    by_cases here : isBlank d = true
    · simpa [trim, trimStart, here] using ih
    · have kept := trimEnd_concat (d :: s) blank
      simpa [trim, trimStart, here] using kept

/-- `t` is what is left of `s` without the blanks at its ends. -/
structure Trims (s t : List Char) : Prop where
  around : ∃ front back, s = front ++ (t ++ back) ∧ (∀ c ∈ front, isBlank c = true) ∧
    ∀ c ∈ back, isBlank c = true
  first : ∀ c, t.head? = some c → isBlank c = false
  last : ∀ c, t.getLast? = some c → isBlank c = false

theorem trim_append_blank (s : List Char) {back : List Char}
    (blank : ∀ c ∈ back, isBlank c = true) : trim (s ++ back) = trim s := by
  induction back using List.reverseRecOn with
  | nil => rw [List.append_nil]
  | append_singleton back c ih =>
    rw [← List.append_assoc, trim_concat _ (blank c (by simp)),
      ih fun d member => blank d (List.mem_append_left [c] member)]

theorem trim_of_solid {t : List Char} (first : ∀ c, t.head? = some c → isBlank c = false)
    (last : ∀ c, t.getLast? = some c → isBlank c = false) : trim t = t := by
  have start : trimStart t = t := by
    cases t with
    | nil => rfl
    | cons c t => exact List.dropWhile_cons_of_neg (by simp [first c rfl])
  rw [trim, start]
  rcases List.eq_nil_or_concat t with rfl | ⟨front, c, rfl⟩
  · rfl
  · rw [List.concat_eq_append] at last ⊢
    exact trimEnd_concat_of_solid front (last c List.getLast?_concat)

theorem trims_trim (s : List Char) : Trims s (trim s) := by
  have whole : trim s ++ (trimStart s).rtakeWhile isBlank = trimStart s := by
    rw [trim, trimEnd_eq_rdropWhile]
    exact List.rdropWhile_append_rtakeWhile
  refine ⟨⟨s.takeWhile isBlank, (trimStart s).rtakeWhile isBlank, ?_,
    fun c => List.mem_takeWhile_imp, fun c => List.mem_rtakeWhile_imp⟩, ?_, ?_⟩
  · rw [whole]
    exact List.takeWhile_append_dropWhile.symm
  · intro c found
    have begun := List.head?_dropWhile_not isBlank s
    have same : (s.dropWhile isBlank).head? = some c := by
      rw [← trimStart, ← whole, List.head?_append, found]
      rfl
    rwa [same] at begun
  · intro c found
    rw [trim, trimEnd_eq_rdropWhile] at found
    have filled : (trimStart s).rdropWhile isBlank ≠ [] := fun empty => by
      rw [empty] at found
      cases found
    rw [List.getLast?_eq_some_getLast filled] at found
    cases found
    exact Bool.eq_false_iff.2 (List.rdropWhile_last_not isBlank _ filled)

theorem trims_iff {s t : List Char} : Trims s t ↔ t = trim s := by
  constructor
  · rintro ⟨⟨front, back, rfl, blankStart, blankEnd⟩, first, last⟩
    have start : trim (front ++ (t ++ back)) = trim (t ++ back) := by
      rw [trim, trimStart, List.dropWhile_append_of_pos blankStart]
      rfl
    rw [start, trim_append_blank t blankEnd, trim_of_solid first last]
  · rintro rfl
    exact trims_trim s

theorem Trims.subset {s t : List Char} (trims : Trims s t) : t ⊆ s := by
  obtain ⟨⟨front, back, rfl, -, -⟩, -, -⟩ := trims
  exact fun c member => List.mem_append_right front (List.mem_append_left back member)

theorem Trims.again {s t : List Char} (trims : Trims s t) : Trims t t where
  around := ⟨[], [], by simp, by simp, by simp⟩
  first := trims.first
  last := trims.last

theorem trim_eq_nil_iff {s : List Char} : trim s = [] ↔ ∀ c ∈ s, isBlank c = true := by
  rw [eq_comm, ← trims_iff]
  constructor
  · rintro ⟨⟨front, back, rfl, blankStart, blankEnd⟩, -, -⟩ c member
    rcases List.mem_append.1 member with inFront | inBack
    · exact blankStart c inFront
    · exact blankEnd c inBack
  · intro blank
    exact ⟨⟨s, [], by simp, blank, by simp⟩, by simp, by simp⟩

theorem isBlank_of_isDigit {c : Char} (digit : c.isDigit = true) : isBlank c = false := by
  have value := digit?_eq c
  rw [if_pos digit, digit?] at value
  split at value
  · next range => simp [isBlank, blankRanges]; omega
  · cases value

end GuidedExploration.Text
