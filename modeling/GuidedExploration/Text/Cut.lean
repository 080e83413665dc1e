/-!
Cutting a text at the first place where a character or a shorter text stands, splitting it into
lines, and replacing every occurrence of a pattern.
-/

set_option autoImplicit false

namespace GuidedExploration.Text

def cutAt (mark : Char) : List Char → Option (List Char × List Char)
  | [] => none
  | c :: s =>
    if c = mark then some ([], s)
    else (cutAt mark s).map fun (before, after) => (c :: before, after)

def cutAround (mark : List Char) : List Char → Option (List Char × List Char)
  | [] => if mark.isEmpty then some ([], []) else none
  | c :: s =>
    match mark.isPrefixOf? (c :: s) with
    | some after => some ([], after)
    | none => (cutAround mark s).map fun (before, after) => (c :: before, after)

theorem eq_of_cutAt {mark : Char} {s before after : List Char}
    (cut : cutAt mark s = some (before, after)) : s = before ++ mark :: after := by
  induction s generalizing before with
  | nil => simp [cutAt] at cut
  | cons c s ih =>
    unfold cutAt at cut
    split at cut
    · next h =>
      obtain ⟨rfl, rfl⟩ := Prod.mk.inj (Option.some.inj cut)
      simp [h]
    · obtain ⟨⟨a, b⟩, found, same⟩ := Option.map_eq_some_iff.1 cut
      obtain ⟨rfl, rfl⟩ := Prod.mk.inj same
      simp [ih found]

theorem cutAt_eq_none_iff {mark : Char} {s : List Char} : cutAt mark s = none ↔ mark ∉ s := by
  induction s with
  | nil => simp [cutAt]
  | cons c s ih =>
    unfold cutAt
    split
    · next h => simp [h]
    · next h =>
      have h' : ¬mark = c := fun same => h same.symm
      simp [ih, h']

/-- The pieces of a list, each ending just after a `mark` except perhaps the last; no piece is
empty. -/
def splitAfter {α : Type} [DecidableEq α] (mark : α) : List α → List (List α)
  | [] => []
  | c :: s =>
    if c = mark then [c] :: splitAfter mark s
    else
      match splitAfter mark s with
      | [] => [[c]]
      | piece :: pieces => (c :: piece) :: pieces

theorem flatten_splitAfter {α : Type} [DecidableEq α] (mark : α) (s : List α) :
    (splitAfter mark s).flatten = s := by
  induction s with
  | nil => rfl
  | cons c s ih =>
    unfold splitAfter
    split
    · simp [ih]
    · split
      · next h =>
        rw [h] at ih
        simpa using ih
      · next h =>
        rw [h] at ih
        simpa using ih

/-- The pieces between the marks; a text with `n` marks has `n + 1` of them. -/
def splitAt (mark : Char) : List Char → List (List Char)
  | [] => [[]]
  | c :: s =>
    if c = mark then [] :: splitAt mark s
    else
      match splitAt mark s with
      | [] => [[c]]
      | piece :: pieces => (c :: piece) :: pieces

/-- A line without its end: a line feed, and the carriage return before it, are no part of the
line. A carriage return that ends an unterminated last line stays. -/
def withoutLineEnd (piece : List Char) : List Char :=
  match piece.reverse with
  | '\n' :: '\r' :: rest => rest.reverse
  | '\n' :: rest => rest.reverse
  | _ => piece

def lines (s : List Char) : List (List Char) := (splitAfter '\n' s).map withoutLineEnd

/-- Replaces what is found from left to right; `skip` characters still belong to the last find. -/
def replaceFrom (pattern new : List Char) : Nat → List Char → List Char
  | _, [] => []
  | skip + 1, _ :: s => replaceFrom pattern new skip s
  | 0, c :: s =>
    if pattern.isPrefixOf (c :: s) then new ++ replaceFrom pattern new (pattern.length - 1) s
    else c :: replaceFrom pattern new 0 s

/-- Every occurrence of the non-empty `pattern`, from left to right and not overlapping, gives way
to `new`. -/
def replaceAll (pattern new s : List Char) : List Char := replaceFrom pattern new 0 s

def joinWith (mark : List Char) : List (List Char) → List Char
  | [] => []
  | [s] => s
  | s :: rest => s ++ mark ++ joinWith mark rest

end GuidedExploration.Text
