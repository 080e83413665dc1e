/-!
Patterns for names: `*` stands for any text, `?` for any character, and `[...]` for one character
of a set.
-/

set_option autoImplicit false

namespace GuidedExploration

inductive Glob.Part where
  | one (c : Char)
  | any
  | run
  | oneOf (negated : Bool) (ranges : List (Char × Char))
  deriving DecidableEq, Repr

abbrev Glob := List Glob.Part

namespace Glob

def Part.admits : Part → Char → Bool
  | one expected, c => decide (expected = c)
  | any, _ | run, _ => true
  | oneOf negated ranges, c =>
    negated != ranges.any fun (low, high) => decide (low ≤ c) && decide (c ≤ high)

def accepts : Glob → List Char → Bool
  | [], s => s.isEmpty
  | .run :: g, [] => accepts g []
  | .run :: g, c :: s => accepts g (c :: s) || accepts (.run :: g) s
  | _ :: _, [] => false
  | part :: g, c :: s => part.admits c && accepts g s
termination_by g s => g.length + s.length

/-- Reads what follows the bracket of a set, up to its end. Letters that are marked stand for
themselves. -/
def ranges? : Bool → List (Char × Bool) → Option (List (Char × Char) × List (Char × Bool))
  | _, [] => none
  | first, (']', false) :: rest =>
    if first then (ranges? false rest).map fun (found, rest) => ((']', ']') :: found, rest)
    else some ([], rest)
  | _, (low, _) :: ('-', false) :: (high, marked) :: rest =>
    if high = ']' ∧ marked = false then
      some ([(low, low), ('-', '-')], rest)
    else (ranges? false rest).map fun (found, rest) => ((low, high) :: found, rest)
  | _, (c, _) :: rest => (ranges? false rest).map fun (found, rest) => ((c, c) :: found, rest)

def set? : List (Char × Bool) → Option (Part × List (Char × Bool))
  | ('!', false) :: rest | ('^', false) :: rest =>
    (ranges? true rest).map fun (found, rest) => (.oneOf true found, rest)
  | rest => (ranges? true rest).map fun (found, rest) => (.oneOf false found, rest)

def readFrom : Nat → List (Char × Bool) → Glob
  | 0, _ => []
  | _, [] => []
  | fuel + 1, ('*', false) :: rest => .run :: readFrom fuel rest
  | fuel + 1, ('?', false) :: rest => .any :: readFrom fuel rest
  | fuel + 1, ('[', false) :: rest =>
    match set? rest with
    | some (part, rest) => part :: readFrom fuel rest
    | none => .one '[' :: readFrom fuel rest
  | fuel + 1, (c, _) :: rest => .one c :: readFrom fuel rest

def ofLetters (letters : List (Char × Bool)) : Glob := readFrom letters.length letters

def ofText (s : List Char) : Glob := ofLetters (s.map fun c => (c, false))

def isPattern (letters : List (Char × Bool)) : Bool :=
  letters.any fun (c, marked) => !marked && (c = '*' || c = '?' || c = '[')

end Glob

end GuidedExploration
