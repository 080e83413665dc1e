/-!
White space: which characters are blank, trimming, and splitting a text into words.

A character is blank when it has the Unicode property White_Space. There are twenty-five of
them, and the table is complete for every Unicode version since 6.3.
-/

set_option autoImplicit false

namespace GuidedExploration.Text

def blankRanges : List (Nat × Nat) :=
  [(0x09, 0x0D), (0x20, 0x20), (0x85, 0x85), (0xA0, 0xA0), (0x1680, 0x1680), (0x2000, 0x200A),
   (0x2028, 0x2029), (0x202F, 0x202F), (0x205F, 0x205F), (0x3000, 0x3000)]

def isBlank (c : Char) : Bool :=
  blankRanges.any fun range => decide (range.1 ≤ c.toNat) && decide (c.toNat ≤ range.2)

def trimStart (s : List Char) : List Char := s.dropWhile isBlank

def trimEnd : List Char → List Char
  | [] => []
  | c :: s =>
    match trimEnd s with
    | [] => if isBlank c then [] else [c]
    | d :: t => c :: d :: t

def trim (s : List Char) : List Char := trimEnd (trimStart s)

@[simp] theorem trimStart_nil : trimStart [] = [] := rfl

@[simp] theorem trimEnd_nil : trimEnd [] = [] := rfl

@[simp] theorem trim_nil : trim [] = [] := rfl

/-- The maximal runs of characters that are not blank, in order. -/
def words : List Char → List (List Char)
  | [] => []
  | c :: s =>
    if isBlank c then words s
    else
      match s with
      | [] => [[c]]
      | d :: _ =>
        if isBlank d then [c] :: words s
        else
          match words s with
          | [] => [[c]]
          | run :: runs => (c :: run) :: runs

end GuidedExploration.Text
