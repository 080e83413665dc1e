import GuidedExploration.Text.Numeral

/-!
Shell scripts, as far as they stand in for programs: words, commands, and the ways to put commands
together.
-/

set_option autoImplicit false

namespace GuidedExploration.Shell

mutual

inductive Piece where
  | plain (text : List Char)
  | literal (text : List Char)
  | inQuotes (pieces : List Piece)
  | parameter (name : List Char) (change : Change)
  | captured (body : List Item)
  | arithmetic (expression : List Piece)

inductive Change where
  | none
  | length
  /-- `-`, `=`, `+` or `?`; behind a colon an empty value counts as absent. -/
  | orElse (kind : Char) (colon : Bool) (word : List Piece)
  | strip (atEnd longest : Bool) (pattern : List Piece)

inductive Redirection where
  | read (source : List Piece)
  | text (contents : List Piece)
  | write (descriptor : Nat) (append : Bool) (target : List Piece)
  | copy (descriptor source : Nat)
  | close (descriptor : Nat)

inductive Statement where
  | simple (line : Nat) (assignments : List (List Char × List Piece)) (words : List (List Piece))
      (redirections : List Redirection)
  | compound (line : Nat) (body : Compound) (redirections : List Redirection)
  | define (name : List Char) (body : Statement)

inductive Compound where
  | group (body : List Item)
  | subshell (body : List Item)
  | branch (condition body otherwise : List Item)
  | loop (while? : Bool) (condition body : List Item)
  | each (name : List Char) (words : Option (List (List Piece))) (body : List Item)
  | select (subject : List Piece) (arms : List (List (List Piece) × List Item))

inductive Pipeline where
  | mk (negated : Bool) (statements : List Statement)

/-- Pipelines joined by `&&` (`true`) and `||` (`false`), perhaps in the background. -/
inductive Item where
  | mk (background : Bool) (first : Pipeline) (rest : List (Bool × Pipeline))

end

abbrev Word := List Piece

def isNameStart (c : Char) : Bool := c.isAlpha || c = '_'

def isNameChar (c : Char) : Bool := isNameStart c || Text.isDigit c

/-- A script as far as it makes sense, and the line and the message of a mistake that follows. -/
structure Script where
  items : List Item
  mistake : Option (Nat × String) := none

end GuidedExploration.Shell
