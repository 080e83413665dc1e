import GuidedExploration.Text.Cut

/-!
Paths as they are written. A path is kept and reported exactly as it was given; joining and taking
the parent work on its text alone.
-/

set_option autoImplicit false

namespace GuidedExploration

structure Path where
  text : String
  deriving DecidableEq, Repr

namespace Path

open Text

def chars (p : Path) : List Char := p.text.toList

def ofChars (s : List Char) : Path := ⟨String.ofList s⟩

def here : Path := ⟨"."⟩

def isEmpty (p : Path) : Bool := p.chars.isEmpty

def isAbsolute (p : Path) : Bool := p.chars.head? == some '/'

def endsInSlash (p : Path) : Bool := p.chars.getLast? == some '/'

/-- `q` as seen from `p`; an absolute path is the same from everywhere. -/
def join (p q : Path) : Path :=
  if q.isAbsolute || p.isEmpty then q
  else if p.endsInSlash then ofChars (p.chars ++ q.chars)
  else ofChars (p.chars ++ '/' :: q.chars)

def child (p : Path) (name : String) : Path := p.join ⟨name⟩

/-- The pieces between slashes; some may be empty. -/
def pieces (p : Path) : List (List Char) := splitAt '/' p.chars

/-- The names on the way, dots included; repeated slashes do not matter. -/
def steps (p : Path) : List String :=
  (p.pieces.filter fun piece => !piece.isEmpty).map String.ofList

/-- Whether a piece is a component: a lone dot is one only at the start of a path. -/
def isComponent (first : Bool) (piece : List Char) : Bool :=
  !piece.isEmpty && (first || piece != ['.'])

def dropTail : List (List Char) → List (List Char)
  | [] => []
  | piece :: rest => if isComponent rest.isEmpty piece then piece :: rest else dropTail rest

/-- The path without its last component; the root and the empty path have no parent. -/
def parent? (p : Path) : Option Path :=
  match dropTail p.pieces.reverse with
  | [] => none
  | _ :: rest =>
    let left := (dropTail rest).reverse
    if left.isEmpty then some (if p.isAbsolute then ⟨"/"⟩ else ⟨""⟩)
    else some (ofChars (joinWith ['/'] left))

/-- The parent, when it is more than the empty path. -/
def properParent? (p : Path) : Option Path := p.parent?.filter fun parent => !parent.isEmpty

end Path

end GuidedExploration
