/-!
JSON values as they are written. Numbers keep their digits, object members keep their order and
their repetitions, and a string literal that holds half of a surrogate pair spells no text.
-/

set_option autoImplicit false

namespace GuidedExploration

/-- A number literal. The digits behind the point may be absent, and so may the exponent. -/
structure Json.Number where
  negative : Bool := false
  whole : Nat
  fraction : List (Fin 10) := []
  exponent : Option Int := none
  deriving DecidableEq, Repr

inductive Json where
  | null
  | bool (value : Bool)
  | number (value : Json.Number)
  | string (text : Option String)
  | array (items : List Json)
  | object (members : List (Option String × Json))
  deriving Repr

namespace Json

def text (s : String) : Json := .string (some s)

def natural (n : Nat) : Json := .number { whole := n }

def integer (n : Int) : Json := .number { negative := decide (n < 0), whole := n.natAbs }

def record (members : List (String × Json)) : Json :=
  .object (members.map fun (name, value) => (some name, value))

mutual

def depth : Json → Nat
  | null | bool _ | number _ | string _ => 0
  | array items => depthOfItems items + 1
  | object members => depthOfMembers members + 1

def depthOfItems : List Json → Nat
  | [] => 0
  | item :: items => Nat.max (depth item) (depthOfItems items)

def depthOfMembers : List (Option String × Json) → Nat
  | [] => 0
  | (_, value) :: members => Nat.max (depth value) (depthOfMembers members)

end

end Json

end GuidedExploration
