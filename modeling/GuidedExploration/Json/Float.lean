import GuidedExploration.Decimal.Shortest
import GuidedExploration.Json.Basic
import GuidedExploration.Text.Numeral

/-!
Number literals and floating-point numbers.

A number is written with the fewest digits that identify it, positionally for exponents from -5 to
15. A literal is read quickly rather than exactly: its digits are collected into a 64-bit integer,
and that is multiplied or divided by a power of ten in floating-point arithmetic.
-/

set_option autoImplicit false

namespace GuidedExploration.Json.Number

open Decimal

def digitOf (c : Char) : Fin 10 := Fin.ofNat 10 (c.toNat - 48)

/-- The literal of a decimal; a decimal exponent within the range is written without a mark. -/
def ofDecimal (negative : Bool) (d : Unsigned) : Number :=
  let digits := (Text.digits d.coefficient).map digitOf
  let valueOf (digits : List (Fin 10)) : Nat := digits.foldl (fun n d => 10 * n + d.val) 0
  let lead : Int := digits.length - 1 + d.exponent
  if d.coefficient = 0 then { negative, whole := 0, fraction := [0] }
  else if -5 ≤ lead ∧ lead < 16 then
    if 0 ≤ d.exponent then
      { negative, whole := d.coefficient * Nat.pow 10 d.exponent.toNat, fraction := [0] }
    else
      let places := (-d.exponent).toNat
      let padded := List.replicate (places + 1 - digits.length) 0 ++ digits
      { negative, whole := valueOf (padded.take (padded.length - places)),
        fraction := padded.drop (padded.length - places) }
  else
    { negative, whole := valueOf (digits.take 1), fraction := digits.drop 1, exponent := some lead }

def ofFloat (x : Float) : Number := ofDecimal (isNegative x) (shortest .toEven (magnitude x))

/-- The largest significand that is collected. -/
def significandLimit : Nat := 18446744073709551615

/-- Appends digits to a significand as long as it fits; what is left over is returned. -/
def collect (significand : Nat) : List (Fin 10) → Nat × List (Fin 10)
  | [] => (significand, [])
  | d :: digits =>
    if 10 * significand + d.val ≤ significandLimit then collect (10 * significand + d.val) digits
    else (significand, d :: digits)

def powerOfTen (n : Nat) : Float := Float.ofScientific 1 false n

/-- Multiplies by a power of ten, one operation for exponents down to -308 and steps of 308 below;
`none` when the result is infinite. -/
def scaleFrom (fuel : Nat) (x : Float) (exponent : Int) : Option Float :=
  if exponent.natAbs ≤ 308 then
    if 0 ≤ exponent then
      let y := x * powerOfTen exponent.toNat
      if y.isInf then none else some y
    else some (x / powerOfTen exponent.natAbs)
  else if x == 0.0 then some x
  else if 0 ≤ exponent then none
  else
    match fuel with
    | 0 => some 0.0
    | fuel + 1 => scaleFrom fuel (x / powerOfTen 308) (exponent + 308)

/-- A collected significand is below 2^64, so three steps bring it to zero. -/
def scale (x : Float) (exponent : Int) : Option Float := scaleFrom 3 x exponent

def signed (n : Number) (x : Float) : Float := if n.negative then -x else x

/-- The number that a literal is read as; `none` when it is too large. -/
def toFloat? (n : Number) : Option Float :=
  let (significand, dropped) := collect 0 ((Text.digits n.whole).map digitOf)
  if dropped.isEmpty && n.fraction.isEmpty && n.exponent.isNone then
    some (n.signed (Float.ofNat significand))
  else
    let (significand, unused) := collect significand n.fraction
    let exponent : Int :=
      dropped.length - (n.fraction.length - unused.length : Nat) + n.exponent.getD 0
    (scale (Float.ofNat significand) exponent).map n.signed

def isInteger (n : Number) : Bool := n.fraction.isEmpty && n.exponent.isNone

/-- The integer that a literal is. A zero with a minus sign is none. -/
def toInt? (n : Number) : Option Int :=
  if n.isInteger then
    if n.negative then if n.whole = 0 then none else some (-n.whole) else some n.whole
  else none

end GuidedExploration.Json.Number
