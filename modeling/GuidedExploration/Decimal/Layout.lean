import GuidedExploration.Decimal.Shortest
import GuidedExploration.Text.Numeral

/-!
Numbers as text: positional notation with the fewest digits, and with a fixed number of places.
-/

set_option autoImplicit false

namespace GuidedExploration.Decimal

open Text

/-- Digits with a point before the last `places` of them. -/
def withPoint (digits : List Char) (places : Nat) : List Char :=
  if places = 0 then digits
  else
    let padded := List.replicate (places + 1 - digits.length) '0' ++ digits
    padded.take (padded.length - places) ++ '.' :: padded.drop (padded.length - places)

def Unsigned.positional (d : Unsigned) : List Char :=
  if 0 ≤ d.exponent then
    if d.coefficient = 0 then ['0']
    else digits d.coefficient ++ List.replicate d.exponent.toNat '0'
  else withPoint (digits d.coefficient) (-d.exponent).toNat

def signed (x : Float) (text : List Char) : List Char := if isNegative x then '-' :: text else text

/-- The digits before the point are all written, however many there are, and none of the digits
behind it is superfluous. Of two equally close decimals the upper one is taken. -/
def plain (x : Float) : List Char :=
  if x.isNaN then ['N', 'a', 'N']
  else signed x (if x.isInf then ['i', 'n', 'f'] else (shortest .upward (magnitude x)).positional)

/-- The exact value rounded to `places` digits behind the point, halves to even. -/
def rounded (places : Nat) (x : Magnitude) : List Char :=
  let scaled := x.mantissa * Nat.pow 10 places * Nat.pow 2 x.exponent.toNat
  withPoint (digits (roundDiv .toEven scaled (Nat.pow 2 (-x.exponent).toNat))) places

def fixed (places : Nat) (x : Float) : List Char :=
  if x.isNaN then ['N', 'a', 'N']
  else signed x (if x.isInf then ['i', 'n', 'f'] else rounded places (magnitude x))

end GuidedExploration.Decimal
