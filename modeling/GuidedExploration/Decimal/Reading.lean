import GuidedExploration.Decimal.Magnitude
import GuidedExploration.Text.Numeral

/-!
Reading a number from text, rounded to the nearest floating-point number.

A number has an optional sign, digits with an optional point among or beside them, and an optional
exponent. Infinities and the number that is none may be named, in letters of either case.
-/

set_option autoImplicit false

namespace GuidedExploration.Decimal

open Text

/-- The nearest floating-point number. A decimal far outside the range of those is not computed
with. -/
def Unsigned.toFloat (d : Unsigned) : Float :=
  let top := (digits d.coefficient).length + d.exponent
  if d.coefficient = 0 ∨ top < -330 then 0.0
  else if 320 < top then 1.0 / 0.0
  else Float.ofScientific d.coefficient (decide (d.exponent < 0)) d.exponent.natAbs

def ofSign (negative : Bool) (x : Float) : Float := if negative then -x else x

def exponent? : List Char → Option Int
  | [] => some 0
  | c :: s => if c = 'e' ∨ c = 'E' then signedInteger? s else none

/-- Digits with at most one point among them, then perhaps an exponent. -/
def unsigned? (s : List Char) : Option Unsigned :=
  let whole := s.takeWhile isDigit
  let rest := s.dropWhile isDigit
  let (fraction, rest) :=
    match rest with
    | '.' :: rest => (rest.takeWhile isDigit, rest.dropWhile isDigit)
    | _ => ([], rest)
  do
    let coefficient ← natural? (whole ++ fraction)
    let exponent ← exponent? rest
    return ⟨coefficient, exponent - fraction.length⟩

def lower (s : List Char) : List Char := s.map Char.toLower

def magnitude? (s : List Char) : Option Float :=
  if lower s = ['i', 'n', 'f'] ∨ lower s = ['i', 'n', 'f', 'i', 'n', 'i', 't', 'y'] then
    some (1.0 / 0.0)
  else if lower s = ['n', 'a', 'n'] then some (0.0 / 0.0)
  else (unsigned? s).map Unsigned.toFloat

def read? : List Char → Option Float
  | '-' :: s => (magnitude? s).map (ofSign true)
  | '+' :: s => magnitude? s
  | s => magnitude? s

def finite? (s : List Char) : Option Float := (read? s).filter Float.isFinite

end GuidedExploration.Decimal
