import GuidedExploration.Decimal.Magnitude

/-!
The shortest decimal that reads back to a number. Decimals are tried on coarser grids before finer
ones; on one grid only the two neighbours of the number can be the nearest decimal to it.
-/

set_option autoImplicit false

namespace GuidedExploration.Decimal

/-- The interval of reals that round to a number, in quarters of its unit, all scaled to whole
numbers together with the step of a grid of decimals. -/
structure Interval where
  low : Nat
  middle : Nat
  high : Nat
  closed : Bool
  step : Nat
  deriving Repr

def Interval.onGrid (x : Magnitude) (exponent : Int) : Interval :=
  let twos := x.exponent - 2
  let scale := Nat.pow 2 twos.toNat * Nat.pow 10 (-exponent).toNat
  { low := (if x.narrow then 4 * x.mantissa - 1 else 4 * x.mantissa - 2) * scale
    middle := 4 * x.mantissa * scale
    high := (4 * x.mantissa + 2) * scale
    closed := x.mantissa % 2 == 0
    step := Nat.pow 2 (-twos).toNat * Nat.pow 10 exponent.toNat }

namespace Interval

/-- Whether a multiple of the step reads back. -/
def holds (i : Interval) (multiple : Nat) : Bool :=
  let d := multiple * i.step
  if i.closed then decide (i.low ≤ d) && decide (d ≤ i.high)
  else decide (i.low < d) && decide (d < i.high)

def pick? (tie : Tie) (i : Interval) : Option Nat :=
  let below := i.middle / i.step
  let nearest := roundDiv tie i.middle i.step
  -- At a power of two the interval reaches less far below the number than above it, so that the
  -- neighbour farther away may read back where the nearest does not.
  if i.holds nearest then some nearest
  else if i.holds below then some below
  else if i.holds (below + 1) then some (below + 1)
  else none

end Interval

def searchFrom (tie : Tie) (x : Magnitude) : Nat → Int → Option Unsigned
  | 0, _ => none
  | fuel + 1, exponent =>
    match (Interval.onGrid x exponent).pick? tie with
    | some coefficient => some ⟨coefficient, exponent⟩
    | none => searchFrom tie x fuel (exponent - 1)

def exactly (x : Magnitude) : Unsigned :=
  if 0 ≤ x.exponent then ⟨x.mantissa * Nat.pow 2 x.exponent.toNat, 0⟩
  else ⟨x.mantissa * Nat.pow 5 (-x.exponent).toNat, x.exponent⟩

/-- The shortest decimal that reads back; of two, the nearer one. Every number has one with
seventeen digits, which a search over twenty-four grids reaches. -/
def shortest (tie : Tie) (x : Magnitude) : Unsigned :=
  if x.isZero then ⟨0, 0⟩ else (searchFrom tie x 24 x.exponentBound).getD (exactly x)

end GuidedExploration.Decimal
