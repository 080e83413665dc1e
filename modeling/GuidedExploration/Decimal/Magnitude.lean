/-!
The exact value of a finite floating-point number: a mantissa times a power of two, and the
decimals that read back to it.
-/

set_option autoImplicit false

namespace GuidedExploration.Decimal

/-- A finite number without its sign, `mantissa * 2 ^ exponent`. -/
structure Magnitude where
  mantissa : Nat
  exponent : Int
  /-- The gap to the number below is half the gap to the number above. -/
  narrow : Bool
  deriving DecidableEq, Repr

namespace Magnitude

/-- The bits of a finite number, read apart from the sign bit. -/
def ofBits (bits : Nat) : Magnitude :=
  let unit := Nat.pow 2 52
  let field := bits / unit % 2048
  let fraction := bits % unit
  if field = 0 then ⟨fraction, -1074, false⟩
  else ⟨unit + fraction, (field : Int) - 1075, decide (fraction = 0) && decide (1 < field)⟩

def isZero (x : Magnitude) : Bool := decide (x.mantissa = 0)

/-- Twice the power of ten above the number is at most this power; used to start a search. -/
def exponentBound (x : Magnitude) : Int :=
  ((x.mantissa.log2 : Int) + x.exponent + 1) * 30103 / 100000 + 2

end Magnitude

def signBit : Nat := Nat.pow 2 63

def isNegative (x : Float) : Bool := decide (signBit ≤ x.toBits.toNat)

/-- The size of a number; for infinities and the like it has no meaning. -/
def magnitude (x : Float) : Magnitude := .ofBits (x.toBits.toNat % signBit)

/-- A decimal without a sign, `coefficient * 10 ^ exponent`. -/
structure Unsigned where
  coefficient : Nat
  exponent : Int
  deriving DecidableEq, Repr

/-- Which of two decimals is taken that are equally close. -/
inductive Tie where
  | toEven
  | upward
  deriving DecidableEq, Repr

def roundDiv (tie : Tie) (num den : Nat) : Nat :=
  let below := num / den
  let rest := 2 * (num % den)
  if rest < den then below
  else if den < rest then below + 1
  else
    match tie with
    | .upward => below + 1
    | .toEven => if below % 2 = 0 then below else below + 1

end GuidedExploration.Decimal
