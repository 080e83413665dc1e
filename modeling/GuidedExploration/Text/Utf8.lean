/-!
Reading bytes as UTF-8 when they may be ill-formed: every maximal ill-formed part becomes one
replacement character. The reader is a machine over single bytes, so that text can be cut
anywhere at an ASCII character and read in pieces.
-/

set_option autoImplicit false

namespace GuidedExploration.Text.Utf8

/-- A sequence that has begun: how many bytes are missing, which range the next one must be in,
and the bits read so far. -/
structure Pending where
  missing : Nat
  low : Nat
  high : Nat
  bits : Nat
  continues : 0x80 ≤ low := by decide
  deriving DecidableEq

def replacement : Char := '\uFFFD'

/-- A byte that does not continue a sequence: a character, the start of a sequence, or neither. -/
def start (b : Nat) : List Char × Option Pending :=
  if b < 0x80 then ([Char.ofNat b], none)
  else if 0xC2 ≤ b ∧ b ≤ 0xDF then
    ([], some { missing := 1, low := 0x80, high := 0xBF, bits := b - 0xC0 })
  else if b = 0xE0 then ([], some { missing := 2, low := 0xA0, high := 0xBF, bits := 0 })
  else if b = 0xED then ([], some { missing := 2, low := 0x80, high := 0x9F, bits := 0xD })
  else if 0xE1 ≤ b ∧ b ≤ 0xEF then
    ([], some { missing := 2, low := 0x80, high := 0xBF, bits := b - 0xE0 })
  else if b = 0xF0 then ([], some { missing := 3, low := 0x90, high := 0xBF, bits := 0 })
  else if 0xF1 ≤ b ∧ b ≤ 0xF3 then
    ([], some { missing := 3, low := 0x80, high := 0xBF, bits := b - 0xF0 })
  else if b = 0xF4 then ([], some { missing := 3, low := 0x80, high := 0x8F, bits := 4 })
  else ([replacement], none)

def step (state : Option Pending) (b : Nat) : List Char × Option Pending :=
  match state with
  | none => start b
  | some p =>
    if p.low ≤ b ∧ b ≤ p.high then
      let bits := p.bits * 64 + (b - 0x80)
      if p.missing ≤ 1 then ([Char.ofNat bits], none)
      else ([], some { missing := p.missing - 1, low := 0x80, high := 0xBF, bits })
    else
      let (chars, state) := start b
      (replacement :: chars, state)

def finish : Option Pending → List Char
  | none => []
  | some _ => [replacement]

def decodeFrom (state : Option Pending) : List UInt8 → List Char
  | [] => finish state
  | b :: bytes =>
    let (chars, state) := step state b.toNat
    chars ++ decodeFrom state bytes

/-- The text of any bytes, with U+FFFD for each maximal part that is not UTF-8. -/
def decodeLossy (bytes : List UInt8) : List Char := decodeFrom none bytes

theorem decodeFrom_cons (state : Option Pending) (b : UInt8) (bytes : List UInt8) :
    decodeFrom state (b :: bytes) =
      (step state b.toNat).1 ++ decodeFrom (step state b.toNat).2 bytes :=
  rfl

end GuidedExploration.Text.Utf8
