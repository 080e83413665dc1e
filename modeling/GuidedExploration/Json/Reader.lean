import GuidedExploration.Json.Basic
import GuidedExploration.Text.Numeral

/-!
Reading JSON text. The grammar is the strict one: no comments, no trailing commas, no leading
zeros, control characters only as escapes, and nothing but blanks after the value.
-/

set_option autoImplicit false

namespace GuidedExploration.Json

open Text (digit? hexDigit? isDigit)

def isGap (c : Char) : Bool := c == ' ' || c == '\t' || c == '\n' || c == '\r'

def skipGap (s : List Char) : List Char := s.dropWhile isGap

/-- A piece of a string literal: a character, or a code unit given by its number. -/
inductive Piece where
  | char (c : Char)
  | unit (code : Nat)
  deriving DecidableEq

def unit? (a b c d : Char) : Option Nat := do
  let a ← hexDigit? a
  let b ← hexDigit? b
  let c ← hexDigit? c
  let d ← hexDigit? d
  return ((a * 16 + b) * 16 + c) * 16 + d

def escaped? (c : Char) : Option Char :=
  if c = '"' ∨ c = '\\' ∨ c = '/' then some c
  else if c = 'b' then some (Char.ofNat 8)
  else if c = 'f' then some (Char.ofNat 12)
  else if c = 'n' then some '\n'
  else if c = 'r' then some '\r'
  else if c = 't' then some '\t'
  else none

/-- The pieces of a string literal after its opening quote, and what follows the closing one. -/
def pieces : List Char → Option (List Piece × List Char)
  | [] => none
  | '"' :: rest => some ([], rest)
  | '\\' :: 'u' :: a :: b :: c :: d :: rest => do
    let code ← unit? a b c d
    let (more, rest) ← pieces rest
    return (.unit code :: more, rest)
  | '\\' :: letter :: rest => do
    let c ← escaped? letter
    let (more, rest) ← pieces rest
    return (.char c :: more, rest)
  | c :: rest =>
    -- A backslash at the end of the text, or a control character that is not escaped.
    if c = '\\' ∨ c.toNat < 32 then none
    else do
      let (more, rest) ← pieces rest
      return (.char c :: more, rest)

/-- The characters that pieces spell; a high surrogate unit and the low one after it spell one
character, and neither stands alone. -/
def spell? : List Piece → Option (List Char)
  | [] => some []
  | .char c :: more => (spell? more).map (c :: ·)
  | .unit high :: .unit low :: more =>
    if 0xD800 ≤ high ∧ high < 0xDC00 then
      if 0xDC00 ≤ low ∧ low < 0xE000 then
        (spell? more).map (Char.ofNat (0x10000 + (high - 0xD800) * 0x400 + (low - 0xDC00)) :: ·)
      else none
    else if 0xDC00 ≤ high ∧ high < 0xE000 then none
    else (spell? (.unit low :: more)).map (Char.ofNat high :: ·)
  | .unit code :: more =>
    if 0xD800 ≤ code ∧ code < 0xE000 then none else (spell? more).map (Char.ofNat code :: ·)

def string? (s : List Char) : Option (Option String × List Char) :=
  (pieces s).map fun (parts, rest) => ((spell? parts).map String.ofList, rest)

def fin10? (c : Char) : Option (Fin 10) :=
  (digit? c).bind fun d => if h : d < 10 then some ⟨d, h⟩ else none

def leadingDigits (s : List Char) : List (Fin 10) × List Char :=
  match s with
  | [] => ([], [])
  | c :: rest =>
    match fin10? c with
    | none => ([], c :: rest)
    | some d =>
      let (more, rest) := leadingDigits rest
      (d :: more, rest)

def valueOf (digits : List (Fin 10)) : Nat := digits.foldl (fun n d => 10 * n + d.val) 0

/-- The part before the point: a zero stands alone. -/
def whole? (s : List Char) : Option (Nat × List Char) :=
  match leadingDigits s with
  | ([], _) => none
  | (d :: more, rest) => if d.val = 0 ∧ more ≠ [] then none else some (valueOf (d :: more), rest)

def fraction? : List Char → Option (List (Fin 10) × List Char)
  | '.' :: s =>
    match leadingDigits s with
    | ([], _) => none
    | found => some found
  | s => some ([], s)

def exponent? : List Char → Option (Option Int × List Char)
  | [] => some (none, [])
  | c :: s =>
    if c = 'e' ∨ c = 'E' then
      let (negative, s) :=
        match s with
        | '-' :: s => (true, s)
        | '+' :: s => (false, s)
        | s => (false, s)
      match leadingDigits s with
      | ([], _) => none
      | (digits, rest) =>
        let n : Int := valueOf digits
        some (some (if negative then -n else n), rest)
    else some (none, c :: s)

def unsigned? (negative : Bool) (s : List Char) : Option (Number × List Char) := do
  let (whole, s) ← whole? s
  let (fraction, s) ← fraction? s
  let (exponent, s) ← exponent? s
  return ({ negative, whole, fraction, exponent }, s)

def number? : List Char → Option (Number × List Char)
  | '-' :: s => unsigned? true s
  | s => unsigned? false s

def scalar? (s : List Char) : Option (Json × List Char) :=
  match s with
  | 'n' :: 'u' :: 'l' :: 'l' :: rest => some (.null, rest)
  | 't' :: 'r' :: 'u' :: 'e' :: rest => some (.bool true, rest)
  | 'f' :: 'a' :: 'l' :: 's' :: 'e' :: rest => some (.bool false, rest)
  | s => (number? s).map fun (n, rest) => (.number n, rest)

mutual

/-- The value at the start of a text; `fuel` bounds the nesting and the number of items. -/
def value? : Nat → List Char → Option (Json × List Char)
  | 0, _ => none
  | fuel + 1, s =>
    match skipGap s with
    | '"' :: rest => (string? rest).map fun (text, rest) => (.string text, rest)
    | '[' :: rest =>
      match skipGap rest with
      | ']' :: rest => some (.array [], rest)
      | rest => (items? fuel rest).map fun (items, rest) => (.array items, rest)
    | '{' :: rest =>
      match skipGap rest with
      | '}' :: rest => some (.object [], rest)
      | rest => (members? fuel rest).map fun (members, rest) => (.object members, rest)
    | rest => scalar? rest

def items? : Nat → List Char → Option (List Json × List Char)
  | 0, _ => none
  | fuel + 1, s => do
    let (item, rest) ← value? fuel s
    match skipGap rest with
    | ']' :: rest => return ([item], rest)
    | ',' :: rest =>
      let (items, rest) ← items? fuel rest
      return (item :: items, rest)
    | _ => none

def members? : Nat → List Char → Option (List (Option String × Json) × List Char)
  | 0, _ => none
  | fuel + 1, s =>
    match skipGap s with
    | '"' :: rest => do
      let (name, rest) ← string? rest
      match skipGap rest with
      | ':' :: rest =>
        let (value, rest) ← value? fuel rest
        match skipGap rest with
        | '}' :: rest => return ([(name, value)], rest)
        | ',' :: rest =>
          let (members, rest) ← members? fuel rest
          return ((name, value) :: members, rest)
        | _ => none
      | _ => none
    | _ => none

end

def ofChars? (s : List Char) : Option Json :=
  match value? (2 * s.length + 2) s with
  | some (value, rest) => if (skipGap rest).isEmpty then some value else none
  | none => none

def ofText? (s : String) : Option Json := ofChars? s.toList

end GuidedExploration.Json
