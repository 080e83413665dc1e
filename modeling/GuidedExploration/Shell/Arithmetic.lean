import GuidedExploration.Dict
import GuidedExploration.Shell.Syntax

/-!
Arithmetic expressions over 64-bit integers: their signs and names, the tree that they form, and
its value, which may depend on variables and may change them.
-/

set_option autoImplicit false

namespace GuidedExploration.Shell.Arithmetic

def wordSize : Nat := Nat.pow 2 64

def wrap (n : Int) : Int := Int.bmod n wordSize

def truth (b : Bool) : Int := if b then 1 else 0

/-- A binary operator; division by zero has no value. -/
structure Operator where
  sign : String
  apply : Int → Int → Option Int

def total (sign : String) (f : Int → Int → Int) : Operator := ⟨sign, fun a b => some (wrap (f a b))⟩

def divided (sign : String) (f : Int → Int → Int) : Operator :=
  ⟨sign, fun a b => if b = 0 then none else some (wrap (f a b))⟩

def bitwise (sign : String) (f : UInt64 → UInt64 → UInt64) : Operator :=
  total sign fun a b => (f (UInt64.ofInt a) (UInt64.ofInt b)).toNat

def levels : List (List Operator) :=
  [[bitwise "|" (· ||| ·)],
   [bitwise "^" (· ^^^ ·)],
   [bitwise "&" (· &&& ·)],
   [total "==" fun a b => truth (a == b), total "!=" fun a b => truth (a != b)],
   [total "<=" fun a b => truth (decide (a ≤ b)), total ">=" fun a b => truth (decide (a ≥ b)),
    total "<" fun a b => truth (decide (a < b)), total ">" fun a b => truth (decide (a > b))],
   [total "<<" fun a b => a * (Nat.pow 2 (b % 64).toNat : Nat),
    total ">>" fun a b => a >>> (b % 64).toNat],
   [total "+" (· + ·), total "-" (· - ·)],
   [total "*" (· * ·), divided "/" Int.tdiv, divided "%" Int.tmod]]

def assigning? (sign : String) : Option Operator :=
  levels.flatten.find? fun o => o.sign ++ "=" == sign && !(["=", "!", "<", ">"].contains o.sign)

inductive Expression where
  | number (n : Int)
  | named (name : String)
  | negative (operand : Expression)
  | complement (operand : Expression)
  | negation (operand : Expression)
  | binary (operator : Operator) (left right : Expression)
  | both (left right : Expression)
  | either (left right : Expression)
  | choice (condition yes no : Expression)
  | assignment (name : String) (operator : Option Operator) (value : Expression)

inductive Problem where
  | expecting (what : String)
  | divisionByZero
  | illegalNumber (text : String)

def Problem.message (text : String) : Problem → String
  | .expecting what => s!"arithmetic expression: expecting {what}: \"{text}\""
  | .divisionByZero => s!"arithmetic expression: division by zero: \"{text}\""
  | .illegalNumber value => s!"Illegal number: {value}"

def isSpace (c : Char) : Bool := c = ' ' || c = '\t' || c = '\n'

/-- The digits of a number at the front, with their base: sixteen behind `0x`, eight behind a zero,
and otherwise ten. -/
def numeral (s : List Char) : Nat × List Char × List Char :=
  let digits (base : Nat) (s : List Char) : Nat × List Char × List Char :=
    let isDigit (c : Char) : Bool := (Text.hexDigit? c).any (· < base)
    (base, s.takeWhile isDigit, s.dropWhile isDigit)
  match s with
  | '0' :: x :: c :: rest =>
    if (x = 'x' || x = 'X') && (Text.hexDigit? c).isSome then digits 16 (c :: rest)
    else digits 8 s
  | '0' :: _ => digits 8 s
  | _ => digits 10 s

def numeralValue (base : Nat) (digits : List Char) : Nat :=
  digits.foldl (fun n c => n * base + (Text.hexDigit? c).getD 0) 0

def greatest : Nat := wordSize / 2 - 1

/-- The number that a value of a variable is; blanks may stand before it. -/
def ofValue (value : String) : Except Problem Int :=
  let illegal : Except Problem Int := .error (.illegalNumber value)
  let signed (sign : Int) (limit : Nat) (s : List Char) : Except Problem Int :=
    match numeral s with
    | (base, digits, rest) =>
      let n := numeralValue base digits
      if digits.isEmpty || !rest.isEmpty || n > limit then illegal else .ok (sign * n)
  match value.toList.dropWhile isSpace with
  | [] => .ok 0
  | '-' :: s => signed (-1) (greatest + 1) s
  | '+' :: s => signed 1 greatest s
  | s => signed 1 greatest s

inductive Token where
  | number (n : Int)
  | name (name : String)
  | sign (sign : String)
  deriving DecidableEq

/-- Signs of several characters; of two that begin alike the longer one comes first. -/
def longSigns : List String :=
  ["<<=", ">>=", "<<", ">>", "<=", ">=", "==", "!=", "&&", "||", "+=", "-=", "*=", "/=", "%=",
   "&=", "^=", "|="]

/-- The signs, names and numbers of a text; a number too great is the greatest one. -/
def tokens : Nat → List Char → List Token
  | 0, _ => []
  | _, [] => []
  | fuel + 1, c :: s =>
    if isSpace c then tokens fuel s
    else if Text.isDigit c then
      match numeral (c :: s) with
      | (base, digits, rest) =>
        .number (Nat.min (numeralValue base digits) greatest) :: tokens fuel rest
    else if isNameStart c then
      .name (String.ofList ((c :: s).takeWhile isNameChar)) ::
        tokens fuel (s.dropWhile isNameChar)
    else
      match longSigns.findSome? fun sign =>
          (sign.toList.isPrefixOf? (c :: s)).map fun rest => (sign, rest) with
      | some (sign, rest) => .sign sign :: tokens fuel rest
      | none => .sign (String.singleton c) :: tokens fuel s

abbrev Reader := List Token → Except Problem (Expression × List Token)

def chain (join? : String → Option (Expression → Expression → Expression)) (operand : Reader) :
    Reader := fun tokens => do
  let (first, rest) ← operand tokens
  go tokens.length first rest
where
  go : Nat → Expression → Reader
    | 0, left, tokens => .ok (left, tokens)
    | fuel + 1, left, tokens =>
      match tokens with
      | .sign sign :: rest =>
        match join? sign with
        | none => .ok (left, tokens)
        | some join => do
          let (right, rest) ← operand rest
          go fuel (join left right) rest
      | _ => .ok (left, tokens)

def strict (atom : Reader) : List (List Operator) → Reader
  | [] => atom
  | operators :: tighter =>
    chain (fun sign => (operators.find? fun o => o.sign == sign).map .binary) (strict atom tighter)

def condition (atom : Reader) : Reader :=
  chain (fun sign => if sign == "||" then some .either else none)
    (chain (fun sign => if sign == "&&" then some .both else none) (strict atom levels))

def operand (whole atom : Reader) : Reader
  | .number n :: rest => .ok (.number n, rest)
  | .name name :: rest => .ok (.named name, rest)
  | .sign "(" :: rest => do
    match ← whole rest with
    | (inside, .sign ")" :: rest) => return (inside, rest)
    | _ => throw (.expecting "')'")
  | .sign "-" :: rest => (atom rest).map fun (e, rest) => (.negative e, rest)
  | .sign "+" :: rest => atom rest
  | .sign "!" :: rest => (atom rest).map fun (e, rest) => (.negation e, rest)
  | .sign "~" :: rest => (atom rest).map fun (e, rest) => (.complement e, rest)
  | _ => .error (.expecting "primary")

def choice (whole rest : Reader) (atom : Reader) : Reader := fun tokens => do
  match ← condition atom tokens with
  | (test, .sign "?" :: tokens) =>
    match ← whole tokens with
    | (yes, .sign ":" :: tokens) =>
      let (no, tokens) ← rest tokens
      return (.choice test yes no, tokens)
    | _ => throw (.expecting "':'")
  | found => return found

def assignment (whole choice : Reader) : Reader
  | .name name :: .sign sign :: tokens =>
    let assigns (operator : Option Operator) : Except Problem (Expression × List Token) :=
      (whole tokens).map fun (e, tokens) => (.assignment name operator e, tokens)
    if sign == "=" then assigns none
    else
      match assigning? sign with
      | some operator => assigns (some operator)
      | none => choice (.name name :: .sign sign :: tokens)
  | tokens => choice tokens

structure Readers where
  whole : Reader
  choice : Reader
  operand : Reader

def readers : Nat → Readers
  | 0 =>
    let none : Reader := fun _ => .error (.expecting "primary")
    ⟨none, none, none⟩
  | depth + 1 =>
    let inner := readers depth
    let operand := operand inner.whole inner.operand
    let choice := choice inner.whole inner.choice operand
    ⟨assignment inner.whole choice, choice, operand⟩

/-- The expression that a text is; an empty one is zero. No expression is nested deeper than it has
tokens. -/
def Expression.ofText (text : List Char) : Except Problem Expression := do
  match tokens (text.length + 1) text with
  | [] => return .number 0
  | tokens =>
    match ← (readers (tokens.length + 1)).whole tokens with
    | (e, []) => return e
    | _ => throw (.expecting "EOF")

abbrev Evaluation := StateT (Dict String String) (Except Problem)

def valueOf (name : String) : Evaluation Int := do
  match ofValue (((← get).get? name).getD "") with
  | .ok n => return n
  | .error problem => throw problem

def Operator.value (o : Operator) (a b : Int) : Evaluation Int := do
  match o.apply a b with
  | some n => return n
  | none => throw .divisionByZero

/-- The value of an expression. Of a condition no more is evaluated than decides it. -/
def Expression.value : Expression → Evaluation Int
  | .number n => return n
  | .named name => valueOf name
  | .negative e => do return wrap (-(← e.value))
  | .complement e => do return wrap (-(← e.value) - 1)
  | .negation e => do return truth ((← e.value) == 0)
  | .binary o l r => do
    let a ← l.value
    let b ← r.value
    o.value a b
  | .both l r => do
    if (← l.value) == 0 then return 0 else return truth ((← r.value) != 0)
  | .either l r => do
    if (← l.value) != 0 then return 1 else return truth ((← r.value) != 0)
  | .choice c yes no => do
    if (← c.value) != 0 then yes.value else no.value
  | .assignment name operator e => do
    let right ← e.value
    let n ←
      match operator with
      | none => pure right
      | some o => do o.value (← valueOf name) right
    modify fun bindings => bindings.insert name (String.ofList (Text.integer n))
    return n

def evaluate (bindings : Dict String String) (text : List Char) :
    Except Problem (Int × Dict String String) := do
  (← Expression.ofText text).value.run bindings

end GuidedExploration.Shell.Arithmetic
