import GuidedExploration.Decimal.Layout
import GuidedExploration.Decimal.Reading
import GuidedExploration.Shell.Arithmetic
import GuidedExploration.Shell.Process
import GuidedExploration.Text.Cut

/-!
What `echo` and `printf` write: escapes in texts, and formats that are used again as long as there
are arguments.
-/

set_option autoImplicit false

namespace GuidedExploration.Shell

def octal (count : Nat) (s : List Char) : List Char :=
  (s.take count).takeWhile fun c => '0' ≤ c && c ≤ '7'

def octalValue (digits : List Char) : Nat :=
  digits.foldl (fun n d => n * 8 + (d.toNat - 48)) 0

def letterEscape? : Char → Option Nat
  | 'a' => some 7
  | 'b' => some 8
  | 'e' => some 27
  | 'f' => some 12
  | 'n' => some 10
  | 'r' => some 13
  | 't' => some 9
  | 'v' => some 11
  | '\\' => some 92
  | _ => none

/-- What a text with escapes stands for, and whether it asks to end there. With `zeroed`, octal
digits follow a zero. -/
def unescape (zeroed : Bool) : Nat → List Char → List UInt8 × Bool
  | 0, _ => ([], false)
  | _, [] => ([], false)
  | fuel + 1, '\\' :: c :: s =>
    let follow (bytes : List UInt8) (rest : List Char) : List UInt8 × Bool :=
      let (more, ended) := unescape zeroed fuel rest
      (bytes ++ more, ended)
    match letterEscape? c with
    | some code => follow [UInt8.ofNat code] s
    | none =>
      if c = 'c' && zeroed then ([], true)
      else if c = '0' && zeroed then
        let digits := octal 3 s
        follow [UInt8.ofNat (octalValue digits)] (s.drop digits.length)
      else if !zeroed && '0' ≤ c && c ≤ '7' then
        let digits := octal 3 (c :: s)
        follow [UInt8.ofNat (octalValue digits)] ((c :: s).drop digits.length)
      else follow (92 :: bytesOf [c]) s
  | fuel + 1, c :: s =>
    let (more, ended) := unescape zeroed fuel s
    (bytesOf [c] ++ more, ended)

def echoBytes (arguments : List String) : List UInt8 :=
  let (line, words) :=
    match arguments with
    | "-n" :: words => (false, words)
    | words => (true, words)
  let text := Text.joinWith [' '] (words.map String.toList)
  let (bytes, ended) := unescape true (text.length + 1) text
  if line && !ended then bytes ++ [10] else bytes

structure Layout where
  left : Bool := false
  zeros : Bool := false
  plus : Bool := false
  width : Nat := 0
  precision : Option Nat := none

def Layout.pad (l : Layout) (bytes : List UInt8) : List UInt8 :=
  let fill := List.replicate (l.width - bytes.length) (32 : UInt8)
  if l.left then bytes ++ fill else fill ++ bytes

def Layout.number (l : Layout) (zeros negative : Bool) (digits : List Char) : List UInt8 :=
  let sign := if negative then ['-'] else if l.plus then ['+'] else []
  let room := if zeros && !l.left then l.width - sign.length else 0
  l.pad (bytesOf (sign ++ List.replicate (room - digits.length) '0' ++ digits))

def Layout.integer (l : Layout) (negative : Bool) (digits : List Char) : List UInt8 :=
  l.number (l.zeros && l.precision.isNone) negative
    (List.replicate (l.precision.getD 1 - digits.length) '0' ++ digits)

def Layout.fraction (l : Layout) (x : Float) : List UInt8 :=
  match Decimal.fixed (l.precision.getD 6) x with
  | '-' :: digits => l.number l.zeros true digits
  | digits => l.number l.zeros false digits

def readLayout (s : List Char) : Layout × List Char :=
  let flags := s.takeWhile fun c => c = '-' || c = '0' || c = '+' || c = ' ' || c = '#'
  let s := s.drop flags.length
  let width := s.takeWhile Text.isDigit
  let s := s.drop width.length
  let layout : Layout :=
    { left := flags.contains '-', zeros := flags.contains '0', plus := flags.contains '+'
      width := (Text.natural? width).getD 0 }
  match s with
  | '.' :: s =>
    let precision := s.takeWhile Text.isDigit
    ({ layout with precision := some ((Text.natural? precision).getD 0) },
      s.drop precision.length)
  | _ => (layout, s)

def digitsIn (base : Nat) (upper : Bool) (n : Nat) : List Char :=
  (Nat.toDigits base n).map fun c => if upper then c.toUpper else c

/-- The integer that an argument is, and what is wrong with the argument. Behind a quote it is the
code of the byte that follows; a number that does not fit gives way to the one nearest to it. -/
def argumentValue (argument : String) : Int × Option String :=
  match argument.toList with
  | '\'' :: s | '"' :: s => (((bytesOf s).head?.getD 0).toNat, none)
  | s =>
    let s := s.dropWhile fun c => c = ' ' || c = '\t' || c = '\n'
    let (sign, s) : Int × List Char :=
      match s with
      | '-' :: s => (-1, s)
      | '+' :: s => (1, s)
      | s => (1, s)
    let (base, digits, rest) := Arithmetic.numeral s
    let n := Arithmetic.numeralValue base digits
    let limit := Arithmetic.greatest + if sign < 0 then 1 else 0
    if argument.isEmpty then (0, none)
    else if digits.isEmpty then (0, some (argument ++ ": expected numeric value"))
    else if !rest.isEmpty then (sign * n, some (argument ++ ": not completely converted"))
    else if n > limit then (sign * limit, some (argument ++ ": Numerical result out of range"))
    else (sign * n, none)

structure Formatted where
  bytes : List UInt8 := []
  complaints : List String := []
  status : Nat := 0
  left : List String := []
  ended : Bool := false

def formatValue? (l : Layout) (letter : Char) (argument : Option String) : Option Formatted :=
  let text := argument.getD ""
  let (value, complaint) := argumentValue text
  let unsigned := (value % Arithmetic.wordSize).toNat
  let number (bytes : List UInt8) : Formatted :=
    match complaint with
    | none => { bytes }
    | some complaint => { bytes, complaints := [complaint], status := 1 }
  match letter with
  | 's' =>
    let bytes := bytesOf text.toList
    some { bytes := l.pad ((l.precision.map bytes.take).getD bytes) }
  | 'b' =>
    let (bytes, ended) := unescape true (text.length + 1) text.toList
    some { bytes := l.pad bytes, ended }
  | 'c' => some { bytes := l.pad ((bytesOf text.toList).take 1) }
  | 'd' | 'i' => some (number (l.integer (decide (value < 0)) (Text.digits value.natAbs)))
  | 'u' => some (number (l.integer false (Text.digits unsigned)))
  | 'o' => some (number (l.integer false (digitsIn 8 false unsigned)))
  | 'x' => some (number (l.integer false (digitsIn 16 false unsigned)))
  | 'X' => some (number (l.integer false (digitsIn 16 true unsigned)))
  | 'f' | 'F' =>
    match if text.isEmpty then some 0 else Decimal.finite? text.toList with
    | some x => some { bytes := l.fraction x }
    | none =>
      some
        { bytes := l.fraction 0
          complaints := [text ++ ": expected numeric value"]
          status := 1 }
  | _ => none

def Formatted.follow (before after : Formatted) : Formatted where
  bytes := before.bytes ++ after.bytes
  complaints := before.complaints ++ after.complaints
  status := Nat.max before.status after.status
  left := after.left
  ended := after.ended

def formatOnce : Nat → List Char → List String → Formatted
  | 0, _, left => { left }
  | _, [], left => { left }
  | fuel + 1, '%' :: '%' :: s, arguments =>
    { bytes := [37] : Formatted }.follow (formatOnce fuel s arguments)
  | fuel + 1, '%' :: s, left =>
    match readLayout s with
    | (_, []) => { complaints := ["missing format character"], status := 2, left, ended := true }
    | (layout, letter :: rest) =>
      match formatValue? layout letter left.head? with
      | none =>
        let directive := String.ofList ('%' :: s.take (s.length - rest.length))
        { complaints := [directive ++ ": invalid directive"], status := 2, left, ended := true }
      | some value =>
        if value.ended then value else value.follow (formatOnce fuel rest (left.drop 1))
  | fuel + 1, '\\' :: c :: s, arguments =>
    let digits := octal 3 (c :: s)
    let used := if digits.isEmpty then [c] else digits
    let (bytes, _) := unescape false (used.length + 2) ('\\' :: used)
    { bytes : Formatted }.follow (formatOnce fuel ((c :: s).drop used.length) arguments)
  | fuel + 1, c :: s, arguments =>
    { bytes := bytesOf [c] : Formatted }.follow (formatOnce fuel s arguments)

/-- Uses a format once, and again as long as there are arguments and it takes some. -/
def formatAll (format : List Char) : Nat → List String → Formatted
  | 0, _ => {}
  | fuel + 1, arguments =>
    let once := formatOnce (format.length + 1) format arguments
    if once.ended || once.left.isEmpty || once.left.length = arguments.length then once
    else once.follow (formatAll format fuel once.left)

def printf (format : String) (arguments : List String) : Run Nat := do
  let found := formatAll format.toList (arguments.length + 1) arguments
  for complaint in found.complaints do
    report ("printf: " ++ complaint)
  write found.bytes
  return found.status

end GuidedExploration.Shell
