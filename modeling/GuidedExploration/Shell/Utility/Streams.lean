import GuidedExploration.Shell.Utility.Basic
import GuidedExploration.Shell.Format
import GuidedExploration.Text.Utf8

/-!
The utilities that write to the output, and the one that waits.
-/

set_option autoImplicit false

namespace GuidedExploration.Shell.Utility

def cat (arguments : List String) : Run Nat := do
  let (_, operands) := options arguments
  forEach (if operands.isEmpty then ["-"] else operands) fun operand => do
    match ← contentsOf operand with
    | .ok bytes =>
      write bytes
      return 0
    | .error cause => fail "cat" s!"{operand}: {cause.phrase}"

def portion (arguments : List String) : Bool × Nat × List String :=
  let number (text : List Char) : Nat := (Text.natural? text).getD 10
  match arguments with
  | "-c" :: n :: rest => (true, number n.toList, rest)
  | "-n" :: n :: rest => (false, number n.toList, rest)
  | word :: rest =>
    match word.toList with
    | '-' :: 'c' :: n => (true, number n, rest)
    | '-' :: 'n' :: n => (false, number n, rest)
    | '-' :: c :: n =>
      if Text.isDigit c then (false, number (c :: n), rest) else (false, 10, word :: rest)
    | _ => (false, 10, word :: rest)
  | [] => (false, 10, [])

def writeParts (utility : String) (operands : List String) (part : List UInt8 → List UInt8) :
    Run Nat :=
  forEach (if operands.isEmpty then ["-"] else operands) fun operand => do
    match ← contentsOf operand with
    | .ok found =>
      write (part found)
      return 0
    | .error cause => fail utility s!"cannot open '{operand}' for reading: {cause.phrase}"

def head (arguments : List String) : Run Nat := do
  let (bytes, count, operands) := portion arguments
  if operands = ["/dev/zero"] && bytes then
    write (List.replicate count 0)
    return 0
  writeParts "head" operands fun found =>
    if bytes then found.take count else ((Text.splitAfter 10 found).take count).flatten

def tail (arguments : List String) : Run Nat :=
  let (bytes, count, operands) := portion arguments
  writeParts "tail" operands fun found =>
    let last {α : Type} (items : List α) := items.drop (items.length - count)
    if bytes then last found else (last (Text.splitAfter 10 found)).flatten

def byteClass? (name : List Char) : Option (Char → Bool) :=
  match String.ofList name with
  | "lower" => some Char.isLower
  | "upper" => some Char.isUpper
  | "alpha" => some Char.isAlpha
  | "digit" => some Char.isDigit
  | "alnum" => some Char.isAlphanum
  | "blank" => some fun c => c = ' ' || c = '\t'
  | "space" => some fun c => c = ' ' || (9 ≤ c.toNat && c.toNat ≤ 13)
  | "punct" => some fun c => 32 < c.toNat && c.toNat < 127 && !c.isAlphanum
  | _ => none

/-- The bytes of a set, in order: bytes, ranges of them, and classes. -/
def byteSet : Nat → List Char → List UInt8
  | 0, _ => []
  | _, [] => []
  | fuel + 1, '[' :: ':' :: s =>
    match Text.cutAround [':', ']'] s with
    | some (name, rest) =>
      match byteClass? name with
      | some fits =>
        ((List.range 128).filter fun n => fits (Char.ofNat n)).map UInt8.ofNat ++
          byteSet fuel rest
      | none => 91 :: byteSet fuel (':' :: s)
    | none => 91 :: byteSet fuel (':' :: s)
  | fuel + 1, a :: '-' :: b :: s =>
    (List.range (b.toNat + 1 - a.toNat)).map (fun i => UInt8.ofNat (a.toNat + i)) ++
      byteSet fuel s
  | fuel + 1, c :: s => bytesOf [c] ++ byteSet fuel s

/-- Leaves one of several equal bytes that follow one another, if they are of some kind. -/
def squeeze (isMeant : UInt8 → Bool) : List UInt8 → List UInt8
  | a :: b :: bytes =>
    if a = b && isMeant a then squeeze isMeant (b :: bytes) else a :: squeeze isMeant (b :: bytes)
  | bytes => bytes

def translate (arguments : List String) : Run Nat := do
  let (letters, operands) := options arguments
  let set (word : String) : List UInt8 :=
    let text := Text.Utf8.decodeLossy (unescape false (word.length + 2) word.toList).1
    byteSet (text.length + 1) text
  let firstOf (word : String) : List UInt8 :=
    if !(letters.contains 'c' || letters.contains 'C') then set word
    else ((List.range 256).map UInt8.ofNat).filter fun b => !(set word).contains b
  match ← contentsOf "-" with
  | .error _ => return 1
  | .ok bytes =>
    match operands with
    | [word] =>
      let meant := firstOf word
      if letters.contains 'd' then write (bytes.filter fun b => !meant.contains b)
      else write (squeeze meant.contains bytes)
      return 0
    | [word, other] =>
      let (old, new) := (firstOf word, set other)
      if letters.contains 'd' then
        write (squeeze new.contains (bytes.filter fun b => !old.contains b))
      else
        let last := List.replicate (old.length - new.length) (new.getLast?.getD 0)
        let pairs := old.zip (new ++ last)
        let changed := bytes.map fun b => (pairs.lookup b).getD b
        write (if letters.contains 's' then squeeze new.contains changed else changed)
      return 0
    | _ => misuse "tr" "missing operand"

def sequence (arguments : List String) : Run Nat := do
  let run (first step last : Int) : Run Nat := do
    let n := if step = 0 then 0 else ((last - first) / step + 1).toNat
    for i in List.range n do
      say (String.ofList (Text.integer (first + step * i)) ++ "\n")
    return 0
  match arguments.map fun word => Text.signedInteger? word.toList with
  | [some last] => run 1 1 last
  | [some first, some last] => run first 1 last
  | [some first, some step, some last] => run first step last
  | _ => misuse "seq" "missing operand"

def lastStep (arguments : List String) : Run Nat := do
  match arguments with
  | [path] | [path, _] =>
    let name := ((Path.mk path).steps.getLast?.getD (if path.isEmpty then "" else "/")).toList
    let ending := (arguments[1]?.getD "").toList
    let name :=
      if ending.isSuffixOf name && ending != name then name.take (name.length - ending.length)
      else name
    say (String.ofList name ++ "\n")
    return 0
  | _ => misuse "basename" "missing operand"

/-- The milliseconds of a duration in seconds, or with a letter in minutes, hours or days. -/
def milliseconds? (text : String) : Option Nat :=
  let s := text.toList
  let (factor, digits) :=
    match s.getLast? with
    | some 's' => (1000, s.dropLast)
    | some 'm' => (60000, s.dropLast)
    | some 'h' => (3600000, s.dropLast)
    | some 'd' => (86400000, s.dropLast)
    | _ => (1000, s)
  match Text.cutAt '.' digits with
  | none => (Text.natural? digits).map (factor * ·)
  | some (whole, fraction) =>
    match Text.naturalFrom 0 (whole ++ fraction) with
    | some n =>
      if (whole ++ fraction).isEmpty then none
      else some (factor * n / Nat.pow 10 fraction.length)
    | none => none

def pause (arguments : List String) : Run Nat := do
  match arguments with
  | [] => misuse "sleep" "missing operand"
  | words =>
    match words.find? fun word => (milliseconds? word).isNone with
    | some word =>
      match word.toList with
      | '-' :: c :: _ => misuse "sleep" s!"invalid option -- '{c}'"
      | _ => misuse "sleep" s!"invalid time interval '{word}'"
    | none =>
      sleep ((words.filterMap milliseconds?).foldl (· + ·) 0)
      return 0

end GuidedExploration.Shell.Utility
