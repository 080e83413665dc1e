import GuidedExploration.Shell.Utility.Basic

/-!
The utilities that work on the lines of their input: counting, sorting and cutting them.
-/

set_option autoImplicit false

namespace GuidedExploration.Shell.Utility

abbrev Line := List UInt8

def linesOf (bytes : List UInt8) : List Line :=
  (Text.splitAfter 10 bytes).map fun line =>
    if line.getLast? = some 10 then line.dropLast else line

def writeLines (lines : List Line) : Run Unit := do
  for line in lines do write (line ++ [10])

def withLines (utility : String) (operands : List String) (act : List Line → Run Nat) :
    Run Nat := do
  let rec gather : List String → Run (Option (List Line))
    | [] => return some []
    | operand :: rest => do
      match ← contentsOf operand with
      | .error cause =>
        complain s!"{utility}: {operand}: {cause.phrase}"
        return none
      | .ok bytes => return (← gather rest).map (linesOf bytes ++ ·)
  match ← gather (if operands.isEmpty then ["-"] else operands) with
  | some lines => act lines
  | none => return 1

def leadingNumber (line : Line) : Int :=
  let text := (line.map fun b => Char.ofNat b.toNat).dropWhile fun c => c = ' ' || c = '\t'
  let (sign, text) : Int × List Char :=
    match text with
    | '-' :: text => (-1, text)
    | text => (1, text)
  sign * ((Text.natural? (text.takeWhile Text.isDigit)).getD 0)

def runs {α : Type} [DecidableEq α] (items : List α) : List (α × Nat) :=
  (items.splitBy fun a b => decide (a = b)).filterMap fun run =>
    run.head?.map fun item => (item, run.length)

def sort (arguments : List String) : Run Nat :=
  let (letters, operands) := options arguments
  withLines "sort" operands fun lines => do
    let isBelow (a b : Line) : Bool :=
      let bytes := !decide (b < a)
      if letters.contains 'n' then
        let (x, y) := (leadingNumber a, leadingNumber b)
        decide (x < y) || (decide (x = y) && bytes)
      else bytes
    let sorted := lines.mergeSort isBelow
    let sorted := if letters.contains 'r' then sorted.reverse else sorted
    writeLines (if letters.contains 'u' then (runs sorted).map Prod.fst else sorted)
    return 0

def columnOf (width n : Nat) : String :=
  let digits := Text.digits n
  String.ofList (List.replicate (width - digits.length) ' ' ++ digits)

def unique (arguments : List String) : Run Nat :=
  let (letters, operands) := options arguments
  withLines "uniq" operands fun lines => do
    for (line, times) in runs lines do
      let isShown := (!letters.contains 'd' || 1 < times) && (!letters.contains 'u' || times = 1)
      if isShown then
        if letters.contains 'c' then say (columnOf 7 times ++ " ")
        writeLines [line]
    return 0

structure Tally where
  lines : Nat := 0
  words : Nat := 0
  bytes : Nat := 0

namespace Tally

def isSpace (b : UInt8) : Bool := b = 32 || (9 ≤ b && b ≤ 13)

def ofBytes (bytes : List UInt8) : Tally where
  lines := bytes.countP (· == 10)
  words := ((bytes.splitBy fun a b => isSpace a == isSpace b).filter fun run =>
    run.head?.any fun b => !isSpace b).length
  bytes := bytes.length

def add (a b : Tally) : Tally := ⟨a.lines + b.lines, a.words + b.words, a.bytes + b.bytes⟩

def numbers (t : Tally) (letters : List Char) : List Nat :=
  let pick (wanted : Char → Bool) (n : Nat) : List Nat :=
    if letters.isEmpty || letters.any wanted then [n] else []
  pick (· = 'l') t.lines ++ pick (· = 'w') t.words ++ pick (fun c => c = 'c' || c = 'm') t.bytes

end Tally

def count (arguments : List String) : Run Nat := do
  let (letters, operands) := options arguments
  let found ← (if operands.isEmpty then ["-"] else operands).mapM fun operand => do
    match ← contentsOf operand with
    | .ok bytes => return some (operand, Tally.ofBytes bytes)
    | .error cause =>
      complain s!"wc: {operand}: {cause.phrase}"
      return none
  let rows := found.filterMap id
  let total := rows.foldl (fun total (_, tally) => total.add tally) {}
  -- Nothing is known of the length of an input that is not a file.
  let width :=
    if operands.length ≤ 1 && ((({} : Tally).numbers letters).length = 1) then 0
    else if operands.isEmpty || operands.contains "-" then 7
    else (Text.digits total.bytes).length
  let shown (name : String) (tally : Tally) : Run Unit := do
    let row := " ".intercalate ((tally.numbers letters).map (columnOf width))
    say (row ++ (if name.isEmpty then "" else " " ++ name) ++ "\n")
  for (operand, tally) in rows do
    shown (if operands.isEmpty then "" else operand) tally
  if 1 < operands.length then shown "total" total
  return if found.all Option.isSome then 0 else 1

def copyOut (arguments : List String) : Run Nat := do
  let (letters, operands) := options arguments
  match ← contentsOf "-" with
  | .error _ => return 1
  | .ok bytes =>
    write bytes
    forEach operands fun operand => do
      let p ← pathOf operand
      let contents := ByteArray.mk bytes.toArray
      let action : FileSystem.Action Unit :=
        if letters.contains 'a' then FileSystem.Action.append p contents
        else FileSystem.Action.write p contents
      match ← onFiles action with
      | .ok () => return 0
      | .error cause => fail "tee" s!"{operand}: {cause.phrase}"

end GuidedExploration.Shell.Utility
