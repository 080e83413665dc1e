import GuidedExploration.Shell.Syntax

/-!
Readers take text from the front of what is left. A text that is no script is refused with a flaw
and the line at which it shows.
-/

set_option autoImplicit false

namespace GuidedExploration.Shell

structure Source where
  rest : List Char
  line : Nat := 1

inductive Flaw where
  | unterminated
  | unterminatedCommands
  | badSubstitution
  | badVariable
  | badFunction
  | missing (sign : String)
  | unexpected (found : String)
  | instead (found expected : String)
  deriving DecidableEq, Repr

namespace Flaw

def message : Flaw → String
  | unterminated => "Syntax error: Unterminated quoted string"
  | unterminatedCommands => "Syntax error: EOF in backquote substitution"
  | badSubstitution => "Bad substitution"
  | badVariable => "Syntax error: Bad for loop variable"
  | badFunction => "Syntax error: Bad function name"
  | missing sign => s!"Syntax error: Missing '{sign}'"
  | unexpected found => s!"Syntax error: {found} unexpected"
  | instead found expected => s!"Syntax error: {found} unexpected (expecting {expected})"

end Flaw

structure Mistake where
  flaw : Flaw
  line : Nat
  deriving DecidableEq, Repr

abbrev Reader (α : Type) := StateT Source (Except Mistake) α

namespace Reader

def refuse {α : Type} (flaw : Flaw) : Reader α := do
  throw { flaw, line := (← get).line }

def peek : Reader (Option Char) := do return (← get).rest.head?

def take : Reader Char := do
  match (← get).rest with
  | [] => refuse (.unexpected "end of file")
  | c :: rest =>
    modify fun s => { rest, line := if c = '\n' then s.line + 1 else s.line }
    return c

def takeMany : Nat → Reader Unit
  | 0 => return
  | n + 1 => do
    let _ ← take
    takeMany n

def accept (text : List Char) : Reader Bool := do
  if text.isPrefixOf (← get).rest then
    takeMany text.length
    return true
  else return false

def expect (text : List Char) (flaw : Flaw) : Reader Unit := do
  if !(← accept text) then refuse flaw

def takeWhile (fits : Char → Bool) : Reader (List Char) := do
  let found := (← get).rest.takeWhile fits
  takeMany found.length
  return found

/-- Runs a reader until it finds nothing more; `fuel` bounds how often. -/
def collect {α : Type} (item : Reader (Option α)) : Nat → Reader (List α)
  | 0 => return []
  | fuel + 1 => do
    match ← item with
    | none => return []
    | some a => return a :: (← collect item fuel)

def many {α : Type} (item : Reader (Option α)) : Reader (List α) := do
  collect item ((← get).rest.length + 1)

end Reader

end GuidedExploration.Shell
