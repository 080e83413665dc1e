import GuidedExploration.Shell.Reader.Simple

/-!
Compound commands. Each one starts with a reserved word or a bracket and holds lists of commands.
-/

set_option autoImplicit false

namespace GuidedExploration.Shell

open Reader

/-- At least one command, unless the script ends there. -/
def readSome (nested : Nested) : Reader (List Item) := do
  let items ← nested.items
  if items.isEmpty && !(← get).rest.isEmpty then refuseNext else return items

def readBranches (nested : Nested) : Nat → Reader Compound
  | 0 => refuseNext
  | fuel + 1 => do
    let line := (← get).line
    let condition ← readSome nested
    skipLines
    expectReserved "then"
    let body ← readSome nested
    skipLines
    if ← acceptReserved "elif" then
      let rest ← readBranches nested fuel
      return .branch condition body [.mk false (.mk false [.compound line rest []]) []]
    else if ← acceptReserved "else" then
      let otherwise ← readSome nested
      skipLines
      expectReserved "fi"
      return .branch condition body otherwise
    else
      expectReserved "fi"
      return .branch condition body []

def readBody (nested : Nested) : Reader (List Item) := do
  skipLines
  expectReserved "do"
  let body ← readSome nested
  skipLines
  expectReserved "done"
  return body

def readEach (nested : Nested) : Reader Compound := do
  skipBlanks
  let name ← takeWhile isNameChar
  if !isName name then refuseAt fun _ => .badVariable
  skipLines
  let words ←
    if ← acceptReserved "in" then
      some <$> many do
        skipBlanks
        readWord? nested
    else pure none
  skipBlanks
  let _ ← accept [';']
  return .each name words (← readBody nested)

def readArm? (nested : Nested) : Reader (Option (List Word × List Item)) := do
  skipLines
  if ← acceptReserved "esac" then return none
  if (← get).rest.isEmpty then refuseInstead "\")\""
  let _ ← accept ['(']
  skipBlanks
  let first ← readWord nested
  let others ← many do
    skipBlanks
    if ← accept ['|'] then
      skipBlanks
      return some (← readWord nested)
    else return none
  skipBlanks
  expectSign ')'
  let body ← nested.items
  skipLines
  if !(← accept [';', ';']) then
    if (← reserved?) != some "esac" then refuseInstead "\";;\""
  return some (first :: others, body)

def readSelect (nested : Nested) : Reader Compound := do
  skipBlanks
  let subject ← readWord nested
  skipLines
  expectReserved "in"
  return .select subject (← many (readArm? nested))

def readCompound? (nested : Nested) : Reader (Option Compound) := do
  if ← accept ['('] then
    let body ← readSome nested
    skipLines
    expectSign ')'
    return some (.subshell body)
  else if ← acceptReserved "\x7b" then
    let body ← readSome nested
    skipLines
    expectReserved "\x7d"
    return some (.group body)
  else if ← acceptReserved "if" then
    return some (← readBranches nested ((← get).rest.length + 1))
  else if ← acceptReserved "while" then
    let condition ← readSome nested
    return some (.loop true condition (← readBody nested))
  else if ← acceptReserved "until" then
    let condition ← readSome nested
    return some (.loop false condition (← readBody nested))
  else if ← acceptReserved "for" then return some (← readEach nested)
  else if ← acceptReserved "case" then return some (← readSelect nested)
  else return none

/-- A command, if one comes next; a reserved word that ends a list is none. -/
def readStatement? (nested : Nested) : Reader (Option Statement) := do
  skipBlanks
  let line := (← get).line
  match ← readCompound? nested with
  | some body =>
    let redirections ← many do
      skipBlanks
      readRedirection? nested
    return some (.compound line body redirections)
  | none => if (← reserved?).isSome then return none else readSimple? nested

end GuidedExploration.Shell
