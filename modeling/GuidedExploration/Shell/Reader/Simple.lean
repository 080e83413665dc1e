import GuidedExploration.Shell.Reader.Word

/-!
Simple commands: assignments, words and redirections in any order after each other.
-/

set_option autoImplicit false

namespace GuidedExploration.Shell

open Reader

def linesBefore (mark : List Char) (tabs : Bool) : Nat → List Char → List Char × List Char
  | 0, s => ([], s)
  | _, [] => ([], [])
  | fuel + 1, s =>
    let line := s.takeWhile (· != '\n')
    let rest := (s.dropWhile (· != '\n')).drop 1
    let line := if tabs then line.dropWhile (· = '\t') else line
    if line = mark then ([], rest)
    else
      let (body, left) := linesBefore mark tabs fuel rest
      (line ++ '\n' :: body, left)

/-- A text that follows the line on which it is announced. Quotes in its mark protect it from being
expanded. -/
def readText (nested : Nested) : Reader Redirection := do
  let tabs ← accept ['-']
  skipBlanks
  let mark ← readWord nested
  let source ← get
  let line := source.rest.takeWhile (· != '\n')
  let below := (source.rest.dropWhile (· != '\n')).drop 1
  let (body, left) := linesBefore (bareText mark) tabs (below.length + 1) below
  set { source with rest := line ++ '\n' :: left }
  if (plainText? mark).isSome then
    return .text (← within (many (readQuoted nested (fun _ => false) wordDepth)) body)
  else return .text [.literal body]

def readRedirection? (nested : Nested) : Reader (Option Redirection) := do
  let before ← get
  let digits ← takeWhile Text.isDigit
  let number := Text.natural? digits
  let target : Reader Word := do
    skipBlanks
    readWord nested
  let copied (descriptor : Nat) : Reader (Option Redirection) := do
    match plainText? (← target) with
    | some ['-'] => return some (.close descriptor)
    | text =>
      match text.bind Text.natural? with
      | some source => return some (.copy descriptor source)
      | none => refuse (.unexpected "redirection")
  if ← accept ['<', '<'] then return some (← readText nested)
  else if ← accept ['<', '&'] then copied (number.getD 0)
  else if ← accept ['<'] then return some (.read (← target))
  else if ← accept ['>', '>'] then return some (.write (number.getD 1) true (← target))
  else if ← accept ['>', '&'] then copied (number.getD 1)
  else if ← accept ['>', '|'] then return some (.write (number.getD 1) false (← target))
  else if ← accept ['>'] then return some (.write (number.getD 1) false (← target))
  else
    set before
    return none

def assignment? : Word → Option (List Char × Word)
  | .plain text :: rest =>
    let name := text.takeWhile (· != '=')
    match text.dropWhile (· != '=') with
    | '=' :: value => if isName name then some (name, .plain value :: rest) else none
    | _ => none
  | _ => none

inductive Part where
  | word (word : Word)
  | redirection (redirection : Redirection)

def readPart? (nested : Nested) : Reader (Option Part) := do
  skipBlanks
  match ← readRedirection? nested with
  | some redirection => return some (.redirection redirection)
  | none => return (← readWord? nested).map .word

def Part.word? : Part → Option Word
  | .word w => some w
  | .redirection _ => none

def Part.redirection? : Part → Option Redirection
  | .word _ => none
  | .redirection r => some r

def splitAssignments : List Word → List (List Char × Word) × List Word
  | [] => ([], [])
  | word :: words =>
    match assignment? word with
    | some assignment =>
      let (assignments, rest) := splitAssignments words
      (assignment :: assignments, rest)
    | none => ([], word :: words)

def readSimple? (nested : Nested) : Reader (Option Statement) := do
  let line := (← get).line
  match ← readPart? nested with
  | none => return none
  | some first =>
    skipBlanks
    match first.word?.bind plainText? with
    | some name =>
      -- A name in front of two brackets: a function is defined.
      let isFunction ← if name.contains '=' then pure false else accept ['(']
      if isFunction then
        skipBlanks
        expectSign ')'
        if !isName name then refuse .badFunction
        skipLines
        match ← nested.statement with
        | some body => return some (.define name body)
        | none => refuseNext
    | none => pure ()
    let parts := first :: (← many (readPart? nested))
    let (assignments, words) := splitAssignments (parts.filterMap Part.word?)
    return some (.simple line assignments words (parts.filterMap Part.redirection?))

end GuidedExploration.Shell
