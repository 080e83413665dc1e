import GuidedExploration.Shell.Reader.Token

/-!
Words are sequences of pieces: plain text, quotes, parameters, captured commands, expressions.
Readers of nested parts are handed in, so that nesting is bounded in one place.
-/

set_option autoImplicit false

namespace GuidedExploration.Shell

open Reader

structure Nested where
  items : Reader (List Item)
  pieces : (Char → Bool) → Reader Word
  statement : Reader (Option Statement)

def within {α : Type} (reader : Reader α) (text : List Char) : Reader α := do
  match reader.run { rest := text, line := (← get).line } with
  | .ok (a, _) => return a
  | .error mistake => throw mistake

def readChange (nested : Nested) : Reader Change := do
  let word := nested.pieces (· = '\x7d')
  let orElse (colon : Bool) : Reader Change := do
    let kind ← take
    if kind = '-' || kind = '=' || kind = '+' || kind = '?' then return .orElse kind colon (← word)
    else refuse .badSubstitution
  match (← get).rest with
  | '\x7d' :: _ => return .none
  | '#' :: '#' :: _ => takeMany 2; return .strip false true (← word)
  | '#' :: _ => takeMany 1; return .strip false false (← word)
  | '%' :: '%' :: _ => takeMany 2; return .strip true true (← word)
  | '%' :: _ => takeMany 1; return .strip true false (← word)
  | ':' :: _ => takeMany 1; orElse true
  | _ => orElse false

def readName? : Reader (Option (List Char)) := do
  match ← peek with
  | some c =>
    if isNameStart c then return some (← takeWhile isNameChar)
    else if isSpecial c then return some [← take]
    else return none
  | none => return none

def readBraced (nested : Nested) : Reader Piece := do
  let line := (← get).line
  let close : Reader Unit := do
    if (← get).rest.isEmpty then throw { flaw := .missing "\x7d", line }
    expect ['\x7d'] .badSubstitution
  match (← get).rest with
  | '#' :: c :: _ =>
    let counts := c != '\x7d'
    let _ ← take
    if counts then
      match ← readName? with
      | none => refuse .badSubstitution
      | some name =>
        close
        return .parameter name .length
    else
      close
      return .parameter ['#'] .none
  | _ =>
    let digits ← takeWhile Text.isDigit
    match ← (if digits.isEmpty then readName? else pure (some digits)) with
    | none => refuse .badSubstitution
    | some name =>
      let change ← readChange nested
      close
      return .parameter name change

/-- Takes an arithmetic expression with the two brackets behind it; `depth` brackets are open. -/
def takeExpression : Nat → Nat → Reader (List Char)
  | 0, _ => refuse .unterminated
  | fuel + 1, depth => do
    match depth, (← get).rest with
    | _, [] => refuse (.missing "))")
    | 0, ')' :: ')' :: _ => takeMany 2; return []
    | _, '(' :: _ => takeMany 1; return '(' :: (← takeExpression fuel (depth + 1))
    | depth + 1, ')' :: _ => takeMany 1; return ')' :: (← takeExpression fuel depth)
    | _, _ => return (← take) :: (← takeExpression fuel depth)

/-- Commands between backquotes. A backslash there protects itself, a dollar sign or a backquote. -/
def readBackquoted (nested : Nested) : Reader Piece := do
  let inner ← many do
    match (← get).rest with
    | [] | '`' :: _ => return none
    | '\\' :: c :: _ =>
      takeMany 2
      return some (if c = '`' || c = '\\' || c = '$' then [c] else ['\\', c])
    | _ => return some [← take]
  expect ['`'] .unterminatedCommands
  return .captured (← within nested.items inner.flatten)

mutual

/-- What stands behind a dollar sign; the sign itself, if that is nothing special. -/
def readDollar (nested : Nested) : Nat → Reader Piece
  | 0 => refuse .badSubstitution
  | fuel + 1 => do
    match (← get).rest with
    | '(' :: '(' :: _ =>
      takeMany 2
      let text ← takeExpression ((← get).rest.length + 1) 0
      return .arithmetic (← within (many (readQuoted nested (fun _ => false) fuel)) text)
    | '(' :: _ =>
      takeMany 1
      let body ← nested.items
      skipLines
      expectSign ')'
      return .captured body
    | '\x7b' :: _ => takeMany 1; readBraced nested
    | _ =>
      match ← readName? with
      | some name => return .parameter name .none
      | none => return .plain ['$']

/-- One piece in double quotes, or in any text that is treated like one, up to a character that
satisfies the test. -/
def readQuoted (nested : Nested) (ends : Char → Bool) : Nat → Reader (Option Piece)
  | 0 => refuse .badSubstitution
  | fuel + 1 => do
    match (← get).rest with
    | [] => return none
    | '$' :: _ => takeMany 1; return some (← readDollar nested fuel)
    | '`' :: _ => takeMany 1; return some (← readBackquoted nested)
    | '\\' :: '\n' :: _ => takeMany 2; return some (.plain [])
    | '\\' :: c :: _ =>
      takeMany 2
      return some (.plain (if ends c || c = '\\' || c = '$' || c = '`' then [c] else ['\\', c]))
    | c :: _ =>
      if ends c then return none
      let text ← takeWhile fun c => !(ends c || c = '$' || c = '`' || c = '\\')
      if text.isEmpty then return some (.plain [← take]) else return some (.plain text)

end

def wordDepth : Nat := 64

def readPiece (nested : Nested) (ends : Char → Bool) : Reader (Option Piece) := do
  match (← get).rest with
  | [] => return none
  | '\\' :: '\n' :: _ => takeMany 2; return some (.plain [])
  | '\\' :: c :: _ => takeMany 2; return some (.literal [c])
  | c :: _ =>
    if ends c then return none
    else if c = '\'' then
      takeMany 1
      let text ← takeWhile (· != '\'')
      expect ['\''] .unterminated
      return some (.literal text)
    else if c = '"' then
      takeMany 1
      let inner ← many (readQuoted nested (· = '"') wordDepth)
      expect ['"'] .unterminated
      return some (.inQuotes inner)
    else if c = '$' then
      takeMany 1
      return some (← readDollar nested wordDepth)
    else if c = '`' then
      takeMany 1
      return some (← readBackquoted nested)
    else
      let text ← takeWhile fun c =>
        !(ends c || c = '\'' || c = '"' || c = '$' || c = '`' || c = '\\')
      if text.isEmpty then return some (.plain [← take]) else return some (.plain text)

def readWord? (nested : Nested) : Reader (Option Word) := do
  let pieces ← many (readPiece nested endsWord)
  return if pieces.isEmpty then none else some pieces

def readWord (nested : Nested) : Reader Word := do
  match ← readWord? nested with
  | some word => return word
  | none => refuseNext

def plainText? : Word → Option (List Char)
  | [] => some []
  | .plain text :: rest => (plainText? rest).map (text ++ ·)
  | _ => none

def bareText : Word → List Char
  | [] => []
  | .plain text :: rest | .literal text :: rest => text ++ bareText rest
  | .inQuotes inner :: rest =>
    (inner.flatMap fun
      | .plain text => text
      | _ => []) ++ bareText rest
  | _ :: rest => bareText rest

end GuidedExploration.Shell
