import GuidedExploration.Shell.Reader.Basic
import GuidedExploration.Text.Numeral

/-!
The characters and reserved words that divide a script, and what comes next in it.
-/

set_option autoImplicit false

namespace GuidedExploration.Shell

open Reader

def isBlankChar (c : Char) : Bool := c = ' ' || c = '\t'

def isOperator (c : Char) : Bool :=
  c = ';' || c = '&' || c = '|' || c = '<' || c = '>' || c = '(' || c = ')'

def endsWord (c : Char) : Bool := isBlankChar c || c = '\n' || isOperator c

def isName : List Char → Bool
  | [] => false
  | c :: s => isNameStart c && s.all isNameChar

def isSpecial (c : Char) : Bool :=
  Text.isDigit c || c = '@' || c = '*' || c = '#' || c = '?' || c = '$' || c = '!' || c = '-'

def skipBlanks : Reader Unit := do
  let _ ← many do
    match (← get).rest with
    | ' ' :: _ | '\t' :: _ => let _ ← take; return some ()
    | '\\' :: '\n' :: _ => takeMany 2; return some ()
    | _ => return none
  if (← peek) == some '#' then
    let _ ← takeWhile (· != '\n')

def skipLines : Reader Unit := do
  let _ ← many do
    skipBlanks
    if ← accept ['\n'] then return some () else return none

def reservedWords : List String :=
  ["if", "then", "elif", "else", "fi", "for", "while", "until", "do", "done", "case", "esac", "in",
   "\x7b", "\x7d", "!"]

def reserved? : Reader (Option String) := do
  let text := (← get).rest.takeWhile fun c => !(endsWord c)
  let word := String.ofList text
  return if reservedWords.contains word then some word else none

def nextToken : Reader String := do
  skipBlanks
  let rest := (← get).rest
  let signs := ["&&", "||", ";;", ";", "&", "|", "(", ")"]
  match ← reserved? with
  | some word => return s!"\"{word}\""
  | none =>
    match signs.find? fun sign => sign.toList.isPrefixOf rest with
    | some sign => return s!"\"{sign}\""
    | none =>
      match rest with
      | [] => return "end of file"
      | '\n' :: _ => return "newline"
      | '<' :: _ | '>' :: _ => return "redirection"
      | _ => return "word"

def refuseAt {α : Type} (flaw : String → Flaw) : Reader α := do
  let token ← nextToken
  if (← peek) == some '\n' then takeMany 1
  refuse (flaw token)

def refuseNext {α : Type} : Reader α := refuseAt .unexpected

def refuseInstead {α : Type} (expected : String) : Reader α :=
  refuseAt fun token => .instead token expected

def expectSign (sign : Char) : Reader Unit := do
  if !(← accept [sign]) then refuseInstead s!"\"{String.singleton sign}\""

def acceptReserved (word : String) : Reader Bool := do
  skipBlanks
  if (← reserved?) == some word then
    takeMany word.length
    return true
  else return false

def expectReserved (word : String) : Reader Unit := do
  if !(← acceptReserved word) then refuseInstead s!"\"{word}\""

end GuidedExploration.Shell
