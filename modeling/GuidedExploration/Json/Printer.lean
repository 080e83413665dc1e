import GuidedExploration.Json.Basic
import GuidedExploration.Text.Cut
import GuidedExploration.Text.Numeral

/-!
Writing JSON text, on one line without blanks or on several lines, indented by two blanks for each
level.
-/

set_option autoImplicit false

namespace GuidedExploration.Json

/-- Quotes, backslashes and control characters are escaped; all else stands for itself. -/
def escape (c : Char) : List Char :=
  if c = '"' then ['\\', '"']
  else if c = '\\' then ['\\', '\\']
  else if c = '\n' then ['\\', 'n']
  else if c = '\r' then ['\\', 'r']
  else if c = '\t' then ['\\', 't']
  else if c.toNat = 8 then ['\\', 'b']
  else if c.toNat = 12 then ['\\', 'f']
  else if c.toNat < 32 then
    ['\\', 'u', '0', '0', Text.hexDigit (c.toNat / 16), Text.hexDigit (c.toNat % 16)]
  else [c]

/-- A string literal; one that spells no text is written as half of a surrogate pair. -/
def literal : Option String → List Char
  | some s => '"' :: (s.toList.flatMap escape ++ ['"'])
  | none => ['"', '\\', 'u', 'd', '8', '0', '0', '"']

def fractionChars (fraction : List (Fin 10)) : List Char :=
  if fraction.isEmpty then [] else '.' :: fraction.map fun d => Text.digitChar d.val

def exponentChars : Option Int → List Char
  | none => []
  | some (.ofNat n) => 'e' :: '+' :: Text.digits n
  | some (.negSucc n) => 'e' :: '-' :: Text.digits (n + 1)

def numberChars (n : Number) : List Char :=
  (if n.negative then ['-'] else []) ++ Text.digits n.whole ++ fractionChars n.fraction ++
    exponentChars n.exponent

/-- How the parts of arrays and objects are set apart: what stands before each part at a nesting
level, before the closing bracket, and after a colon. -/
structure Style where
  before : Nat → List Char
  afterColon : List Char

def compactStyle : Style := ⟨fun _ => [], []⟩

def prettyStyle : Style := ⟨fun level => '\n' :: List.replicate (2 * level) ' ', [' ']⟩

mutual

def render (style : Style) (level : Nat) : Json → List Char
  | null => ['n', 'u', 'l', 'l']
  | bool true => ['t', 'r', 'u', 'e']
  | bool false => ['f', 'a', 'l', 's', 'e']
  | number n => numberChars n
  | string text => literal text
  | array items =>
    if items.isEmpty then ['[', ']']
    else '[' :: (renderItems style (level + 1) items ++ style.before level ++ [']'])
  | object members =>
    if members.isEmpty then ['{', '}']
    else '{' :: (renderMembers style (level + 1) members ++ style.before level ++ ['}'])

def renderItems (style : Style) (level : Nat) : List Json → List Char
  | [] => []
  | [item] => style.before level ++ render style level item
  | item :: items =>
    style.before level ++ render style level item ++ ',' :: renderItems style level items

def renderMembers (style : Style) (level : Nat) : List (Option String × Json) → List Char
  | [] => []
  | [(name, value)] =>
    style.before level ++ literal name ++ ':' :: (style.afterColon ++ render style level value)
  | (name, value) :: members =>
    style.before level ++ literal name ++
      ':' :: (style.afterColon ++ render style level value ++
        ',' :: renderMembers style level members)

end

def compact (value : Json) : String := String.ofList (value.render compactStyle 0)

/-- The text on several lines, without a final line end. -/
def pretty (value : Json) : String := String.ofList (value.render prettyStyle 0)

end GuidedExploration.Json
