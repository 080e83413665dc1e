import GuidedExploration.Text.Numeral
import GuidedExploration.Text.Visible

/-!
Quoted text for messages: what cannot be seen is written by its code point in hexadecimal.
-/

set_option autoImplicit false

namespace GuidedExploration.Text

def hexOnto : Nat → Nat → List Char → List Char
  | 0, _, tail => tail
  | fuel + 1, n, tail =>
    if n < 16 then hexDigit n :: tail else hexOnto fuel (n / 16) (hexDigit (n % 16) :: tail)

def quoteChar (c : Char) : List Char :=
  if c = '"' then ['\\', '"']
  else if c = '\\' then ['\\', '\\']
  else if c = '\n' then ['\\', 'n']
  else if c = '\r' then ['\\', 'r']
  else if c = '\t' then ['\\', 't']
  else if c.toNat = 0 then ['\\', '0']
  else if isVisible c then [c]
  else ['\\', 'u', '\x7b'] ++ hexOnto 8 c.toNat ['\x7d']

def quoted (s : List Char) : List Char := '"' :: (s.flatMap quoteChar ++ ['"'])

end GuidedExploration.Text
