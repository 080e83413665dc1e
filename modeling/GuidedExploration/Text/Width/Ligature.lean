import GuidedExploration.Text.Width.Character
import GuidedExploration.Text.Width.Emoji

/-!
Letters that are written as one sign with letters before them, and take the room of one, script by
script.
-/

set_option autoImplicit false

namespace GuidedExploration.Text

/-- How a letter, or a letter and what was already joined to it, may be joined to what stands before
it. -/
inductive Ligature where
  | alef
  | lamed
  /-- Buginese Ya, behind the vowel I and a joiner. -/
  | ya
  /-- That vowel, behind the letter A. -/
  | vowelBeforeYa
  | consonant
  /-- Such a consonant with the joiner of that script. -/
  | joinedConsonant
  | tone
  /-- Old Turkic I, behind a letter and a joiner. -/
  | orkhonVowel
  /-- A Khmer letter that may be written below another one, behind the sign for that. -/
  | subscript
  deriving DecidableEq, Repr

namespace Ligature

def isAlef (c : Char) : Bool :=
  inRanges [(0x0622, 0x0623), (0x0625, 0x0625), (0x0627, 0x0627), (0x0671, 0x0673),
    (0x0675, 0x0675), (0x0773, 0x0774), (0x0870, 0x0882)] c.toNat

def isLam (c : Char) : Bool :=
  inRanges [(0x0644, 0x0644), (0x06B5, 0x06B8), (0x076A, 0x076A), (0x08A6, 0x08A6),
    (0x08C7, 0x08C7)] c.toNat

def isTifinaghConsonant (c : Char) : Bool := inRanges [(0x2D31, 0x2D65), (0x2D6F, 0x2D6F)] c.toNat

def isFirstTone (c : Char) : Bool := inRanges [(0xA4F8, 0xA4FB)] c.toNat

def isSecondTone (c : Char) : Bool := inRanges [(0xA4FC, 0xA4FD)] c.toNat

def isSubscriptLetter (c : Char) : Bool :=
  inRanges [(0x1780, 0x1782), (0x1784, 0x1787), (0x1789, 0x178C), (0x178E, 0x1793),
    (0x1795, 0x1798), (0x179B, 0x179D), (0x17A0, 0x17A0), (0x17A2, 0x17A2), (0x17A7, 0x17A7),
    (0x17AB, 0x17AC), (0x17AF, 0x17AF)] c.toNat

def ofLetter? (c : Char) : Option Ligature :=
  if isAlef c then some alef
  else if c = '\u05dc' then some lamed
  else if c = '\u1a10' then some ya
  else if isTifinaghConsonant c then some consonant
  else if isSecondTone c then some tone
  else if c.toNat = 0x10C03 then some orkhonVowel
  else if isSubscriptLetter c then some subscript
  else none

/-- Marks that are never seen, and so do not keep letters apart. -/
def isIgnored (c : Char) : Bool :=
  inRanges [(0x034F, 0x034F), (0x17B4, 0x17B5), (0x180B, 0x180D), (0x180F, 0x180F),
    (0xFE00, 0xFE0F), (0xE0100, 0xE01EF)] c.toNat

/-- Closed ranges of the characters without width that keep Arabic letters apart (the Unicode
property Joining_Type is not Transparent), ascending and apart. -/
def opaqueRanges : List (Nat × Nat) :=
  [(0x0605, 0x0605), (0x0890, 0x0891), (0x08E2, 0x08E2), (0x09BE, 0x09BE), (0x09D7, 0x09D7),
   (0x0B3E, 0x0B3E), (0x0B57, 0x0B57), (0x0BBE, 0x0BBE), (0x0BD7, 0x0BD7), (0x0CC0, 0x0CC0),
   (0x0CC2, 0x0CC2), (0x0CC7, 0x0CC8), (0x0CCA, 0x0CCB), (0x0CD5, 0x0CD6), (0x0D3E, 0x0D3E),
   (0x0D4E, 0x0D4E), (0x0D57, 0x0D57), (0x0DCF, 0x0DCF), (0x0DDF, 0x0DDF), (0x1160, 0x11FF),
   (0x180E, 0x180E), (0x1B35, 0x1B35), (0x1B3B, 0x1B3B), (0x1B3D, 0x1B3D), (0x1B43, 0x1B43),
   (0x200C, 0x200D), (0x2065, 0x2069), (0x302E, 0x302F), (0x3164, 0x3164), (0xA8FA, 0xA8FA),
   (0xD7B0, 0xD7C6), (0xD7CB, 0xD7FB), (0xFF9E, 0xFFA0), (0xFFF0, 0xFFF8), (0x111C2, 0x111C3),
   (0x1133E, 0x1133E), (0x11357, 0x11357), (0x114B0, 0x114B0), (0x114BD, 0x114BD),
   (0x115AF, 0x115AF), (0x11930, 0x11930), (0x1193F, 0x1193F), (0x11941, 0x11941),
   (0x11A3A, 0x11A3A), (0x11A84, 0x11A89), (0x11D46, 0x11D46), (0x11F02, 0x11F02),
   (0x1D165, 0x1D165), (0x1D16E, 0x1D172), (0xE0000, 0xE0000), (0xE0002, 0xE001F),
   (0xE0080, 0xE00FF), (0xE01F0, 0xE0FFF)]

def isTransparent (c : Char) : Bool := isThin c && !inRanges opaqueRanges c.toNat

/-- What becomes of a ligature by the character before it: the columns to be added, and the ligature
that may go on. `hasJoiner` says whether there is a joiner in between. -/
def before? (c : Char) (hasJoiner : Bool) : Ligature → Option (Int × Option Ligature)
  | alef =>
    if hasJoiner then none
    else if isLam c then some (0, none)
    else if isTransparent c then some (0, some alef)
    else none
  | lamed => if hasJoiner && c = '\u05d0' then some (0, none) else none
  | ya => if hasJoiner && c = '\u1a17' then some (0, some vowelBeforeYa) else none
  | vowelBeforeYa => if c = '\u1a15' then some (0, none) else none
  | consonant =>
    if c = consonantJoiner then some (1, some joinedConsonant)
    else if hasJoiner && isTifinaghConsonant c then some (0, none)
    else none
  | joinedConsonant => if isTifinaghConsonant c then some (-1, none) else none
  | tone => if isFirstTone c then some (0, none) else none
  | orkhonVowel => if hasJoiner && c.toNat = 0x10C32 then some (0, none) else none
  | subscript => if c = '\u17d2' then some (-1, none) else none

end Ligature

end GuidedExploration.Text
