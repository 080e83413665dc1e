import GuidedExploration.Text.Mark

/-!
The width of single characters in columns of a terminal, as of Unicode 15: East Asian wide
characters take two columns; combining marks, the vowels and final consonants of composed Hangul,
and characters that are never seen, such as the zero-width space, take none; every other character
takes one.
-/

set_option autoImplicit false

namespace GuidedExploration.Text

/-- Closed ranges of the wide and full-width characters (the Unicode property East_Asian_Width), and
of one Khmer vowel that is written as wide as two, ascending and apart. -/
def wideRanges : List (Nat × Nat) :=
  [(0x1100, 0x115F), (0x17A4, 0x17A4), (0x231A, 0x231B), (0x2329, 0x232A), (0x23E9, 0x23EC),
   (0x23F0, 0x23F0), (0x23F3, 0x23F3), (0x25FD, 0x25FE), (0x2614, 0x2615), (0x2648, 0x2653),
   (0x267F, 0x267F), (0x2693, 0x2693), (0x26A1, 0x26A1), (0x26AA, 0x26AB), (0x26BD, 0x26BE),
   (0x26C4, 0x26C5), (0x26CE, 0x26CE), (0x26D4, 0x26D4), (0x26EA, 0x26EA), (0x26F2, 0x26F3),
   (0x26F5, 0x26F5), (0x26FA, 0x26FA), (0x26FD, 0x26FD), (0x2705, 0x2705), (0x270A, 0x270B),
   (0x2728, 0x2728), (0x274C, 0x274C), (0x274E, 0x274E), (0x2753, 0x2755), (0x2757, 0x2757),
   (0x2795, 0x2797), (0x27B0, 0x27B0), (0x27BF, 0x27BF), (0x2B1B, 0x2B1C), (0x2B50, 0x2B50),
   (0x2B55, 0x2B55), (0x2E80, 0x2E99), (0x2E9B, 0x2EF3), (0x2F00, 0x2FD5), (0x2FF0, 0x303E),
   (0x3041, 0x3096), (0x3099, 0x30FF), (0x3105, 0x312F), (0x3131, 0x318E), (0x3190, 0x31E3),
   (0x31EF, 0x321E), (0x3220, 0x3247), (0x3250, 0x4DBF), (0x4E00, 0xA48C), (0xA490, 0xA4C6),
   (0xA960, 0xA97C), (0xAC00, 0xD7A3), (0xF900, 0xFAFF), (0xFE10, 0xFE19), (0xFE30, 0xFE52),
   (0xFE54, 0xFE66), (0xFE68, 0xFE6B), (0xFF01, 0xFF60), (0xFFE0, 0xFFE6), (0x16FE0, 0x16FE4),
   (0x16FF0, 0x16FF1), (0x17000, 0x187F7), (0x18800, 0x18CD5), (0x18D00, 0x18D08),
   (0x1AFF0, 0x1AFF3), (0x1AFF5, 0x1AFFB), (0x1AFFD, 0x1AFFE), (0x1B000, 0x1B122),
   (0x1B132, 0x1B132), (0x1B150, 0x1B152), (0x1B155, 0x1B155), (0x1B164, 0x1B167),
   (0x1B170, 0x1B2FB), (0x1F004, 0x1F004), (0x1F0CF, 0x1F0CF), (0x1F18E, 0x1F18E),
   (0x1F191, 0x1F19A), (0x1F200, 0x1F202), (0x1F210, 0x1F23B), (0x1F240, 0x1F248),
   (0x1F250, 0x1F251), (0x1F260, 0x1F265), (0x1F300, 0x1F320), (0x1F32D, 0x1F335),
   (0x1F337, 0x1F37C), (0x1F37E, 0x1F393), (0x1F3A0, 0x1F3CA), (0x1F3CF, 0x1F3D3),
   (0x1F3E0, 0x1F3F0), (0x1F3F4, 0x1F3F4), (0x1F3F8, 0x1F43E), (0x1F440, 0x1F440),
   (0x1F442, 0x1F4FC), (0x1F4FF, 0x1F53D), (0x1F54B, 0x1F54E), (0x1F550, 0x1F567),
   (0x1F57A, 0x1F57A), (0x1F595, 0x1F596), (0x1F5A4, 0x1F5A4), (0x1F5FB, 0x1F64F),
   (0x1F680, 0x1F6C5), (0x1F6CC, 0x1F6CC), (0x1F6D0, 0x1F6D2), (0x1F6D5, 0x1F6D7),
   (0x1F6DC, 0x1F6DF), (0x1F6EB, 0x1F6EC), (0x1F6F4, 0x1F6FC), (0x1F7E0, 0x1F7EB),
   (0x1F7F0, 0x1F7F0), (0x1F90C, 0x1F93A), (0x1F93C, 0x1F945), (0x1F947, 0x1F9FF),
   (0x1FA70, 0x1FA7C), (0x1FA80, 0x1FA88), (0x1FA90, 0x1FABD), (0x1FABF, 0x1FAC5),
   (0x1FACE, 0x1FADB), (0x1FAE0, 0x1FAE8), (0x1FAF0, 0x1FAF8), (0x20000, 0x2FFFD),
   (0x30000, 0x3FFFD)]

def isWide (c : Char) : Bool := inRanges wideRanges c.toNat

/-- Closed ranges of the characters other than marks that take no column: format characters,
fillers, signs written above or below what follows them, vowel signs made of two marks, and parts of
composed Hangul. -/
def thinRanges : List (Nat × Nat) :=
  [(0x00AD, 0x00AD), (0x0605, 0x0605), (0x061C, 0x061C), (0x070F, 0x070F), (0x0890, 0x0891),
   (0x08E2, 0x08E2), (0x0CC0, 0x0CC0), (0x0CC7, 0x0CC8), (0x0CCA, 0x0CCB), (0x0D4E, 0x0D4E),
   (0x1160, 0x11FF), (0x180E, 0x180E), (0x1B3B, 0x1B3B), (0x1B3D, 0x1B3D), (0x1B43, 0x1B43),
   (0x200B, 0x200B), (0x200D, 0x200F), (0x202A, 0x202E), (0x2060, 0x206F), (0x3164, 0x3164),
   (0xA8FA, 0xA8FA), (0xD7B0, 0xD7C6), (0xD7CB, 0xD7FB), (0xFEFF, 0xFEFF), (0xFFA0, 0xFFA0),
   (0xFFF0, 0xFFF8), (0x111C2, 0x111C3), (0x1193F, 0x1193F), (0x11941, 0x11941), (0x11A3A, 0x11A3A),
   (0x11A84, 0x11A89), (0x11D46, 0x11D46), (0x11F02, 0x11F02), (0x1BCA0, 0x1BCA3),
   (0x1D173, 0x1D17A), (0xE0000, 0xE001F), (0xE0080, 0xE00FF), (0xE01F0, 0xE0FFF)]

def consonantJoiner : Char := '\u2d7f'

def isThin (c : Char) : Bool :=
  (isMark c && c != consonantJoiner) || inRanges thinRanges c.toNat

def beyyal : Char := '\u17d8'

def isControl (c : Char) : Bool :=
  c.toNat < 0x20 || (decide (0x7F ≤ c.toNat) && decide (c.toNat < 0xA0))

/-- The columns of a character that stands alone; control characters count as one. -/
def columns (c : Char) : Nat :=
  if c.toNat < 0xAD then 1
  else if isThin c then 0
  else if c = beyyal then 3
  else if isWide c then 2
  else 1

end GuidedExploration.Text
