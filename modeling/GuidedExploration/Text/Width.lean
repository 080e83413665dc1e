import GuidedExploration.Text.Width.Ligature

/-!
The width of text in columns of a terminal. It is the sum over the characters, except where several
of them make one sign: pictures with skin tones or made of other pictures, flags, keys, and letters
that are joined. A line feed and the return before it count as one.

Text is measured from its end, so that a character is looked at when it is known what follows it.
-/

set_option autoImplicit false

namespace GuidedExploration.Text

inductive Following where
  | other
  | lineFeed
  | skinTone
  | flagLetter
  | flagLetters
  | emoji
  | joined
  | joinedKey
  | joinedFlagLetter
  | joinedFlagPair
  | joinedFlagOdd
  /-- So many letters at the end of the tags of a flag, then a joiner and a picture. -/
  | tagLetters (count : Nat)
  /-- So many digits among them. -/
  | tagDigits (count : Nat)
  /-- The end of a ligature, with a joiner before it or without. -/
  | ligature (kind : Ligature) (hasJoiner : Bool)
  deriving DecidableEq, Repr

inductive Style where
  | unasked
  | text
  | emoji
  deriving DecidableEq, Repr

structure Sequel where
  following : Following := .other
  style : Style := .unasked
  deriving DecidableEq, Repr

namespace Following

def isLigature : Following → Bool
  | ligature _ _ => true
  | _ => false

def isJoined : Following → Bool
  | joined | joinedKey => true
  | _ => false

def ofAlone (c : Char) : Following :=
  if isFlagLetter c then flagLetter
  else if isSkinTone c then skinTone
  else if isEmoji c then emoji
  else
    match Ligature.ofLetter? c with
    | some kind => ligature kind false
    | none => other

/-- What becomes of tags by one more before them: a flag has three to six letters, or up to two
letters and three digits. -/
def beforeTags? (c : Char) (letters digits : Nat) : Option (Int × Following) :=
  if digits = 0 && letters < 6 && isTagLetter c then some (0, tagLetters (letters + 1))
  else if digits = 0 && letters ≤ 4 && isTagDigit c then some (0, tagDigits 1)
  else if 0 < digits && digits < 3 && isTagDigit c then some (0, tagDigits (digits + 1))
  else if (digits = 3 || (digits = 0 && 3 ≤ letters)) && c = blackFlag then some (0, emoji)
  else none

def join? (c : Char) : Following → Option (Int × Following)
  | other | lineFeed | joinedKey => none
  | skinTone =>
    if takesSkinTone c then some (0, emoji)
    else if c = joiner then some (0, joined)
    else none
  | flagLetter => if isFlagLetter c then some (1, flagLetters) else none
  | flagLetters =>
    if isFlagLetter c then some (1, flagLetters)
    else if c = joiner then some (0, joined)
    else none
  | emoji => if c = joiner then some (0, joined) else none
  | joined =>
    if c = keyFrame then some (0, joinedKey)
    else if isFlagLetter c then some (1, joinedFlagLetter)
    else if isSkinTone c then some (0, skinTone)
    else if c = lastTag then some (0, tagLetters 0)
    else if isEmoji c then some (0, emoji)
    else none
  | joinedFlagLetter => if isFlagLetter c then some (-1, joinedFlagPair) else none
  | joinedFlagPair =>
    if isFlagLetter c then some (3, joinedFlagOdd)
    else if c = joiner then some (0, joined)
    else none
  | joinedFlagOdd =>
    if isFlagLetter c then some (-1, joinedFlagPair)
    else if c = joiner then some (0, joined)
    else none
  | tagLetters count => beforeTags? c count 0
  | tagDigits count => beforeTags? c 0 count
  | ligature kind hasJoiner =>
    if c = joiner then some (0, ligature kind true)
    else if Ligature.isIgnored c then some (0, ligature kind hasJoiner)
    else
      (Ligature.before? c hasJoiner kind).map fun (width, next) =>
        (width, (next.map fun kind => ligature kind false).getD other)

end Following

namespace Sequel

/-- Forgets a wish for a picture that the character before it cannot fulfil. -/
def unasked (q : Sequel) : Sequel :=
  { following := if q.following.isLigature then q.following else .other }

def askEmoji (q : Sequel) : Sequel :=
  if q.following.isLigature || q.following.isJoined then { q with style := .emoji }
  else { style := .emoji }

def askText (q : Sequel) : Sequel := { q.unasked with style := .text }

def plainStep (c : Char) (q : Sequel) : Int × Sequel :=
  if c.toNat ≤ 0xA0 then
    if c = '\n' then (1, { following := .lineFeed })
    else if c = '\r' && q.following = .lineFeed then (0, {})
    else (1, {})
  else if c = emojiSelector then (0, q.askEmoji)
  else if c = textSelector then (0, q.askText)
  else if q.style = .text && takesTextStyle c then (1, {})
  else
    match q.following.join? c with
    | some (width, following) => (width, { following })
    | none => (columns c, { following := .ofAlone c })

def step (c : Char) (q : Sequel) : Int × Sequel :=
  if q.style = .emoji then
    if takesEmojiStyle c then
      (if q.following.isJoined then 0 else 2, { following := .emoji })
    else plainStep c q.unasked
  else plainStep c q

end Sequel

def measure (s : List Char) : Int × Sequel :=
  s.foldr
    (fun c (width, q) =>
      let (more, q) := q.step c
      (width + more, q))
    (0, {})

def width (s : List Char) : Nat := (measure s).1.toNat

end GuidedExploration.Text
