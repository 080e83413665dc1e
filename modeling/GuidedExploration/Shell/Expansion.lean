import GuidedExploration.Shell.Arithmetic
import GuidedExploration.Shell.Process
import GuidedExploration.Text.Glob
import GuidedExploration.Text.Utf8

/-!
What words stand for: parameters and commands give way to their values, unquoted values are split
at separators, and patterns to the names that they fit.
-/

set_option autoImplicit false

namespace GuidedExploration.Shell

/-- A letter, and whether quotes make it stand for itself. -/
abbrev Letters := List (Char × Bool)

def marked (quoted : Bool) (text : List Char) : Letters := text.map fun c => (c, quoted)

def unmarked (letters : Letters) : List Char := letters.map Prod.fst

inductive Fragment where
  | letters (letters : Letters)
  | value (text : List Char)
  | presence
  /-- The end of one quoted argument and the start of the next. -/
  | border
  /-- A place where a word ends, if one has begun. -/
  | gap

def separators : Run (List Char) := do
  return ((← valueOf? "IFS").map String.toList).getD [' ', '\t', '\n']

/-- The words found so far, the last one first, and the one that has begun. -/
structure Fields where
  done : List Letters := []
  current : Option Letters := none

namespace Fields

def extend (f : Fields) (letters : Letters) : Fields :=
  { f with current := some (f.current.getD [] ++ letters) }

def close (f : Fields) : Fields :=
  match f.current with
  | none => f
  | some letters => { done := letters :: f.done }

def add (apart : List Char) (f : Fields) : Fragment → Fields
  | .letters letters => if letters.isEmpty then f else f.extend letters
  | .value text =>
    text.foldl (fun f c => if apart.contains c then f.close else f.extend [(c, false)]) f
  | .presence => f.extend []
  | .border => { (f.extend []).close with current := some [] }
  | .gap => f.close

def ofFragments (apart : List Char) (fragments : List Fragment) : List Letters :=
  ((fragments.foldl (add apart) {}).close).done.reverse

end Fields

def joined (fragments : List Fragment) : Letters :=
  fragments.flatMap fun
    | .letters letters => letters
    | .value text => marked false text
    | .presence => []
    | .border | .gap => [(' ', false)]

def parameter? (name : List Char) : Run (Option (List Char)) := do
  let c := (← get).context
  match name with
  | ['#'] => return some (Text.digits c.positional.length)
  | ['?'] => return some (Text.digits (← get).status)
  | ['$'] => return some (Text.digits c.number)
  | ['!'] => return c.lastChild.map Text.digits
  | ['-'] =>
    let shown (on : Bool) (letter : Char) : List Char := if on then [letter] else []
    return some (shown c.exitOnError 'e' ++ shown c.demandSet 'u' ++ shown c.tracing 'x')
  | ['0'] => return some c.name.toList
  | ['@'] =>
    if c.positional.isEmpty then return none
    else return some (Text.joinWith [' '] (c.positional.map String.toList))
  | ['*'] =>
    if c.positional.isEmpty then return none
    else return some (Text.joinWith ((← separators).take 1) (c.positional.map String.toList))
  | _ =>
    match Text.natural? name with
    | some place => return (c.positional[place - 1]?).map String.toList
    | none => return (← valueOf? (String.ofList name)).map String.toList

def fittingStart (longest : Bool) (g : Glob) (text : List Char) : Option Nat :=
  let lengths := List.range (text.length + 1)
  (if longest then lengths.reverse else lengths).find? fun n => g.accepts (text.take n)

def strip (atEnd longest : Bool) (g : Glob) (text : List Char) : List Char :=
  if atEnd then
    let lengths := List.range (text.length + 1)
    match (if longest then lengths else lengths.reverse).find? fun n => g.accepts (text.drop n) with
    | some n => text.take n
    | none => text
  else
    match fittingStart longest g text with
    | some n => text.drop n
    | none => text

def withoutLastLines (text : List Char) : List Char :=
  (text.reverse.dropWhile (· = '\n')).reverse

def isAllArguments : Piece → Bool
  | .parameter ['@'] .none => true
  | _ => false

def argumentFragments (quoted : Bool) (arguments : List String) : List Fragment :=
  let item (argument : String) : Fragment :=
    if quoted then .letters (marked true argument.toList) else .value argument.toList
  ((arguments.map fun argument => [item argument]).intersperse
    [if quoted then .border else .gap]).flatten

/-- What pieces stand for; `capture` runs commands, and `fuel` bounds how deep words are nested. -/
def expand (capture : List Item → Run (List UInt8)) : Nat → Bool → Word → Run (List Fragment)
  | 0, _, _ => giveUp "words are nested too deep"
  | fuel + 1, quoted, word => do
    let valued (text : List Char) : List Fragment :=
      [if quoted then .letters (marked true text) else .value text]
    let inner (word : Word) : Run (List Fragment) := expand capture fuel quoted word
    let pieces ← word.mapM fun piece => do
      match piece with
      | .plain text => return [Fragment.letters (marked quoted text)]
      | .literal text => return [.presence, .letters (marked true text)]
      | .inQuotes pieces =>
        let found ← expand capture fuel true pieces
        if pieces.all isAllArguments && (← get).context.positional.isEmpty && !pieces.isEmpty then
          return found
        else return .presence :: found
      | .captured body =>
        let bytes ← capture body
        return valued (withoutLastLines ((Text.Utf8.decodeLossy bytes).filter (·.toNat != 0)))
      | .arithmetic expression =>
        let text := unmarked (joined (← expand capture fuel true expression))
        match Arithmetic.evaluate (← get).context.bindings text with
        | .ok (n, bindings) =>
          changeContext fun c => { c with bindings }
          return valued (Text.integer n)
        | .error problem => giveUp (problem.message (String.ofList text))
      | .parameter name change =>
        let value ← parameter? name
        match change with
        | .none =>
          if name = ['@'] || (name = ['*'] && !quoted) then
            return argumentFragments quoted (← get).context.positional
          else
            match value with
            | some text => return valued text
            | none =>
              if (← get).context.demandSet && name != ['*'] then
                giveUp (String.ofList name ++ ": parameter not set")
              else return valued []
        | .length => return valued (Text.digits (bytesOf (value.getD [])).length)
        | .strip atEnd longest pattern =>
          let g := Glob.ofLetters (joined (← expand capture fuel false pattern))
          return valued (strip atEnd longest g (value.getD []))
        | .orElse kind colon word =>
          let absent := value.isNone || (colon && (value.getD []).isEmpty)
          if kind = '+' then return ← if absent then pure [] else inner word
          else if !absent then
            if name = ['@'] then return argumentFragments quoted (← get).context.positional
            else return valued (value.getD [])
          else if kind = '-' then inner word
          else if kind = '=' then
            let text := unmarked (joined (← inner word))
            setVariable (String.ofList name) (String.ofList text)
            return valued text
          else
            let text := String.ofList (unmarked (joined (← inner word)))
            let reason := if text.isEmpty then "parameter not set" else text
            giveUp (String.ofList name ++ ": " ++ reason)
    return pieces.flatten

/-- Names in a directory that fit a pattern. A dot at the start has to be written. -/
def fittingNames (fs : FileSystem) (directory : Path) (pattern : Letters) : List String :=
  let g := Glob.ofLetters pattern
  let names := (fs.list (if directory.isEmpty then .here else directory)).toOption.getD []
  names.filter fun name =>
    g.accepts name.toList && (pattern.head?.map Prod.fst == some '.' || !name.startsWith ".")

def lettersBetween : Letters → List Letters
  | [] => [[]]
  | (c, quoted) :: rest =>
    if c = '/' then [] :: lettersBetween rest
    else
      match lettersBetween rest with
      | [] => [[(c, quoted)]]
      | part :: parts => ((c, quoted) :: part) :: parts

def fittingPaths (fs : FileSystem) : Path → List Letters → List Path
  | found, [] => [found]
  | found, part :: parts =>
    let next (name : String) : Path :=
      if found.isEmpty then ⟨name⟩
      else ⟨found.text ++ (if found.endsInSlash then "" else "/") ++ name⟩
    if part.isEmpty then
      fittingPaths fs (if found.isEmpty then ⟨"/"⟩ else found) parts
    else if Glob.isPattern part then
      (fittingNames fs found part).flatMap fun name => fittingPaths fs (next name) parts
    else
      let p := next (String.ofList (unmarked part))
      if fs.exists? p then fittingPaths fs p parts else []

def resolvePattern (fs : FileSystem) (letters : Letters) : List String :=
  if Glob.isPattern letters then
    match fittingPaths fs ⟨""⟩ (lettersBetween letters) with
    | [] => [String.ofList (unmarked letters)]
    | found => found.map Path.text
  else [String.ofList (unmarked letters)]

def expansionDepth : Nat := 64

def expandWords (capture : List Item → Run (List UInt8)) (words : List Word) :
    Run (List String) := do
  let found ← words.mapM fun word => do
    let fragments ← expand capture expansionDepth false word
    let fields := Fields.ofFragments (← separators) fragments
    let s ← get
    return fields.flatMap (resolvePattern (s.links.visible s.files))
  return found.flatten

def expandLetters (capture : List Item → Run (List UInt8)) (word : Word) : Run Letters := do
  return joined (← expand capture expansionDepth false word)

def expandText (capture : List Item → Run (List UInt8)) (word : Word) : Run String := do
  return String.ofList (unmarked (← expandLetters capture word))

end GuidedExploration.Shell
