import GuidedExploration.Text.Blank
import GuidedExploration.Text.Cut
import GuidedExploration.Text.Numeral

/-!
One line of a value trace: `loc:<site>:branch:<branch>`, a tab, `<variable>:<value>`.

Every line has an outcome. A line whose branch is negative marks a function entry or the like; it
is told apart before the part behind the tab is looked at.
-/

set_option autoImplicit false

namespace GuidedExploration

/-- One accepted line: the value of the variable of that name at a branch of a site. -/
structure Observation where
  site : Int64
  branch : Int64
  name : String
  value : String
  deriving DecidableEq, Repr

inductive LineOutcome where
  | blank
  | accepted (observation : Observation)
  | negativeBranch
  | malformed
  deriving DecidableEq, Repr

namespace LineOutcome

def observation? : LineOutcome → Option Observation
  | accepted observation => some observation
  | _ => none

end LineOutcome

namespace Trace

open Text

/-- A site or branch id: an integer of the signed 64-bit range; zeros in front do not matter. -/
def id? (s : List Char) : Option Int64 := (integer? s).bind int64?

def location? (s : List Char) : Option (Int64 × Int64) := do
  let rest ← ['l', 'o', 'c', ':'].isPrefixOf? s
  let (site, branch) ← cutAround [':', 'b', 'r', 'a', 'n', 'c', 'h', ':'] rest
  let site ← id? site
  let branch ← id? branch
  return (site, branch)

/-- The variable and the value of an assignment; the variable must have a name. -/
def assignment? (s : List Char) : Option (String × String) := do
  let (name, value) ← cutAt ':' s
  if (trim name).isEmpty then none
  else return (String.ofList (trim name), String.ofList (trim value))

def classifyTrimmed (line : List Char) : LineOutcome :=
  if line.isEmpty then .blank
  else
    match cutAt '\t' line with
    | none => .malformed
    | some (location, assignment) =>
      match location? location with
      | none => .malformed
      | some (site, branch) =>
        -- The branch decides before the assignment is looked at.
        if branch < 0 then .negativeBranch
        else
          match assignment? assignment with
          | none => .malformed
          | some (name, value) => .accepted { site, branch, name, value }

def classify (line : List Char) : LineOutcome := classifyTrimmed (trim line)

end Trace

end GuidedExploration
