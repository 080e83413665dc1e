import GuidedExploration.Shell.Reader.Compound

/-!
Pipelines, lists and whole scripts. A script is read line by line, so that the lines before one
that makes no sense still count.
-/

set_option autoImplicit false

namespace GuidedExploration.Shell

open Reader

def readPipeline? (nested : Nested) : Reader (Option Pipeline) := do
  let negated ← acceptReserved "!"
  match ← readStatement? nested with
  | none => if negated then refuseNext else return none
  | some first =>
    let others ← many do
      skipBlanks
      if "||".toList.isPrefixOf (← get).rest then return none
      else if ← accept ['|'] then
        skipLines
        match ← readStatement? nested with
        | some statement => return some statement
        | none => refuseNext
      else return none
    return some (.mk negated (first :: others))

def readItem? (nested : Nested) : Reader (Option (Item × Bool)) := do
  match ← readPipeline? nested with
  | none => return none
  | some first =>
    let rest ← many do
      skipBlanks
      let both ← accept ['&', '&']
      let either ← if both then pure false else accept ['|', '|']
      if both || either then
        skipLines
        match ← readPipeline? nested with
        | some pipeline => return some (both, pipeline)
        | none => refuseNext
      else return none
    skipBlanks
    let background ← accept ['&']
    let isOver ←
      if background || ";;".toList.isPrefixOf (← get).rest then pure false else accept [';']
    return some (.mk background first rest, background || isOver)

/-- Commands, each of them marked off from the next one; `skip` passes over what may stand in
front of one, and `fuel` bounds their number. -/
def readItemsBehind (nested : Nested) (skip : Reader Unit) : Nat → Reader (List Item)
  | 0 => return []
  | fuel + 1 => do
    skip
    match ← readItem? nested with
    | none => return []
    | some (item, isMarked) =>
      let isLast := !isMarked && (← peek) != some '\n'
      if isLast then return [item] else return item :: (← readItemsBehind nested skip fuel)

def readItems (nested : Nested) : Reader (List Item) := do
  readItemsBehind nested skipLines ((← get).rest.length + 1)

def Nested.ofDepth : Nat → Nested
  | 0 => { items := refuseNext, pieces := fun _ => refuseNext, statement := refuseNext }
  | depth + 1 =>
    let inner := ofDepth depth
    { items := readItems inner
      pieces := fun ends => many (readPiece inner ends)
      statement := readStatement? inner }

def scriptDepth : Nat := 100

/-- The commands of one line, with what belongs to them on the lines that follow; none at the
end. -/
def readLine (nested : Nested) : Reader (List Item) := do
  skipLines
  let items ← readItemsBehind nested skipBlanks ((← get).rest.length + 1)
  skipBlanks
  if (← get).rest.isEmpty || (← accept ['\n']) then return items else refuseNext

def readLines (nested : Nested) : Nat → Source → Script
  | 0, _ => { items := [] }
  | fuel + 1, source =>
    match (readLine nested).run source with
    | .error mistake => { items := [], mistake := some (mistake.line, mistake.flaw.message) }
    | .ok ([], _) => { items := [] }
    | .ok (items, source) =>
      let more := readLines nested fuel source
      { more with items := items ++ more.items }

def Script.ofText (text : List Char) : Script :=
  readLines (Nested.ofDepth scriptDepth) (text.length + 1) { rest := text }

end GuidedExploration.Shell
