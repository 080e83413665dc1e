import GuidedExploration.Shell.Execution

/-!
Where processes read and write: files and descriptors, and changing them for a while.
-/

set_option autoImplicit false

namespace GuidedExploration.Shell

namespace Inner

def openSink (target : String) (append : Bool) : Run (Option Sink) := do
  let c := (← get).context
  if target == "/dev/null" then return some .nothing
  else if target == "/dev/full" then return some (.broken .noSpace)
  else if target == "/dev/stdout" then return some c.output
  else if target == "/dev/stderr" then return some c.errors
  else
    let p ← pathOf target
    let action : FileSystem.Action Location := do
      if append then FileSystem.Action.append p .empty else FileSystem.Action.write p .empty
      FileSystem.Action.ask (·.locate p)
    match ← onFiles action with
    | .ok location => return some (.file location)
    | .error cause =>
      let reason :=
        match cause with
        | .notFound | .notADirectory => "Directory nonexistent"
        | cause => cause.phrase
      report s!"cannot create {target}: {reason}"
      return none

def sinkOf? (c : Context) : Nat → Option Sink
  | 1 => some c.output
  | 2 => some c.errors
  | descriptor => c.others.lookup descriptor

def setSink (descriptor : Nat) (sink : Sink) : Run Unit :=
  changeContext fun c =>
    match descriptor with
    | 0 => c
    | 1 => { c with output := sink }
    | 2 => { c with errors := sink }
    | _ => { c with others := (descriptor, sink) :: c.others.filter (·.1 != descriptor) }

/-- What is written to a descriptor that is not open. -/
def closed : Sink := .broken (.system 9)

def redirect (inner : Inner) : List Redirection → Run Bool
  | [] => return true
  | .read source :: rest => do
    let name ← expandText inner.capture source
    match ← Utility.contentsOf name with
    | .ok bytes =>
      modify fun s => { s with input := bytes }
      redirect inner rest
    | .error cause =>
      report s!"cannot open {name}: {openingProblem cause}"
      return false
  | .text contents :: rest => do
    let text := unmarked (joined (← expand inner.capture expansionDepth true contents))
    modify fun s => { s with input := bytesOf text }
    redirect inner rest
  | .write descriptor append target :: rest => do
    match ← openSink (← expandText inner.capture target) append with
    | some sink =>
      setSink descriptor sink
      redirect inner rest
    | none => return false
  | .copy descriptor source :: rest => do
    if descriptor = 0 || source = 0 then redirect inner rest
    else
      match sinkOf? (← get).context source with
      | some (.broken (.system _)) | none =>
        report s!"{Text.natural source}: Bad file descriptor"
        return false
      | some sink =>
        setSink descriptor sink
        redirect inner rest
  | .close descriptor :: rest => do
    if descriptor = 0 then modify fun s => { s with input := [] }
    setSink descriptor closed
    redirect inner rest

/-- Runs something with redirections, which end with it, or what is done if one of them fails. -/
def redirectedOr (inner : Inner) (refused : Run Unit) (redirections : List Redirection)
    (run : Run Unit) : Run Unit := do
  if redirections.isEmpty then run
  else
    let before ← get
    let result ← attempt do
      changeContext Context.keepingOpen
      if ← redirect inner redirections then run else refused
    modify fun s =>
      { s with
        context := { s.context with
          output := before.context.output
          errors := before.context.errors
          others := before.context.others
          held := before.context.held }
        input := before.input }
    MonadExcept.ofExcept result

def redirected (inner : Inner) (redirections : List Redirection) (run : Run Unit) : Run Unit :=
  inner.redirectedOr (setStatus 2) redirections run

end Inner

end GuidedExploration.Shell
