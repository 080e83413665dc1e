import GuidedExploration.FileSystem.Actions
import GuidedExploration.Shell.Course
import GuidedExploration.Shell.Signal

/-!
What a process that runs scripts does: it changes its state, writes, waits, and stops.
-/

set_option autoImplicit false

namespace GuidedExploration.Shell

structure State extends World where
  context : Context
  input : List UInt8 := []
  status : Nat := 0
  line : Nat := 1
  /-- Whether the status that comes next is being tested, so that it may be a failure. -/
  tested : Bool := false
  captured : Option Nat := none
  failure : Option Cause := none

def State.found (s : State) (w : World) : State :=
  { s with toWorld := { w with files := { w.files with origin := s.files.origin } } }

inductive Stop where
  | exited (status : Nat)
  | killed (signal : Nat)
  | leftLoop (levels : Nat) (again : Bool)
  | returned
  deriving DecidableEq

abbrev Run (α : Type) := ExceptT Stop (StateT State Course) α

abbrev Result := Except Stop Unit × State

def attempt {α : Type} (run : Run α) : Run (Except Stop α) := ExceptT.lift run.run

def request (request : Request) : Run Unit :=
  ExceptT.mk fun s =>
    .asks s.toWorld request fun w => .done (.ok (), s.found w)

def waitFor (wake : Wake) : Run Unit := do request (.wait [wake] (← get).context)

def sleep (milliseconds : Nat) : Run Unit := do waitFor (.moment ((← get).now + milliseconds))

def hang {α : Type} : Run α := do
  waitFor .never
  throw (.killed 9)

def forAtMost {α : Type} (milliseconds : Nat) (run : Run α) : Run (Option α) :=
  ExceptT.mk fun s => do
    match ← (run.run.run s).upTo (s.now + milliseconds) with
    | .inr (result, s) => return (result.map some, s)
    | .inl w => return (.ok none, s.found w)

def onFiles {α : Type} (action : FileSystem.Action α) : Run (Except Cause α) := do
  let (result, files) := action.on (← get).files
  modify fun s => { s with files }
  return result

/-- The path that an operand is, through links or, if so asked, without following one at its end. -/
def pathOf (operand : String) (atEnd : Bool := true) : Run Path := do
  let s ← get
  return s.links.resolve s.files atEnd ⟨operand⟩

def linkAt? (operand : String) : Run (Option (Location × String)) := do
  let s ← get
  let location? := s.links.locate? s.files false ⟨operand⟩
  return s.links.find? fun (location, _) => some location == location?

def changeContext (change : Context → Context) : Run Unit :=
  modify fun s => { s with context := change s.context }

def emit (sink : Sink) (bytes : List UInt8) : Run Unit := do
  match sink with
  | .nothing => return
  | .broken cause => modify fun s => { s with failure := some cause }
  | .collected index =>
    modify fun s =>
      { s with
        collected := s.collected.modify index fun before => bytes.foldl ByteArray.push before }
  | .file location =>
    modify fun s =>
      match s.files.node? location with
      | some (.file contents executable) =>
        let contents := bytes.foldl ByteArray.push contents
        { s with files := s.files.put location (.file contents executable) }
      | _ => s

def bytesOf (text : List Char) : List UInt8 := (String.ofList text).toUTF8.toList

def write (bytes : List UInt8) : Run Unit := do emit (← get).context.output bytes

def say (text : String) : Run Unit := write text.toUTF8.toList

def complain (text : String) : Run Unit := do
  emit (← get).context.errors (text ++ "\n").toUTF8.toList

def report (message : String) : Run Unit := do
  let s ← get
  complain s!"{s.context.name}: {Text.natural s.line}: {message}"

def giveUp {α : Type} (message : String) : Run α := do
  report message
  throw (.exited 2)

def valueOf? (name : String) : Run (Option String) := do
  return (← get).context.bindings.get? name

def setVariable (name value : String) : Run Unit := do
  if (← get).context.constants.contains name then giveUp (name ++ ": is read only")
  changeContext fun c => { c with bindings := c.bindings.insert name value }

def unsetVariable (name : String) : Run Unit :=
  changeContext fun c =>
    { c with
      bindings := c.bindings.filter fun other _ => other != name
      exported := c.exported.filter (· != name) }

def exportVariable (name : String) : Run Unit :=
  changeContext fun c =>
    if c.exported.contains name then c else { c with exported := name :: c.exported }

namespace Context

def environment (c : Context) : Dict String String :=
  c.bindings.filter fun name _ => c.exported.contains name

def keepingOpen (c : Context) : Context := { c with held := c.sinks }

/-- What a process does about signals when it starts: like its parent, it passes over some. -/
def passedOver (c : Context) : Dict String String := c.traps.filter fun _ action => action.isEmpty

/-- The context of a shell within a shell. It has started nothing yet, and its end is not that of
the shell around it. -/
def inner (c : Context) : Context :=
  { c with isInner := true, children := [], traps := c.traps.filter fun name _ => name != "EXIT" }

end Context

def collecting (run : Run Unit) : Run (List UInt8) := do
  let before ← get
  let index := before.collected.size
  set { before with
    collected := before.collected.push .empty
    context := { before.context.keepingOpen with output := .collected index } }
  let result ← attempt run
  changeContext fun c => { c with output := before.context.output, held := before.context.held }
  if !(← get).isQuiet then waitFor (.closing index)
  let after ← get
  set { after with
    collected :=
      -- Collections that are in use keep their places.
      if after.collected.size = index + 1 then after.collected.pop
      else after.collected.modify index fun _ => .empty }
  match result with
  | .error stop => throw stop
  | .ok () => return (after.collected[index]?.getD .empty).toList

def jobLimit : Nat := 4096

def startChild (first : Pipeline) (rest : List (Bool × Pipeline)) : Run Unit := do
  let s ← get
  if jobLimit ≤ s.jobs.length then giveUp "Cannot fork"
  let number := s.processes + 1
  set { s with
    processes := number
    jobs := { number } :: s.jobs
    context := { s.context with
      children := number :: s.context.children
      lastChild := some number } }
  let context : Context :=
    { s.context with
      process := number
      isInner := false
      traps := s.context.passedOver
      held := []
      children := [] }
  request (.start { context, origin := s.files.origin, first, rest })

def restoring {α : Type} (run : Run α) : Run (Except Stop α) := do
  let before ← get
  let result ← attempt run
  modify fun s =>
    { s with
      context := before.context
      files := { s.files with origin := before.files.origin }
      line := before.line
      tested := before.tested }
  return result

/-- The status that a shell within a shell leaves. It is still the same process for signals. -/
def inSubshell (run : Run Unit) : Run Nat := do
  match ← restoring do changeContext Context.inner; run with
  | .ok () | .error (.leftLoop _ _) | .error .returned => return (← get).status
  | .error (.exited status) => return status
  | .error (.killed signal) => throw (.killed signal)

def asProcess (context : Context) (run : Run Unit) : Run Nat := do
  let result ← restoring do
    modify fun s =>
      let number := s.processes + 1
      { s with
        context := { context with number, process := number }
        processes := number
        line := 1
        tested := false }
    run
  match result with
  | .ok () | .error (.leftLoop _ _) | .error .returned => return (← get).status
  | .error (.exited status) => return status
  | .error (.killed signal) =>
    match lastWords? signal with
    | some words => complain words
    | none => pure ()
    return 128 + signal

end GuidedExploration.Shell
