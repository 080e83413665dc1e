import GuidedExploration.Process.Command
import GuidedExploration.Shell.Evaluation
import GuidedExploration.Shell.Schedule

/-!
Running commands whose programs are scripts or utilities.
-/

set_option autoImplicit false

namespace GuidedExploration.Shell

open FileSystem

def evaluator : Inner := .ofDepth runDepth

def enter (command : Command) : Action Unit := do
  match command.directory with
  | none => return
  | some p =>
    let location ← Action.ask (·.locate p)
    match ← Action.ask (·.lookup p) with
    | .directory => modify fun fs => { fs with origin := location }
    | .file _ _ => throw .notADirectory

def mainRun (command : Command) (p : Program) : Run Unit :=
  match p with
  | .utility run => do setStatus (← run command.arguments)
  | .shell => evaluator.shell (command.arguments.length + 2) command.arguments
  | .runner runner =>
    -- The first process of a group cannot leave it, so another one does.
    if runner = .session && !(Utility.options command.arguments).1.contains 'w' then
      Runner.detach command.arguments
    else do
      setStatus (← evaluator.runProgram (Inner.refusal none) Inner.replacements command.program
        command.arguments (← Inner.environmentOf))
  | .script text options => evaluator.script text options
  | .unknown _ => setStatus 126

def childRun (child : Child) (w : World) : Course Result :=
  (evaluator.toTheEnd (evaluator.wholly child.first child.rest)).run.run
    { toWorld := { w with files := { w.files with origin := child.origin } }
      context := child.context }

def paceLimit : Nat := 200000

def proceed (isReached : Schedule → Bool) (last : Nat) (s : Schedule) : Schedule :=
  s.run childRun isReached last paceLimit

/-- Waits for the end of a stream, until the time is over but for at least one look. What comes
later is lost, and so is then all that came before. -/
def readStream (limit index : Nat) (s : Schedule) : List UInt8 × Schedule :=
  let patience := Nat.max (limit - s.world.now) Command.lookInterval
  let s := proceed (fun s => !s.holds index) (s.world.now + patience) s
  (if s.holds index then [] else (s.world.collected[index]?.getD .empty).toList, s)

def endingOf : Result → Ending
  | (.error (.killed signal), _) => .signalled (UInt8.ofNat signal)
  | result => .exited (UInt8.ofNat (Result.status result).1)

/-- Lets a group of processes live until the first of them is over, and what that one left behind
until the next look. Processes that escaped from the group live on. -/
def live (limit : Nat) (s : Schedule) : Fate × World :=
  let s := proceed (fun s => s.result.isSome) (Command.lookFrom limit) s
  match s.result with
  | none => (.stopped, s.world)
  | some result =>
    let seen := Command.lookFrom s.world.now
    let s := (proceed (fun s => s.tasks.isEmpty) seen s).moveTo seen
    let s := { s with tasks := s.tasks.filter fun task => task.context.escaped }
    let (output, s) := readStream limit 0 s
    let (errors, s) := readStream limit 1 s
    (.ended (endingOf result) output errors, s.world)

def firstContext (command : Command) : Context where
  name := command.program
  positional := command.arguments
  bindings := .ofList command.environment
  exported := command.environment.map Prod.fst

/-- Starts a command for a limited time. A file that does not name the program for its script cannot
be run. -/
def launch : Launcher := fun command limit => do
  let origin := (← get).origin
  enter command
  let files ← get
  modify fun fs => { fs with origin }
  match program files command.program with
  | .error cause => throw cause
  | .ok (.unknown _) => throw .notExecutableFormat
  | .ok p =>
    if limit = 0 then return .stopped
    let context := firstContext command
    let first : Task :=
      { number := 1
        wakes := [.moment 0]
        context
        resume := fun w => (mainRun command p).run.run { toWorld := w, context } }
    let (fate, world) := live limit { world := { files }, tasks := [first] }
    set { world.links.settle world.files with origin }
    return fate

end GuidedExploration.Shell
