import GuidedExploration.Shell.Process

/-!
Processes side by side. One at a time runs until it makes a request; time passes when none can go
on.
-/

set_option autoImplicit false

namespace GuidedExploration.Shell

structure Task where
  number : Nat
  halted : Bool := false
  wakes : List Wake
  context : Context
  resume : World → Course Result

structure Schedule where
  world : World
  tasks : List Task
  result : Option Result := none

def Result.status : Result → Nat × Option Nat
  | (.error (.exited status), _) => (status, none)
  | (.error (.killed signal), _) => (128 + signal, some signal)
  | (_, state) => (state.status, none)

namespace Schedule

def conclude (s : Schedule) (task : Task) (result : Result) : Schedule :=
  let (status, signal) := Result.status result
  { world := s.world.conclude task.number status signal
    tasks := s.tasks.filter (·.number != task.number)
    result := if task.number = 1 then some result else s.result }

def edit (s : Schedule) (number : Nat) (change : Task → Task) : Schedule :=
  { s with tasks := s.tasks.map fun task => if task.number == number then change task else task }

/-- Sees to a signal. It waits for a process that has arranged to answer it. -/
def deliver (s : Schedule) (number signal : Nat) : Schedule :=
  match s.tasks.find? (·.number == number) with
  | none => s
  | some task =>
    match arranged? task.context.traps signal with
    | some action =>
      if action.isEmpty then s
      else { s with world := { s.world with signals := s.world.signals ++ [(number, signal)] } }
    | none =>
      match effect signal with
      | .nothing => s
      | .goesOn => s.edit number fun task => { task with halted := false }
      | .halts => s.edit number fun task => { task with halted := true }
      | .ends =>
        s.conclude task (.error (.killed signal), { toWorld := s.world, context := task.context })

def deliverAll (s : Schedule) : Schedule :=
  s.world.signals.foldl (fun s (number, signal) => s.deliver number signal)
    { s with world := { s.world with signals := [] } }

def hasCome (s : Schedule) (task : Task) : Wake → Bool
  | .moment time => decide (time ≤ s.world.now)
  | .endOf jobs =>
    jobs.all s.world.isOver || s.world.signals.any fun (number, _) => number == task.number
  | .closing index =>
    s.tasks.all fun other => other.number == task.number || !other.context.holds index
  | .never => false

def isReady (s : Schedule) (task : Task) : Bool :=
  !task.halted && task.wakes.any (s.hasCome task)

def holds (s : Schedule) (index : Nat) : Bool := s.tasks.any fun task => task.context.holds index

/-- Lets a process go on until it makes a request. One that it starts goes first. -/
def follow (begin : Child → World → Course Result) (s : Schedule) (task : Task) : Schedule :=
  match task.resume s.world with
  | .done result => { s with world := result.2.toWorld }.conclude task result
  | .asks world (.wait wakes context) resume =>
    { s with world }.edit task.number fun task => { task with wakes, context, resume }
  | .asks world (.start child) resume =>
    let started : Task :=
      { number := child.context.process
        wakes := [.moment world.now]
        context := child.context
        resume := begin child }
    { s with
      world
      tasks := s.tasks.flatMap fun other =>
        if other.number == task.number then
          [started, { other with wakes := [.moment world.now], resume }]
        else [other] }

def nextMoment? (s : Schedule) : Option Nat :=
  let waiting := s.tasks.filter fun task => !task.halted
  ((waiting.flatMap Task.wakes).filterMap fun
    | .moment time => some time
    | _ => none).min?

def moveTo (s : Schedule) (time : Nat) : Schedule :=
  { s with world := { s.world with now := Nat.max s.world.now time } }

/-- Lets the processes go on until some point is reached, or to the end of a time; `fuel` bounds how
often one of them goes on. -/
def run (begin : Child → World → Course Result) (isReached : Schedule → Bool) (last : Nat) :
    Nat → Schedule → Schedule
  | 0, s => s.moveTo last
  | fuel + 1, s =>
    let s := s.deliverAll
    if isReached s then s
    else
      match s.tasks.find? s.isReady with
      | some task => run begin isReached last fuel (s.follow begin task)
      | none =>
        match s.nextMoment? with
        | some time =>
          if time ≤ last then run begin isReached last fuel (s.moveTo time) else s.moveTo last
        | none => s.moveTo last

end Schedule

end GuidedExploration.Shell
