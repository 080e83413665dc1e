import GuidedExploration.Shell.Descriptor
import GuidedExploration.Shell.Runner

/-!
The commands that belong to the shell itself: they change its variables, its flow, or what it does
about signals.
-/

set_option autoImplicit false

namespace GuidedExploration.Shell.Inner

def answer (inner : Inner) (signal : Nat) : Run Unit := do
  match arranged? (← get).context.traps signal with
  | some action => inner.text action.toList
  | none =>
    match effect signal with
    | .nothing | .goesOn => return
    | .halts => hang
    | .ends => throw (.killed signal)

def answerSignals (inner : Inner) : Run Unit := do
  let s ← get
  if !s.signals.isEmpty && !s.context.isInner then
    let (mine, others) := s.signals.partition fun (number, _) => number == s.context.process
    set { s with signals := others }
    for (_, signal) in mine do
      inner.answer signal
      setStatus s.status

def sendSignal (number signal : Nat) : Run Bool := do
  let s ← get
  let found :=
    number = 1 || s.jobs.any fun job => job.number == number && job.endedAt.all (s.now ≤ ·)
  if found && signal != 0 then set { s with signals := s.signals ++ [(number, signal)] }
  return found

/-- Sends a signal to the process itself. A shell within a shell leaves the answer to the outer one,
unless the signal ends both. -/
def signalSelf (inner : Inner) (signal : Nat) : Run Unit := do
  let c := (← get).context
  if c.isInner && (arranged? c.traps signal).isSome then
    modify fun s => { s with signals := s.signals ++ [(c.process, signal)] }
  else inner.answer signal

def kill (inner : Inner) (arguments : List String) : Run Unit := do
  let (signal, targets) : Except String Nat × List String :=
    match arguments with
    | "-s" :: name :: rest =>
      ((signal? name).elim (.error ("invalid signal number or name: " ++ name)) .ok, rest)
    | word :: rest =>
      match word.toList with
      | '-' :: name =>
        let problem := "Illegal option -" ++ String.ofList (name.take 1)
        ((signal? (String.ofList name)).elim (.error problem) .ok, rest)
      | _ => (.ok 15, word :: rest)
    | [] => (.ok 15, [])
  match signal with
  | .error problem =>
    report ("kill: " ++ problem)
    setStatus 2
  | .ok signal =>
    setStatus 0
    if targets.isEmpty then
      report ("kill: Usage: kill [-s sigspec | -signum | -sigspec] [pid | job]... or\n" ++
        "kill -l [exitstatus]")
      setStatus 2
    for target in targets do
      match Text.signedInteger? target.toList with
      | some number =>
        let own := (← get).context.process
        if number ≤ 0 then
          -- The group holds the first process too.
          if own != 1 then let _ ← sendSignal 1 signal
          inner.signalSelf signal
        else if number = own then inner.signalSelf signal
        else if !(← sendSignal number.toNat signal) then
          report "kill: No such process\n"
          setStatus 1
      | none =>
        report s!"kill: Illegal number: {target}"
        setStatus 2

/-- Waits until processes in the background are over; tells whether they are, as a signal may come
first. -/
def awaitAll (numbers : List Nat) : Run Bool := do
  if !numbers.all (← get).isOver then waitFor (.endOf numbers)
  let s ← get
  match s.signals.find? fun (number, _) => number == s.context.process with
  | some (_, signal) =>
    setStatus (128 + signal)
    return false
  | none => return numbers.all s.isOver

def wait (words : List String) : Run Unit := do
  let children := (← get).context.children
  if words.isEmpty then
    if ← awaitAll children then setStatus 0
  for word in words do
    match Text.natural? word.toList with
    | none =>
      report s!"wait: Illegal number: {word}"
      setStatus 2
    | some number =>
      if !children.contains number then setStatus 127
      else if ← awaitAll [number] then
        match (← get).job? number with
        | none => pure ()
        | some job =>
          match job.signal.bind lastWords? with
          | some words => complain words
          | none => pure ()
          setStatus job.status

def setTraps (arguments : List String) : Run Unit := do
  setStatus 0
  let key (name : String) : String :=
    if name == "0" || name == "EXIT" then "EXIT"
    else ((signal? name).map signalName).getD name
  match arguments with
  | [] => return
  | "-" :: names =>
    changeContext fun c =>
      { c with traps := c.traps.filter fun name _ => !(names.map key).contains name }
  | action :: names =>
    changeContext fun c =>
      { c with traps := names.foldl (fun traps name => traps.insert (key name) action) c.traps }

def readLine (arguments : List String) : Run Unit := do
  let names := arguments.filter fun word => !word.startsWith "-"
  let s ← get
  let line := s.input.takeWhile (· != 10)
  let ended := line.length < s.input.length
  set { s with input := s.input.drop (line.length + 1) }
  let apart ← separators
  let text := (Text.Utf8.decodeLossy line).dropWhile fun c => apart.contains c
  let trimmed := (text.reverse.dropWhile fun c => apart.contains c).reverse
  assign apart names trimmed
  setStatus (if ended then 0 else 1)
where
  /-- One word for each name; the last name gets all that is left. -/
  assign (apart : List Char) : List String → List Char → Run Unit
    | [], _ => return
    | [name], text => setVariable name (String.ofList text)
    | name :: names, text => do
      let word := text.takeWhile fun c => !(apart.contains c)
      setVariable name (String.ofList word)
      assign apart names ((text.drop word.length).dropWhile fun c => apart.contains c)

def changeDirectory (arguments : List String) : Run Unit := do
  let home ← valueOf? "HOME"
  let target := (arguments.head? <|> home).getD "."
  let fs := (← get).files
  match fs.locate (← pathOf target) with
  | .ok location =>
    if fs.isDirectory location then
      modify fun s => { s with files := { s.files with origin := location } }
      setStatus 0
    else
      report s!"cd: can't cd to {target}"
      setStatus 2
  | .error _ =>
    report s!"cd: can't cd to {target}"
    setStatus 2

def assigned (word : String) : String × Option String :=
  match Text.cutAt '=' word.toList with
  | some (name, value) => (String.ofList name, some (String.ofList value))
  | none => (word, none)

def declare (exporting : Bool) (arguments : List String) : Run Unit := do
  for word in arguments do
    if !word.startsWith "-" then
      let (name, value) := assigned word
      match value with
      | some value => setVariable name value
      | none => pure ()
      if exporting then exportVariable name
  setStatus 0

def setOptions : List String → Run Unit
  | [] => setStatus 0
  | "--" :: arguments => do
    changeContext fun c => { c with positional := arguments }
    setStatus 0
  | "-o" :: _ :: rest | "+o" :: _ :: rest => setOptions rest
  | word :: rest => do
    match word.toList with
    | '-' :: letters =>
      changeContext fun c => c.withOptions true letters
      setOptions rest
    | '+' :: letters =>
      changeContext fun c => c.withOptions false letters
      setOptions rest
    | _ =>
      changeContext fun c => { c with positional := word :: rest }
      setStatus 0

def numberArgument (command : String) (arguments : List String) (absent : Nat) : Run Nat := do
  match arguments with
  | [] => return absent
  | word :: _ =>
    match Text.natural? word.toList with
    | some number => return number
    | none => giveUp (command ++ ": Illegal number: " ++ word)

def replacements : Nat := 16

def environmentOf : Run (Dict String String) := do return (← get).context.environment

def runNamed (inner : Inner) (name : String) (arguments : List String)
    (runner? : Option String := none) : Run Unit := do
  setStatus (← runProgram inner (refusal runner?) replacements name arguments (← environmentOf))

def isCommand (name : String) : Run Bool := do
  let s ← get
  return match program s.files name with
    | .ok _ => true
    | .error _ => (s.context.functions.lookup name).isSome

/-- Leaves so many loops, or goes on with the last of them. Outside of loops nothing is done. -/
def leaveLoops (levels : Nat) (again : Bool) : Run Unit := do
  setStatus 0
  let loops := (← get).context.loops
  if loops != 0 then throw (.leftLoop (Nat.min levels loops) again)

/-- The commands that are special in that assignments in front of them last. -/
def specialCommands : List String :=
  [":", ".", "break", "continue", "eval", "exec", "exit", "export", "readonly", "return", "set",
   "shift", "times", "trap", "unset"]

def builtin? (inner : Inner) (name : String) (arguments : List String) : Option (Run Unit) :=
  match name with
  | ":" => some (setStatus 0)
  | "exit" => some do throw (.exited ((← numberArgument "exit" arguments (← get).status) % 256))
  | "return" => some do
    setStatus ((← numberArgument "return" arguments (← get).status) % 256)
    throw .returned
  | "break" => some do leaveLoops (← numberArgument "break" arguments 1) false
  | "continue" => some do leaveLoops (← numberArgument "continue" arguments 1) true
  | "shift" => some do
    let n ← numberArgument "shift" arguments 1
    if (← get).context.positional.length < n then giveUp "shift: can't shift that many"
    changeContext fun c => { c with positional := c.positional.drop n }
    setStatus 0
  | "set" => some (setOptions arguments)
  | "unset" => some do
    for word in arguments do
      if arguments.head? == some "-f" then
        changeContext fun c => { c with functions := c.functions.filter (·.1 != word) }
      else if !word.startsWith "-" then unsetVariable word
    setStatus 0
  | "export" => some (declare true arguments)
  | "local" => some (declare false arguments)
  | "readonly" => some do
    declare false arguments
    let names := arguments.map fun word => (assigned word).1
    changeContext fun c => { c with constants := names ++ c.constants }
  | "cd" => some (changeDirectory arguments)
  | "pwd" => some do
    say ("/" ++ "/".intercalate (← get).files.origin ++ "\n")
    setStatus 0
  | "read" => some (readLine arguments)
  | "eval" => some (inner.text (Text.joinWith [' '] (arguments.map String.toList)))
  | "." => some do
    let name := arguments.head?.getD ""
    let files := (← get).files
    let p ← pathOf name
    match if name.contains '/' then files.bytes p else .error .notFound with
    | .ok contents =>
      match ← attempt (inner.text (Text.Utf8.decodeLossy contents.toList)) with
      | .error .returned => return
      | result => MonadExcept.ofExcept result
    | .error _ =>
      giveUp (if name.contains '/' then s!".: cannot open {name}: No such file"
        else s!".: {name}: not found")
  | "exec" => some do
    match arguments with
    | [] => return
    | name :: rest =>
      -- The program takes the place of the shell, which then has no end of its own.
      if (program (← get).files name).isOk then
        changeContext fun c => { c with traps := c.traps.filter fun name _ => name != "EXIT" }
      runNamed inner name rest (some "exec")
      throw (.exited (← get).status)
  | "trap" => some (setTraps arguments)
  | "kill" => some (inner.kill arguments)
  | "wait" => some (wait arguments)
  | "umask" => some do
    if arguments.isEmpty then say "0022\n"
    setStatus 0
  | "ulimit" | "jobs" | "alias" | "hash" | "times" => some (setStatus 0)
  | "command" =>
    match arguments with
    | ["-v", name] => some do
      if ← isCommand name then
        say (name ++ "\n")
        setStatus 0
      else setStatus 127
    | name :: rest => some (runNamed inner name rest)
    | [] => some (setStatus 0)
  | "[" => some do
    if arguments.getLast? == some "]" then setStatus (← Condition.run "[" arguments.dropLast)
    else
      report "[: missing ]"
      setStatus 2
  | _ => none

end GuidedExploration.Shell.Inner
