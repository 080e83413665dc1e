import GuidedExploration.Shell.Expansion
import GuidedExploration.Shell.Program
import GuidedExploration.Shell.Reader.Script

/-!
Running texts and scripts. What runs nested commands is handed in, so that nesting is bounded in one
place.
-/

set_option autoImplicit false

namespace GuidedExploration.Shell

structure Inner where
  items : List Item → Run Unit

def setStatus (status : Nat) : Run Unit := modify fun s => { s with status }

def testing (run : Run Unit) : Run Unit := do
  let before := (← get).tested
  modify fun s => { s with tested := true }
  let result ← attempt run
  modify fun s => { s with tested := before }
  MonadExcept.ofExcept result

def checkStatus : Run Unit := do
  let s ← get
  if s.context.exitOnError && !s.tested && s.status != 0 then throw (.exited s.status)

namespace Inner

def text (inner : Inner) (commands : List Char) : Run Unit := do
  let script := Script.ofText commands
  inner.items script.items
  match script.mistake with
  | none => return
  | some (line, message) =>
    modify fun s => { s with line }
    giveUp message

def toTheEnd (inner : Inner) (run : Run Unit) : Run Unit := do
  let result ← attempt run
  let finish (status : Nat) (stop : Run Unit) : Run Unit := do
    match (← get).context.traps.get? "EXIT" with
    | none => stop
    | some action =>
      -- The action is forgotten before it runs, so that it cannot set itself off.
      changeContext fun c => { c with traps := c.traps.filter fun name _ => name != "EXIT" }
      setStatus status
      inner.text action.toList
      setStatus status
      stop
  match result with
  | .ok () => finish (← get).status (pure ())
  | .error (.exited status) => finish status (throw (.exited status))
  | .error stop => throw stop

def subshell (inner : Inner) (run : Run Unit) : Run Unit := do
  setStatus (← inSubshell (inner.toTheEnd run))

/-- The output of commands. Their status is kept apart. -/
def capture (inner : Inner) (body : List Item) : Run (List UInt8) := do
  let before := (← get).status
  let bytes ← collecting (inner.subshell (inner.items body))
  modify fun s => { s with captured := some s.status, status := before }
  return bytes

def optionLetters : List Char :=
  ['a', 'b', 'c', 'e', 'f', 'i', 'm', 'n', 's', 'u', 'v', 'x', 'C', 'E', 'I', 'V']

def openingProblem (cause : Cause) : String :=
  match cause with
  | .notFound | .notADirectory => "No such file"
  | cause => cause.phrase

def shell (inner : Inner) : Nat → List String → Run Unit
  | 0, _ => throw (.exited 2)
  | fuel + 1, arguments => do
    let refuse (message : String) : Run Unit := do
      modify fun s => { s with line := 0 }
      giveUp message
    match arguments with
    | [] =>
      let text := Text.Utf8.decodeLossy (← get).input
      modify fun s => { s with input := [] }
      inner.toTheEnd (inner.text text)
    | word :: rest =>
      match word.toList with
      | ['-', '-'] => shell inner fuel rest
      | '-' :: c :: letters =>
        match (c :: letters).find? fun letter => !optionLetters.contains letter with
        | some letter => refuse ("Illegal option -" ++ String.singleton letter)
        | none =>
          changeContext fun context => context.withOptions true (c :: letters)
          if !(c :: letters).contains 'c' then shell inner fuel rest
          else
            match rest with
            | [] => refuse "-c requires an argument"
            | text :: rest =>
              changeContext fun c =>
                { c with name := rest.head?.getD c.name, positional := rest.drop 1 }
              inner.toTheEnd (inner.text text.toList)
      | _ =>
        match (← get).files.bytes (← pathOf word) with
        | .ok contents =>
          changeContext fun c => { c with name := word, positional := rest }
          inner.toTheEnd (inner.text (Text.Utf8.decodeLossy contents.toList))
        | .error cause => refuse s!"cannot open {word}: {openingProblem cause}"

/-- Runs the text of a script file. The options are those that its first line gives to the shell. -/
def script (inner : Inner) (text : List Char) (options : List String) : Run Unit := do
  changeContext fun c =>
    c.withOptions true ((options.filter (·.startsWith "-")).flatMap String.toList)
  inner.toTheEnd (inner.text text)

def contextFor (c : Context) (name : String) (arguments : List String)
    (environment : Dict String String) : Context where
  name
  positional := arguments
  bindings := environment
  exported := environment.keys
  traps := c.passedOver
  output := c.output
  errors := c.errors
  held := c.held
  escaped := c.escaped

end Inner

end GuidedExploration.Shell
