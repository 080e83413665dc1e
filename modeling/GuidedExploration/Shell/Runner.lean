import GuidedExploration.Shell.Execution

/-!
Running programs, of which some run other programs.
-/

set_option autoImplicit false

namespace GuidedExploration.Shell

namespace Inner

/-- What a shell says of a program that cannot be run; `runner?` is the command that was to run
it. -/
def refusal (runner? : Option String) (name : String) (cause : Cause) : Run Unit :=
  let reason :=
    match cause with
    | .notFound | .notADirectory => "not found"
    | cause => cause.phrase
  report ((runner?.map (· ++ ": ")).getD "" ++ name ++ ": " ++ reason)

end Inner

namespace Runner

def splitAssignments : List String → List (String × String) × List String
  | [] => ([], [])
  | word :: rest =>
    match Text.cutAt '=' word.toList with
    | some (name, value) =>
      let (more, left) := splitAssignments rest
      ((String.ofList name, String.ofList value) :: more, left)
    | none => ([], word :: rest)

def refusal (runner : Runner) (name : String) (cause : Cause) : Run Unit :=
  complain <|
    match runner with
    | environment => s!"env: '{name}': {cause.phrase}"
    | session => s!"setsid: failed to execute {name}: {cause.phrase}"
    | shielded => s!"nohup: failed to run command '{name}': {cause.phrase}"
    | limited => s!"timeout: failed to run command '{name}': {cause.phrase}"

structure Plan where
  words : List String
  assignments : List (String × String) := []
  isApart : Bool := false
  limit? : Option Nat := none
  lateStatus : Nat := 124

def timedPlan (lateStatus : Nat) : List String → Plan
  | "-s" :: name :: rest => timedPlan (if signal? name = some 9 then 137 else lateStatus) rest
  | "-k" :: _ :: rest => timedPlan lateStatus rest
  | word :: rest =>
    if word.startsWith "-" then timedPlan lateStatus rest
    else
      match Utility.milliseconds? word with
      | some limit =>
        { words := rest, limit? := if limit = 0 then none else some limit, lateStatus }
      | none => { words := [] }
  | [] => { words := [] }

def plan (arguments : List String) : Runner → Plan
  | environment =>
    let (assignments, words) := splitAssignments (Utility.options arguments).2
    { words, assignments }
  | session =>
    let (letters, words) := Utility.options arguments
    { words, isApart := letters.contains 'f' }
  | shielded => { words := (Utility.options arguments).2 }
  | limited => timedPlan 124 arguments

def idle (exported : Dict String String) : Runner → Run Nat
  | environment => do
    for (name, value) in exported.entries do say (name ++ "=" ++ value ++ "\n")
    return 0
  | session => Utility.misuse "setsid" "no command specified"
  | shielded => do
    let _ ← Utility.misuse "nohup" "missing operand"
    return 125
  | limited => do
    complain "Try 'timeout --help' for more information."
    return 125

def change (c : Context) : Runner → Context
  | environment => c
  | session | limited => { c with escaped := true }
  | shielded => { c with traps := c.traps.insert "HUP" "" }

def detach (words : List String) : Run Unit :=
  let words : List Word := ("setsid" :: words).map fun word => [.literal word.toList]
  startChild (.mk false [.simple 0 [] words []]) []

end Runner

namespace Inner

def checked (name : String) (run : Run Nat) : Run Nat := do
  modify fun s => { s with failure := none }
  let status ← run
  match (← get).failure with
  | none => return status
  | some cause =>
    if Utility.plain.contains name then report s!"{name}: {name}: I/O error"
    else complain s!"{name}: write error: {cause.phrase}"
    return 1

/-- Runs a program and gives its status; `refuse` tells why one cannot be run, and `fuel` bounds how
often one runs another in its place. -/
def runProgram (inner : Inner) (refuse : String → Cause → Run Unit) :
    Nat → String → List String → Dict String String → Run Nat
  | 0, _, _, _ => return 126
  | fuel + 1, name, arguments, environment => do
    let s ← get
    let process (body : Run Unit) : Run Nat :=
      asProcess (contextFor s.context name arguments environment) body
    let p ← if name.contains '/' then pathOf name else pure ⟨name⟩
    match program s.files p.text with
    | .ok (.utility run) => checked name (run arguments)
    | .ok .shell => process (inner.shell (arguments.length + 2) arguments)
    | .ok (.script text options) => process (inner.script text options)
    | .ok (.unknown text) => process (inner.toTheEnd (inner.text text))
    | .ok (.runner runner) =>
      let plan := runner.plan arguments
      let environment :=
        plan.assignments.foldl (fun d (name, value) => d.insert name value) environment
      match plan.words with
      | [] => runner.idle environment
      | name :: rest =>
        if plan.isApart then
          Runner.detach plan.words
          return 0
        else
          let run : Run Nat := do
            changeContext runner.change
            let run := runProgram inner runner.refusal fuel name rest environment
            match plan.limit? with
            | none => run
            | some limit =>
              match ← forAtMost limit run with
              | some status => return status
              | none =>
                if plan.lateStatus = 137 then complain "Killed"
                return plan.lateStatus
          MonadExcept.ofExcept (← restoring run)
    | .error cause =>
      refuse name (if name.isEmpty then .permissionDenied else cause)
      return if cause = .notFound || cause = .notADirectory then 127 else 126

end Inner

end GuidedExploration.Shell
