import GuidedExploration.Shell.Builtin

/-!
Running statements, pipelines and scripts. The rounds of a loop are counted.
-/

set_option autoImplicit false

namespace GuidedExploration.Shell

namespace Inner

def runFunction (run : Run Unit) (arguments : List String) : Run Unit := do
  let before := (← get).context
  changeContext fun c => { c with positional := arguments, loops := 0 }
  let result ← attempt run
  changeContext fun c => { c with positional := before.positional, loops := before.loops }
  match result with
  | .error .returned => return
  | result => MonadExcept.ofExcept result

def assign (inner : Inner) (assignments : List (List Char × Word)) : Run (List String) :=
  assignments.mapM fun (name, word) => do
    let value ← expandText inner.capture word
    setVariable (String.ofList name) value
    return String.ofList name ++ "=" ++ value

def takeBack (before : Context) (name : String) : Run Unit :=
  changeContext fun c =>
    let bindings := c.bindings.filter fun other _ => other != name
    { c with
      bindings :=
        match before.bindings.get? name with
        | some value => bindings.insert name value
        | none => bindings
      exported :=
        if before.exported.contains name then c.exported else c.exported.filter (· != name) }

def lending (names : List String) (before : Context) (run : Run Unit) : Run Unit := do
  names.forM exportVariable
  let result ← attempt run
  names.forM (takeBack before)
  MonadExcept.ofExcept result

def trace (sink : Sink) (words : List String) : Run Unit := do
  if (← get).context.tracing && !words.isEmpty then
    emit sink (("+ " ++ " ".intercalate words ++ "\n").toUTF8.toList)

def simple (inner : Inner) (line : Nat) (assignments : List (List Char × Word))
    (words : List Word) (redirections : List Redirection) : Run Unit := do
  modify fun s => { s with line, captured := none }
  let found ← expandWords inner.capture words
  let before := (← get).context
  match found with
  | [] =>
    inner.redirected redirections do
      trace before.errors (← inner.assign assignments)
      -- What was taken into the words last decides.
      setStatus ((← get).captured.getD 0)
  | "exec" :: [] => if !(← redirect inner redirections) then throw (.exited 2)
  | name :: arguments =>
    let special := specialCommands.contains name
    let call : Run Unit := do
      match (← get).context.functions.lookup name with
      | some body =>
        runFunction (inner.items [.mk false (.mk false [body]) []]) arguments
      | none =>
        match inner.builtin? name arguments with
        | some run => run
        | none => runNamed inner name arguments
    let refused : Run Unit := if special then throw (.exited 2) else setStatus 2
    inner.redirectedOr refused redirections do
      let assigned ← inner.assign assignments
      trace before.errors (assigned ++ found)
      if special || assignments.isEmpty then call
      else lending (assignments.map fun (name, _) => String.ofList name) before call

/-- How many rounds of a loop are run before it is taken to have no end. -/
def roundLimit : Nat := 100000

def afterRound : Except Stop Unit → Run Bool
  | .ok () => return true
  | .error (.leftLoop levels again) =>
    if levels ≤ 1 then return again else throw (.leftLoop (levels - 1) again)
  | .error stop => throw stop

def whileLoop (inner : Inner) (while? : Bool) (condition body : List Item) :
    Nat → Nat → Run Unit
  | 0, _ => hang
  | fuel + 1, last => do
    match ← attempt (testing (inner.items condition)) with
    | .ok () =>
      if ((← get).status == 0) == while? then
        let result ← attempt (inner.items body)
        let status := (← get).status
        if ← afterRound result then whileLoop inner while? condition body fuel status
      else setStatus last
    | result => if ← afterRound result then whileLoop inner while? condition body fuel last

def eachLoop (inner : Inner) (name : String) (body : List Item) : List String → Run Unit
  | [] => return
  | value :: values => do
    setVariable name value
    if ← afterRound (← attempt (inner.items body)) then eachLoop inner name body values

def select (inner : Inner) (subject : List Char) : List (List Word × List Item) → Run Unit
  | [] => setStatus 0
  | (patterns, body) :: arms => do
    if ← fits patterns then
      setStatus 0
      inner.items body
    else select inner subject arms
where
  fits : List Word → Run Bool
    | [] => return false
    | pattern :: patterns => do
      let letters ← expandLetters inner.capture pattern
      if (Glob.ofLetters letters).accepts subject then return true else fits patterns

def looping (run : Run Unit) : Run Unit := do
  let loops := (← get).context.loops
  changeContext fun c => { c with loops := loops + 1 }
  let result ← attempt run
  changeContext fun c => { c with loops }
  MonadExcept.ofExcept result

def compound (inner : Inner) : Compound → Run Unit
  | .group body => inner.items body
  | .subshell body => inner.subshell (inner.items body)
  | .branch condition body otherwise => do
    testing (inner.items condition)
    if (← get).status == 0 then inner.items body
    else
      setStatus 0
      inner.items otherwise
  | .loop while? condition body =>
    looping (whileLoop inner while? condition body roundLimit 0)
  | .each name words body => do
    let values ←
      match words with
      | some words => expandWords inner.capture words
      | none => pure (← get).context.positional
    setStatus 0
    looping (eachLoop inner (String.ofList name) body values)
  | .select subject arms => do
    let text ← expandText inner.capture subject
    inner.select text.toList arms

def statement (inner : Inner) : Statement → Run Unit
  | .simple line assignments words redirections =>
    inner.simple line assignments words redirections
  | .compound line body redirections => do
    if !redirections.isEmpty then modify fun s => { s with line }
    inner.redirected redirections (inner.compound body)
  | .define name body => do
    changeContext fun c => { c with functions := (String.ofList name, body) :: c.functions }
    setStatus 0

def pipe (inner : Inner) : List Statement → Run Unit
  | [] => setStatus 0
  | [last] => inner.subshell (inner.statement last)
  | first :: rest => do
    let bytes ← collecting (inner.subshell (inner.statement first))
    modify fun s => { s with input := bytes }
    pipe inner rest

def pipeline (inner : Inner) (p : Pipeline) : Run Unit := do
  match p with
  | .mk negated statements =>
    let run : Run Unit := do
      match statements with
      | [only] => inner.statement only
      | several =>
        let before := (← get).input
        pipe inner several
        modify fun s => { s with input := before }
    if negated then
      testing run
      setStatus (if (← get).status == 0 then 1 else 0)
    else
      run
      checkStatus
    inner.answerSignals

def sequence (inner : Inner) : Pipeline → List (Bool × Pipeline) → Run Unit
  | first, [] => inner.pipeline first
  | first, (both, next) :: rest => do
    testing (inner.pipeline first)
    skipTo both next rest
where
  skipTo (both : Bool) (next : Pipeline) : List (Bool × Pipeline) → Run Unit
    | [] => do
      if ((← get).status == 0) == both then inner.pipeline next
    | (both', next') :: rest => do
      if ((← get).status == 0) == both then testing (inner.pipeline next)
      skipTo both' next' rest

/-- Runs pipelines as all that a process does: the redirections of a lone statement need not be
undone, and a shell within it is the process itself. -/
def wholly (inner : Inner) (first : Pipeline) (rest : List (Bool × Pipeline)) : Run Unit := do
  let redirected (redirections : List Redirection) (statement : Statement) : Run Unit := do
    if ← redirect inner redirections then inner.statement statement else setStatus 2
  match first, rest with
  | .mk false [.simple line assignments words redirections], [] =>
    redirected redirections (.simple line assignments words [])
  | .mk false [.compound line (.subshell body) redirections], []
  | .mk false [.compound line (.group body) redirections], [] =>
    redirected redirections (.compound line (.group body) [])
  | .mk false [.compound line body redirections], [] =>
    redirected redirections (.compound line body [])
  | _, _ => inner.sequence first rest

def item (inner : Inner) : Item → Run Unit
  | .mk true first rest => do
    startChild first rest
    setStatus 0
  | .mk false first rest => inner.sequence first rest

/-- What runs commands that are nested at most so deep. Deeper ones break the process. -/
def ofDepth : Nat → Inner
  | 0 => { items := fun _ => throw (.killed 11) }
  | depth + 1 => { items := fun items => items.forM (item (ofDepth depth)) }

end Inner

def runDepth : Nat := 400

end GuidedExploration.Shell
