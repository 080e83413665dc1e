import GuidedExploration.Shell.Utility.Basic

/-!
The utilities that change or list files.
-/

set_option autoImplicit false

namespace GuidedExploration.Shell.Utility

open FileSystem

def touch (arguments : List String) : Run Nat := do
  let (letters, operands) := options arguments
  forEach operands fun operand => do
    let p ← pathOf operand
    if (← get).files.exists? p || letters.contains 'c' then return 0
    match ← onFiles (Action.append p .empty) with
    | .ok () => return 0
    | .error cause => fail "touch" s!"cannot touch '{operand}': {cause.phrase}"

def makeDirectories (arguments : List String) : Run Nat := do
  let (letters, operands) := options arguments
  forEach operands fun operand => do
    let p ← pathOf operand
    let action : Action Unit :=
      if letters.contains 'p' then Action.makeDirectories p else Action.makeDirectory p
    let result ← if (← linkAt? operand).isSome then pure (.error .alreadyExists) else onFiles action
    match result with
    | .ok () => return 0
    | .error cause => fail "mkdir" s!"cannot create directory '{operand}': {cause.phrase}"

def removeAction (recursive : Bool) (p : Path) : Action Unit := do
  let location ← Action.ask (·.locate p)
  match ← Action.ask (·.lookup p) with
  | .directory => if recursive then Action.removeDirectory p else throw .isADirectory
  | .file _ _ => modify (·.prune location)

def remove (arguments : List String) : Run Nat := do
  let (letters, operands) := options arguments
  let recursive := letters.contains 'r' || letters.contains 'R'
  forEach operands fun operand => do
    match ← linkAt? operand with
    | some link =>
      modify fun s => { s with links := s.links.erase link }
      return 0
    | none => pure ()
    let result ← onFiles (removeAction recursive (← pathOf operand))
    modify fun s => { s with links := s.links.prune s.files }
    match result with
    | .ok () => return 0
    | .error cause =>
      if letters.contains 'f' && (cause = .notFound || cause = .notADirectory) then return 0
      fail "rm" s!"cannot remove '{operand}': {cause.phrase}"

def removeEmpty (arguments : List String) : Run Nat := do
  let (_, operands) := options arguments
  forEach operands fun operand => do
    let p : Path := ⟨operand⟩
    let action : Action Unit := do
      if !(← Action.ask (·.list p)).isEmpty then throw .directoryNotEmpty
      Action.removeDirectory p
    match ← onFiles action with
    | .ok () => return 0
    | .error cause => fail "rmdir" s!"failed to remove '{operand}': {cause.phrase}"

/-- Where a copy of a file goes: into the target, if that is a directory. -/
def destination (fs : FileSystem) (source target : Path) : Path :=
  if Action.isDirectory fs target then target.child (source.steps.getLast?.getD "") else target

def copyAction (source target : Path) : Action Unit := do
  let from? ← Action.ask (·.locate source)
  let goal ← Action.ask (·.locate (destination (← get) source target))
  match ← Action.ask (·.lookup source) with
  | .file contents executable =>
    let p := destination (← get) source target
    Action.write p contents
    if executable then Action.makeExecutable p
  | .directory =>
    let inner := (← get).below from?
    modify (·.put goal .directory)
    modify fun fs => inner.foldl (fun fs (steps, node) => fs.put (goal ++ steps) node) fs

def sourcesAndTarget : List String → Option (List String × String)
  | [] => none
  | operands => operands.getLast?.map fun target => (operands.dropLast, target)

def copy (arguments : List String) : Run Nat := do
  let (letters, operands) := options arguments
  match sourcesAndTarget operands with
  | none => misuse "cp" "missing file operand"
  | some (sources, target) =>
    forEach sources fun source => do
      let recursive := letters.contains 'r' || letters.contains 'R' || letters.contains 'a'
      if Action.isDirectory (← get).files (← pathOf source) && !recursive then
        fail "cp" s!"-r not specified; omitting directory '{source}'"
      else
        match ← onFiles (copyAction (← pathOf source) (← pathOf target)) with
        | .ok () => return 0
        | .error cause => fail "cp" s!"cannot stat '{source}': {cause.phrase}"

def move (arguments : List String) : Run Nat := do
  let (_, operands) := options arguments
  match sourcesAndTarget operands with
  | none => misuse "mv" "missing file operand"
  | some (sources, target) =>
    forEach sources fun source => do
      let old ← pathOf source false
      let new ← pathOf target
      let link? ← linkAt? source
      let action : Action Unit := do
        let location ← Action.ask (·.locate old)
        if link?.isNone then copyAction old new
        modify (·.prune location)
      match ← onFiles action with
      | .ok () =>
        match link? with
        | some (location, path) =>
          let fs := (← get).files
          let goal := (fs.locate (destination fs old new)).toOption.getD location
          modify fun s => { s with links := (goal, path) :: s.links.erase (location, path) }
        | none => pure ()
        return 0
      | .error cause => fail "mv" s!"cannot stat '{source}': {cause.phrase}"

def inOrder (names : List String) : List String := names.mergeSort fun a b => !decide (b < a)

structure Listing where
  hidden : Bool
  dots : Bool
  deep : Bool
  titled : Bool

def Listing.names (l : Listing) (p : Path) : Run (Except Cause (List String)) := do
  let s ← get
  return do
    let names ← s.files.list p
    let location ← s.files.locate p
    let links := s.links.names location
    let names := if links.isEmpty then names else inOrder (links ++ names)
    let names := names.filter fun name => l.hidden || !name.startsWith "."
    return if l.dots then "." :: ".." :: names else names

def listAll (l : Listing) : Nat → Bool → List String → Run Unit
  | 0, _, _ => return
  | _, _, [] => return
  | fuel + 1, isFirst, name :: rest => do
    if !isFirst then say "\n"
    if l.titled then say (name ++ ":\n")
    let p ← pathOf name
    let names := (← l.names p).toOption.getD []
    for inner in names do say (inner ++ "\n")
    let fs := (← get).files
    let inner :=
      if l.deep then
        (names.filter fun inner => inner != "." && inner != "..").filterMap fun inner =>
          let next := Path.child ⟨name⟩ inner
          if Action.isDirectory fs next then some next.text else none
      else []
    listAll l fuel false (inner ++ rest)

def list (arguments : List String) : Run Nat := do
  let (letters, operands) := options arguments
  let operands := inOrder (if operands.isEmpty then ["."] else operands)
  let fs := (← get).files
  let found ← operands.filterMapM fun operand => do
    let isLink := (← linkAt? operand).isSome
    match fs.lookup (← pathOf operand) with
    | .ok node => return some (operand, decide (node = .directory) && !letters.contains 'd')
    | .error cause =>
      if isLink then return some (operand, false)
      complain s!"ls: cannot access '{operand}': {cause.phrase}"
      return none
  let (directories, files) := found.partition fun (_, isDirectory) => isDirectory
  for (operand, _) in files do say (operand ++ "\n")
  let listing : Listing :=
    { hidden := letters.contains 'a' || letters.contains 'A'
      dots := letters.contains 'a'
      deep := letters.contains 'R'
      titled := 1 < operands.length || letters.contains 'R' }
  listAll listing (fs.nodes.entries.length + operands.length + 1) files.isEmpty
    (directories.map Prod.fst)
  return if found.length = operands.length then 0 else 2

/-- Makes a link, in the target if that is a directory; without an option for links the file is
copied. -/
def link (arguments : List String) : Run Nat := do
  let (letters, operands) := options arguments
  let operands :=
    match operands with
    | [source] => [source, "."]
    | operands => operands
  match operands with
  | [source, target] =>
    let fs := (← get).files
    let inside := Action.isDirectory fs (← pathOf target) && !letters.contains 'n'
    let name := if inside then (destination fs ⟨source⟩ ⟨target⟩).text else target
    let p ← pathOf name false
    if letters.contains 'f' then
      let _ ← remove [name]
    let symbolic := letters.contains 's'
    let kind := if symbolic then "symbolic" else "hard"
    let action : Action Location := do
      let location ← Action.ask (·.locate p)
      if ((← get).node? location).isSome then throw .alreadyExists
      return location
    let found ← if (← linkAt? name).isSome then pure (.error .alreadyExists) else onFiles action
    match found with
    | .error cause => fail "ln" s!"failed to create {kind} link '{name}': {cause.phrase}"
    | .ok location =>
      if symbolic then
        modify fun s => { s with links := (location, source) :: s.links }
        return 0
      else
        match ← onFiles (copyAction (← pathOf source) p) with
        | .ok () => return 0
        | .error cause => fail "ln" s!"failed to access '{source}': {cause.phrase}"
  | _ => misuse "ln" "missing file operand"

def readLink (arguments : List String) : Run Nat := do
  forEach (options arguments).2 fun operand => do
    match ← linkAt? operand with
    | none => return 1
    | some (_, target) =>
      say (target ++ "\n")
      return 0

def truncate (arguments : List String) : Run Nat := do
  match arguments with
  | "-s" :: size :: operands =>
    match Text.natural? size.toList with
    | none => fail "truncate" s!"Invalid number: '{size}'"
    | some size =>
      forEach operands fun operand => do
        let p ← pathOf operand
        let change (before : Option ByteArray) : ByteArray :=
          let bytes := (before.getD .empty).toList
          ⟨(bytes.take size ++ List.replicate (size - bytes.length) 0).toArray⟩
        match ← onFiles (Action.edit p change) with
        | .ok () => return 0
        | .error cause => fail "truncate" s!"cannot open '{operand}' for writing: {cause.phrase}"
  | _ => misuse "truncate" "you must specify either '--size' or '--reference'"

def changeMode (arguments : List String) : Run Nat := do
  match arguments.dropWhile fun word => word.startsWith "-" && word.length == 2 && word != "-x" with
  | [] => misuse "chmod" "missing operand"
  | mode :: operands =>
    let executable :=
      match Text.natural? mode.toList with
      | some _ => mode.toList.any fun c => c = '1' || c = '3' || c = '5' || c = '7'
      | none => mode.contains '+' && mode.contains 'x'
    let changes := (Text.natural? mode.toList).isSome || mode.contains 'x'
    forEach operands fun operand => do
      let p ← pathOf operand
      let action : Action Unit := do
        let location ← Action.ask (·.locate p)
        match ← Action.ask (·.lookup p) with
        | .file contents _ => if changes then modify (·.put location (.file contents executable))
        | .directory => return
      match ← onFiles action with
      | .ok () => return 0
      | .error cause => fail "chmod" s!"cannot access '{operand}': {cause.phrase}"

end GuidedExploration.Shell.Utility
