import GuidedExploration.FileSystem.Basic

/-!
Changing a file system. What an action did before it failed stays done.
-/

set_option autoImplicit false

namespace GuidedExploration

abbrev FileSystem.Action (α : Type) := ExceptT Cause (StateM FileSystem) α

namespace FileSystem.Action

def on {α : Type} (action : Action α) (fs : FileSystem) : Except Cause α × FileSystem :=
  action.run.run fs

/-- A question that changes nothing. -/
def ask {α : Type} (question : FileSystem → Except Cause α) : Action α := do
  match question (← get) with
  | .ok a => return a
  | .error cause => throw cause

/-- The location at which a file is to be opened for writing. A path that ends in a slash or a dot
names a directory. -/
def target (p : Path) : Action Location := do
  let location ← ask (·.locate p)
  if p.endsInSlash || p.steps.getLast? == some "." || p.steps.getLast? == some ".." then
    throw .isADirectory
  return location

/-- Changes the contents of a file; `none` stands for a file that is not there yet. -/
def edit (p : Path) (change : Option ByteArray → ByteArray) : Action Unit := do
  let location ← target p
  match (← get).node? location with
  | some .directory => throw .isADirectory
  | some (.file contents executable) =>
    modify (·.put location (.file (change (some contents)) executable))
  | none => modify (·.put location (.file (change none) false))

def write (p : Path) (contents : ByteArray) : Action Unit := edit p fun _ => contents

def append (p : Path) (contents : ByteArray) : Action Unit :=
  edit p fun before => (before.getD .empty) ++ contents

def makeDirectory (p : Path) : Action Unit := do
  let location ← ask (·.locate p)
  match (← get).node? location with
  | some _ => throw .alreadyExists
  | none => modify (·.put location .directory)

def isDirectory (fs : FileSystem) (p : Path) : Bool :=
  match fs.lookup p with
  | .ok .directory => true
  | _ => false

/-- Makes a directory whose parent is there. A directory that is there already will do. -/
def ensureDirectory (p : Path) : Action Unit := do
  match (makeDirectory p).on (← get) with
  | (.ok (), fs) => set fs
  | (.error cause, _) => if isDirectory (← get) p then return else throw cause

/-- The path and its ancestors, itself last, without the empty path. -/
def lineage : Nat → Path → List Path
  | 0, _ => []
  | fuel + 1, p =>
    if p.isEmpty then []
    else
      match p.parent? with
      | none => [p]
      | some parent => lineage fuel parent ++ [p]

/-- Makes the directory of each path, from the last one on that could not be made for want of a
parent. -/
def makeAll : List Path → Action Unit
  | [] => return
  | p :: ancestors => do
    match (makeDirectory p).on (← get) with
    | (.ok (), fs) => set fs
    | (.error .notFound, _) =>
      if ancestors.isEmpty then throw .notFound
      makeAll ancestors
      ensureDirectory p
    | (.error cause, _) => if isDirectory (← get) p then return else throw cause

/-- Makes a directory and those of its ancestors that are missing. The empty path needs none. -/
def makeDirectories (p : Path) : Action Unit :=
  makeAll (lineage (p.chars.length + 1) p).reverse

/-- Removes a directory with all that is in it. A path that ends in dots cannot itself be
removed, but what is in it is gone. -/
def removeDirectory (p : Path) : Action Unit := do
  let location ← ask (·.locate p)
  match ← ask (·.lookup p) with
  | .file _ _ => throw .notADirectory
  | .directory =>
    modify (·.clear location)
    if p.steps.getLast? == some "." then throw .invalidArgument
    if p.steps.getLast? == some ".." then throw .directoryNotEmpty
    if location.isEmpty then throw .busy
    modify (·.prune location)

def makeExecutable (p : Path) : Action Unit := do
  let location ← ask (·.locate p)
  match ← ask (·.lookup p) with
  | .file contents _ => modify (·.put location (.file contents true))
  | .directory => return

def makeParent (p : Path) : Action Unit :=
  match p.properParent? with
  | none => return
  | some parent => makeDirectories parent

end FileSystem.Action

end GuidedExploration
