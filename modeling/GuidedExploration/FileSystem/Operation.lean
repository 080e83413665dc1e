import GuidedExploration.FileSystem.Actions
import GuidedExploration.Fault
import GuidedExploration.Json.Printer
import GuidedExploration.Json.Reader

/-!
File operations that report the path at which they failed, and files that hold JSON.
-/

set_option autoImplicit false

namespace GuidedExploration

abbrev FileSystem.Operation (α : Type) := ExceptT Fault (StateM FileSystem) α

namespace FileSystem

namespace Operation

def on {α : Type} (operation : Operation α) (fs : FileSystem) : Except Fault α × FileSystem :=
  operation.run.run fs

end Operation

/-- An action on a path; its failure names that path. -/
def Action.at {α : Type} (action : Action α) (p : Path) : Operation α := do
  match action.on (← get) with
  | (.ok a, fs) =>
    set fs
    return a
  | (.error cause, fs) =>
    set fs
    throw (.io p cause)

def writeText (p : Path) (text : String) : Operation Unit := do
  match p.properParent? with
  | some parent => (Action.makeDirectories parent).at parent
  | none => pure ()
  (Action.write p text.toUTF8).at p

def writeJson (p : Path) (value : Json) : Operation Unit := writeText p value.pretty

def readJson {α : Type} (fs : FileSystem) (p : Path) (decode? : Json → Option α) :
    Except Fault α :=
  match fs.text p with
  | .error cause => .error (.io p cause)
  | .ok text =>
    match (Json.ofText? text).bind decode? with
    | some value => .ok value
    | none => .error (.json p none)

end FileSystem

end GuidedExploration
