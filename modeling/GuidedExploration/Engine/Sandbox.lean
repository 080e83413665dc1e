import GuidedExploration.FileSystem.Actions
import GuidedExploration.Text.Quoted

/-!
Sandboxes: directories for one run each, in which a program under test always finds the same files.
-/

set_option autoImplicit false

namespace GuidedExploration.Sandbox

open FileSystem

inductive Refusal where
  | directory (path : Path) (cause : Cause)
  | contents (cause : Cause)
  deriving DecidableEq, Repr

namespace Refusal

def cause : Refusal → Cause
  | directory _ cause | contents cause => cause

def message : Refusal → String
  | directory path cause =>
    s!"{cause.message} at path {String.ofList (Text.quoted path.text.toList)}"
  | contents cause => cause.message

end Refusal

def path (temporary : Path) (label suffix : String) : Path :=
  temporary.child (label ++ "-klee-" ++ suffix)

def seed (sandbox : Path) : Action Unit := do
  let outer := sandbox.child "dirA"
  let inner := outer.child "subdir"
  Action.makeDirectories inner
  Action.write (outer.child "a.txt") "hello".toUTF8
  Action.write (inner.child "b.txt") "world".toUTF8

/-- Makes the first directory whose name is not taken. -/
def claim (temporary : Path) (label : String) : List String → Action Path
  | [] => throw .alreadyExists
  | suffix :: suffixes => do
    let p := path temporary label suffix
    match (Action.makeDirectory p).on (← get) with
    | (.ok (), fs) =>
      set fs
      return p
    | (.error cause, _) =>
      -- Only a name that is taken is worth another try.
      if cause = .alreadyExists ∧ suffixes ≠ [] then claim temporary label suffixes
      else throw cause

/-- What of a directory cannot be removed, given what is in it. Both are told by the names on the way
from there; a directory from which something cannot be removed is stuck itself. -/
abbrev Stuck := List (Location × Node) → List Location

/-- Removes a sandbox, but for what is stuck in it. Nothing is said of that, nor of a sandbox that is
gone. -/
def remove (stuck : Stuck) (sandbox : Path) (fs : FileSystem) : FileSystem :=
  match fs.locate sandbox with
  | .error _ => fs
  | .ok location =>
    match stuck (fs.below location) with
    | [] => ((Action.removeDirectory sandbox).on fs).2
    | left => fs.strip location left

/-- Makes a sandbox. If its files cannot be made, it is removed again. -/
def create (stuck : Path → Stuck) (temporary : Path) (label : String) (suffixes : List String)
    (fs : FileSystem) : Except Refusal Path × FileSystem :=
  match (claim temporary label suffixes).on fs with
  | (.error cause, fs) =>
    (.error (.directory (path temporary label (suffixes.getLast?.getD "")) cause), fs)
  | (.ok sandbox, fs) =>
    match (seed sandbox).on fs with
    | (.ok (), fs) => (.ok sandbox, fs)
    | (.error cause, fs) => (.error (.contents cause), remove (stuck sandbox) sandbox fs)

end GuidedExploration.Sandbox
