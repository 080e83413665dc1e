import GuidedExploration.Batch.Outcome
import GuidedExploration.Configuration.Basic
import GuidedExploration.FileSystem.Operation

/-!
The three stages of work on one program, and what they work on. A stage gives its result, ends in a
fault, or breaks down; a breakdown is confined to the program that it came from.
-/

set_option autoImplicit false

namespace GuidedExploration

structure World (σ : Type) where
  files : FileSystem
  shown : String
  memory : σ

namespace World

def display {σ : Type} (w : World σ) (text : String) : World σ :=
  { w with shown := w.shown ++ text }

def ofFiles {σ : Type} (files : FileSystem) (memory : σ) : World σ := { files, shown := "", memory }

end World

inductive Failure where
  | fault (fault : Fault)
  /-- The stage broke down and perhaps said why. -/
  | breakdown (said : Option String)
  deriving DecidableEq, Repr

namespace Failure

/-- A breakdown counts as a fault of the phase in which it happened. -/
def toFault (phase : Phase) : Failure → Fault
  | fault f => f
  | breakdown said => .phase phase (said.getD "panic")

def message (phase : Phase) (failure : Failure) : String := (failure.toFault phase).message

end Failure

structure Assignment where
  category : String
  program : String
  settings : Category
  configuration : Configuration
  directory : Path

/-- Work that may fail. What it did before it failed stays done. -/
abbrev Work (σ α : Type) := ExceptT Failure (StateM (World σ)) α

namespace Work

def on {σ α : Type} (work : Work σ α) (w : World σ) : Except Failure α × World σ := work.run.run w

def files {σ α : Type} (operation : FileSystem.Operation α) : Work σ α := do
  let w ← get
  match operation.on w.files with
  | (.ok a, files) =>
    set { w with files }
    return a
  | (.error fault, files) =>
    set { w with files }
    throw (.fault fault)

def print {σ : Type} (text : String) : Work σ Unit := modify fun w => w.display text

end Work

structure Stages (σ : Type) where
  instrument : Assignment → Work σ Path
  profile : Assignment → Path → Work σ Path
  evaluate : Assignment → Path → Path → Work σ Unit

end GuidedExploration
