import GuidedExploration.Dict

/-!
Tables of default symbolic input. The first entry of a program counts; later ones are rejected and
reported.
-/

set_option autoImplicit false

namespace GuidedExploration

structure DuplicateDefault where
  program : String
  kept : String
  rejected : String
  deriving DecidableEq, Repr

structure DefaultsTable where
  inputs : Dict String String
  deriving DecidableEq

namespace DefaultsTable

def empty : DefaultsTable := ⟨.empty⟩

def get? (table : DefaultsTable) (program : String) : Option String := table.inputs.get? program

def size (table : DefaultsTable) : Nat := table.inputs.size

def isEmpty (table : DefaultsTable) : Bool := table.inputs.isEmpty

/-- Adds entries in order; what was rejected comes back in that order. -/
def extend (table : DefaultsTable) :
    List (String × String) → DefaultsTable × List DuplicateDefault
  | [] => (table, [])
  | (program, input) :: entries =>
    match table.get? program with
    | some kept =>
      let (table, duplicates) := table.extend entries
      (table, ⟨program, kept, input⟩ :: duplicates)
    | none => extend ⟨table.inputs.insert program input⟩ entries

def build (entries : List (String × String)) : DefaultsTable × List DuplicateDefault :=
  empty.extend entries

end DefaultsTable

end GuidedExploration
