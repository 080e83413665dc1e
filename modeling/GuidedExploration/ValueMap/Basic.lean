import GuidedExploration.ValueMap.Entry
import GuidedExploration.ValueMap.Key

/-!
Value maps: for each key the variables with few values there, and those values.
-/

set_option autoImplicit false

namespace GuidedExploration

abbrev VariableValues := Dict String (List ValueEntry)

structure ValueMap where
  entries : Dict MapKey VariableValues
  deriving DecidableEq

namespace ValueMap

def empty : ValueMap := ⟨.empty⟩

/-- Adds a key; a key without variables is not kept. -/
def insert (map : ValueMap) (key : MapKey) (listed : VariableValues) : ValueMap :=
  if listed.isEmpty then map else ⟨map.entries.insert key listed⟩

def insertAll (map : ValueMap) (found : Dict MapKey VariableValues) : ValueMap :=
  found.entries.foldl (fun map (key, listed) => map.insert key listed) map

def get? (map : ValueMap) (key : MapKey) : Option VariableValues := map.entries.get? key

def keys (map : ValueMap) : List MapKey := map.entries.keys

def size (map : ValueMap) : Nat := map.entries.size

def isEmpty (map : ValueMap) : Bool := map.entries.isEmpty

def variableCount (map : ValueMap) : Nat :=
  map.entries.values.foldl (fun n listed => n + listed.size) 0

end ValueMap

end GuidedExploration
