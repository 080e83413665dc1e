import GuidedExploration.FileSystem.Operation
import GuidedExploration.Trace.File
import GuidedExploration.ValueMap.Json

/-!
Value map files, and making one from a trace file.
-/

set_option autoImplicit false

namespace GuidedExploration

namespace ValueMap

open FileSystem

def save (map : ValueMap) (p : Path) : Operation Unit := writeJson p map.toJson

def load (fs : FileSystem) (p : Path) : Except Fault ValueMap := readJson fs p ofJson?

structure Report where
  trace : Trace.Summary
  thresholds : Thresholds
  keys : Nat
  variableCount : Nat
  deriving DecidableEq, Repr

/-- What a map is made from. A trace that cannot be read counts as empty, whatever was read of it. -/
def ingredients (opened : Except Cause Source) : ObservationTable × Trace.Summary :=
  match ObservationTable.load opened with
  | .ok loaded => loaded
  | .error _ => (.empty, Trace.unreadable.summary)

/-- Makes a map file from a trace that was opened. Only writing the map can fail. -/
def generateFrom (opened : Except Cause Source) (out : Path) (thresholds : Thresholds) :
    Operation (ValueMap × Report) := do
  let (table, summary) := ingredients opened
  let map := table.buildMap thresholds
  map.save out
  return (map, {
    trace := summary
    thresholds
    keys := map.size
    variableCount := map.variableCount })

def generate (trace out : Path) (thresholds : Thresholds) : Operation (ValueMap × Report) := do
  generateFrom ((← get).source trace) out thresholds

end ValueMap

end GuidedExploration
