import GuidedExploration.Json.Schema

/-!
Thresholds: how often a variable must be seen, and how few values it may have, to be listed in a
value map.
-/

set_option autoImplicit false

namespace GuidedExploration

structure Thresholds where
  minOccurrence : UInt64 := 3
  maxValues : UInt64 := 8
  includeBranchless : Bool := true
  deriving DecidableEq, Repr

namespace Thresholds

def fields : List String := ["min_occurrence", "max_values", "include_branchless"]

def toJson (t : Thresholds) : Json :=
  .record
    [("min_occurrence", .natural t.minOccurrence.toNat), ("max_values", .natural t.maxValues.toNat),
     ("include_branchless", .bool t.includeBranchless)]

def ofJson? (j : Json) : Option Thresholds := do
  let written ← j.fields? fields
  let usual : Thresholds := {}
  let minOccurrence ← Json.default? written "min_occurrence" usual.minOccurrence Json.uint64?
  let maxValues ← Json.default? written "max_values" usual.maxValues Json.uint64?
  let includeBranchless ←
    Json.default? written "include_branchless" usual.includeBranchless Json.bool?
  return { minOccurrence, maxValues, includeBranchless }

end Thresholds

end GuidedExploration
