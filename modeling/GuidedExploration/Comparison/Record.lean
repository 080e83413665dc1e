import GuidedExploration.Comparison.Metric
import GuidedExploration.Engine.Record

/-!
The comparison of the two runs of a program: both records, and the outcome of each metric.
-/

set_option autoImplicit false

namespace GuidedExploration

structure ComparisonRecord where
  program : String
  runId : String
  baseline : RunRecord
  profileGuided : RunRecord
  metrics : List MetricComparison
  deriving BEq

namespace ComparisonRecord

def comparedMetrics : List String :=
  ["QueryTime", "SolverTime", "WallTime", "NumQueries", "NumStates", "NumInstructions"]

def ofRuns (program runId : String) (baseline profileGuided : RunRecord) : ComparisonRecord where
  program
  runId
  baseline
  profileGuided
  metrics := comparedMetrics.map fun metric =>
    ⟨metric, .compare metric baseline.statistics profileGuided.statistics⟩

def metric? (c : ComparisonRecord) (name : String) : Option MetricOutcome :=
  (c.metrics.find? fun comparison => comparison.metric == name).map MetricComparison.outcome

def improvement? (c : ComparisonRecord) (name : String) : Option Float :=
  (c.metric? name).bind MetricOutcome.percent?

def bothSucceeded (c : ComparisonRecord) : Bool := c.baseline.success && c.profileGuided.success

def fields : List String := ["program", "runId", "baseline", "profileGuided", "metrics"]

def toJson (c : ComparisonRecord) : Json :=
  .record
    [("program", .text c.program), ("runId", .text c.runId), ("baseline", c.baseline.toJson),
     ("profileGuided", c.profileGuided.toJson),
     ("metrics", .array (c.metrics.map MetricComparison.toJson))]

/-- Reads a comparison inside `outer` arrays and objects; its metrics lie two levels deeper. -/
def ofJsonWithin? (outer : Nat) (j : Json) : Option ComparisonRecord := do
  let written ← j.fields? fields
  let program ← Json.required? written "program" Json.text?
  let runId ← Json.required? written "runId" Json.text?
  let baseline ← Json.required? written "baseline" RunRecord.ofJson?
  let profileGuided ← Json.required? written "profileGuided" RunRecord.ofJson?
  let metrics ←
    Json.required? written "metrics" (Json.list? (MetricComparison.ofJson? (outer + 2)))
  return { program, runId, baseline, profileGuided, metrics }

def ofJson? (j : Json) : Option ComparisonRecord := ofJsonWithin? 0 j

end ComparisonRecord

end GuidedExploration
