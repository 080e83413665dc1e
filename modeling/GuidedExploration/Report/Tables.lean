import GuidedExploration.Batch.Outcome
import GuidedExploration.Comparison.Record
import GuidedExploration.Decimal.Layout
import GuidedExploration.Report.Grid

/-!
The tables that are shown: one comparison, and the outcomes of a batch.
-/

set_option autoImplicit false

namespace GuidedExploration

namespace MetricOutcome

/-- A number in a table has as few digits as identify it, and no exponent. -/
def numberCell (x : Float) : String := String.ofList (Decimal.plain x)

def percentCell (x : Float) : String := String.ofList (Decimal.fixed 2 x ++ ['%'])

def cells : MetricOutcome → List String
  | improvement b p percent => [numberCell b, numberCell p, percentCell percent]
  | notApplicable b p => [numberCell b, numberCell p, "N/A"]
  | nonNumeric b p => [b, p, "-"]
  | baselineOnly value => [value, "-", "baseline only"]
  | profileGuidedOnly value => ["-", value, "profile-guided only"]
  | missing => ["-", "-", "-"]

end MetricOutcome

def RunRecord.cell (r : RunRecord) : String :=
  let tests := Text.natural r.artifactCount.toNat
  if r.timedOut then "timeout"
  else if r.success then s!"ok ({tests} tests)"
  else s!"exit {String.ofList (Text.integer r.exitCode.toInt)} ({tests} tests)"

namespace ComparisonRecord

def rows (c : ComparisonRecord) : List (List String) :=
  ["Metric", "Baseline", "Profile-guided", "Improvement"] ::
    ["Run", c.baseline.cell, c.profileGuided.cell, ""] ::
    c.metrics.map fun comparison => comparison.metric :: comparison.outcome.cells

def table (c : ComparisonRecord) : String := Grid.render (c.rows.map Grid.row)

def report (c : ComparisonRecord) : String :=
  s!"\nResults for {c.program} (run {c.runId}):\n{c.table}"

end ComparisonRecord

namespace ProgramOutcome

def cells (o : ProgramOutcome) : List String :=
  match o.status with
  | .success => [o.category, o.program, "success", ""]
  | .failed => [o.category, o.program, "failed", o.error.getD ""]

end ProgramOutcome

def countSucceeded (outcomes : List ProgramOutcome) : Nat :=
  outcomes.countP fun o => decide (o.status = .success)

def batchRows (outcomes : List ProgramOutcome) : List (List String) :=
  let total := Text.natural outcomes.length
  let succeeded := Text.natural (countSucceeded outcomes)
  let failed := Text.natural (outcomes.length - countSucceeded outcomes)
  ["Category", "Program", "Status", "Reason"] ::
    (outcomes.map ProgramOutcome.cells ++
      [["TOTAL", total, s!"{succeeded} succeeded", s!"{failed} failed"]])

def batchTable (outcomes : List ProgramOutcome) : String :=
  Grid.render ((batchRows outcomes).map Grid.row)

def batchReport (outcomes : List ProgramOutcome) : String :=
  s!"\nBatch summary:\n{batchTable outcomes}"

end GuidedExploration
