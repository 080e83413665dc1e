import GuidedExploration.CommandLine.Basic
import GuidedExploration.ValueMap.File

/-!
The command that makes a value map from a trace.
-/

set_option autoImplicit false

namespace GuidedExploration.CommandLine.MapCommand

def grammar : Grammar where
  command := "generate_limited_map"
  purpose := "Build the limited-valued map from an instrumented program's value trace"
  options :=
    [{ name := "log", taking := .path
       purpose := "Value trace written by the instrumented program" },
     { name := "out", taking := .path, purpose := "Output JSON map" },
     { name := "max-values", taking := .number
       purpose := "Max distinct values for a variable at a site to count as limited" },
     { name := "min-occurrence", taking := .number
       purpose := "Minimum times a variable must be observed at a site" },
     { name := "no-branchless", taking := .nothing
       purpose := "Do not emit branchless keys aggregated across branches" }]
  free := .never

def thresholds (given : Given) : Thresholds :=
  let usual : Thresholds := {}
  { minOccurrence := (given.number? "min-occurrence").getD usual.minOccurrence
    maxValues := (given.number? "max-values").getD usual.maxValues
    includeBranchless := !given.has "no-branchless" }

def traceNote (trace : Path) (summary : Trace.Summary) : String :=
  if summary.fileMissing then s!"Log file not found: {trace.text} (wrote empty map)\n"
  else if summary.readFailed then s!"Log file could not be read: {trace.text} (wrote empty map)\n"
  else ""

def summary (trace out : Path) (report : ValueMap.Report) : String :=
  let total := Text.natural report.trace.totalLines
  let good := Text.natural report.trace.accepted
  let malformed := Text.natural report.trace.malformed
  let negative := Text.natural report.trace.negativeBranch
  let keys := Text.natural report.keys
  let least := Text.natural report.thresholds.minOccurrence.toNat
  let most := Text.natural report.thresholds.maxValues.toNat
  let branchless := if report.thresholds.includeBranchless then "on" else "off"
  traceNote trace report.trace ++ s!"Done. Written limited-valued map to {out.text}\n" ++
    s!"   lines: total={total} good={good} malformed={malformed} skipped_neg_branch={negative}\n" ++
    s!"   entries: {keys}\n" ++
    s!"   thresholds: MIN_OCCURRENCE={least} MAX_LIMITED_VALUES={most} branchless={branchless}\n"

def tracePath (given : Given) : Path := (given.path? "log").getD ⟨"vase_value_log.txt"⟩

def outPath (given : Given) : Path := (given.path? "out").getD ⟨"limitedValuedMap.json"⟩

def perform (given : Given) (files : FileSystem) : Leaving × FileSystem :=
  let trace := tracePath given
  let out := outPath given
  match (ValueMap.generate trace out (thresholds given)).on files with
  | (.ok (_, report), files) => (.done (summary trace out report), files)
  | (.error fault, files) => (.failed "" s!"failed to write value map {out.text}" fault, files)

def run (arguments : List String) (files : FileSystem) : Leaving × FileSystem :=
  withArguments grammar arguments files perform

end GuidedExploration.CommandLine.MapCommand
