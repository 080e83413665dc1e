import GuidedExploration.Cause
import GuidedExploration.Path

/-!
Faults: what ends an operation. Bad trace lines, missing statistics and unsuccessful engine runs
are no faults; they are results.
-/

set_option autoImplicit false

namespace GuidedExploration

inductive Phase where
  | instrument
  | profile
  | evaluate
  deriving DecidableEq, Repr

namespace Phase

def name : Phase → String
  | instrument => "instrument"
  | profile => "profile"
  | evaluate => "evaluate"

def ofName? (name : String) : Option Phase := [instrument, profile, evaluate].find? (·.name == name)

end Phase

inductive Fault where
  | io (path : Path) (cause : Cause)
  /-- With what a reader of JSON said about the file. The reader here says nothing. -/
  | json (path : Path) (words : Option String)
  | configuration (problem : String)
  | missingArtifact (path : Path)
  | emptyArtifact (path : Path)
  | phase (step : Phase) (problem : String)
  deriving DecidableEq, Repr

namespace Fault

def message : Fault → String
  | io path cause => s!"I/O error on {path.text}: {cause.message}"
  | json path none => s!"invalid JSON in {path.text}"
  | json path (some words) => s!"invalid JSON in {path.text}: {words}"
  | configuration problem => s!"invalid configuration: {problem}"
  | missingArtifact path => s!"missing artifact {path.text}"
  | emptyArtifact path => s!"empty artifact {path.text}"
  | phase step problem => s!"{step.name} phase failed: {problem}"

end Fault

end GuidedExploration
