import GuidedExploration.Comparison.Record
import GuidedExploration.Comparison.Request
import GuidedExploration.Engine.Run

/-!
Running both variants of a program and comparing them. The two runs have sandboxes and output
directories of their own and only read what they share. They are under way together, and their steps
may come in any order; here they get ready side by side, the baseline first in each step.
-/

set_option autoImplicit false

namespace GuidedExploration

structure DualRun where
  host : Host
  engine : Engine
  request : DualRunRequest

namespace DualRun

def run (d : DualRun) (variant : Variant) : EngineRun where
  host := d.host
  engine := d.engine
  program := d.request.program
  invocation := d.request.invocation variant

/-- Where the two runs stand. -/
structure Progress where
  baseline : EngineRun.Stage := .reset
  profileGuided : EngineRun.Stage := .reset
  deriving DecidableEq

def step (d : DualRun) (variant : Variant) (p : Progress) (fs : FileSystem) :
    Progress × FileSystem :=
  match variant with
  | .baseline =>
    let (stage, fs) := (d.run .baseline).step p.baseline fs
    ({ p with baseline := stage }, fs)
  | .profileGuided =>
    let (stage, fs) := (d.run .profileGuided).step p.profileGuided fs
    ({ p with profileGuided := stage }, fs)

def follow (d : DualRun) : List Variant → Progress → FileSystem → Progress × FileSystem
  | [], p, fs => (p, fs)
  | variant :: order, p, fs =>
    let (p, fs) := d.step variant p fs
    follow d order p fs

def finish (d : DualRun) (p : Progress) (fs : FileSystem) : ComparisonRecord × FileSystem :=
  let (baseline, fs) := (d.run .baseline).finish p.baseline fs
  let (profileGuided, fs) := (d.run .profileGuided).finish p.profileGuided fs
  (.ofRuns d.request.program d.request.runId baseline profileGuided, fs)

def interleave (d : DualRun) (order : List Variant) (fs : FileSystem) :
    ComparisonRecord × FileSystem :=
  let (p, fs) := d.follow order {} fs
  d.finish p fs

def inTurn (d : DualRun) (fs : FileSystem) : ComparisonRecord × FileSystem := d.interleave [] fs

/-- The order in which the runs get ready: both clear their output directories away before either
makes its own again, and both have a sandbox before either starts the engine. -/
def preparation : List Variant :=
  (List.replicate 3 [Variant.baseline, Variant.profileGuided]).flatten

def compare (d : DualRun) (fs : FileSystem) : ComparisonRecord × FileSystem :=
  d.interleave preparation fs

end DualRun

end GuidedExploration
