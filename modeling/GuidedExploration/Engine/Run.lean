import GuidedExploration.Engine.Invocation
import GuidedExploration.Engine.Record
import GuidedExploration.Engine.Sandbox
import GuidedExploration.Process.Command

/-!
One engine run, as steps on the file system: clear the output directory away, make it anew, make a
sandbox, let the engine work, read its statistics, count its tests, remove the sandbox. Whatever goes
wrong on the way ends in a record, not in a fault.
-/

set_option autoImplicit false

namespace GuidedExploration

open FileSystem

structure Host where
  launch : Launcher
  temporary : Path
  /-- Endings for the names of a variant's sandboxes, to be tried in turn. -/
  suffixes : Variant → List String
  /-- What of a sandbox cannot be removed, as long as the engine has not been started in it. -/
  stuck : Path → Sandbox.Stuck := fun _ _ => []
  /-- What of a sandbox cannot be removed once it has. An engine may withdraw permissions, which do
  not show in a file system. -/
  stuckAfter : Path → Sandbox.Stuck := fun _ _ => []

/-- The engine, and the milliseconds that it is given. -/
structure Engine where
  program : Path
  limit : Nat := 30 * 60 * 1000
  deriving DecidableEq, Repr

structure EngineRun where
  host : Host
  engine : Engine
  program : String
  invocation : Invocation

namespace EngineRun

inductive Stage where
  | reset
  | make
  | seed
  | launch (sandbox : Path)
  | readStatistics (sandbox : Path) (ending : Ending) (output : String)
  | countTests (sandbox : Path) (ending : Ending) (output : String) (statistics : Statistics)
  | removeSandbox (sandbox : Path) (record : RunRecord)
  | done (record : RunRecord)
  deriving DecidableEq

def clearDirectory (p : Path) : Action Unit := do
  if (← get).exists? p then Action.removeDirectory p

def resetDirectory (p : Path) : Action Unit := do
  clearDirectory p
  Action.makeDirectories p

def outputDirectory (run : EngineRun) : Path := run.invocation.outputDirectory

/-- The record of a run in which the engine was never started. -/
def notStarted (run : EngineRun) (message : String) : RunRecord :=
  .withoutResults run.outputDirectory RunRecord.notStartedCode message

def timedOut (run : EngineRun) : RunRecord :=
  .withoutResults run.outputDirectory RunRecord.timeoutCode
    s!"engine execution timed out after {Command.seconds run.engine.limit}s"

def ended (run : EngineRun) (ending : Ending) (output : String) (statistics : Statistics)
    (tests : Nat) : RunRecord where
  success := ending.isSuccess
  exitCode := ending.code
  outputDirectory := run.outputDirectory
  artifactCount := UInt64.ofNat tests
  statistics
  output
  timedOut := false

def createSandbox (run : EngineRun) (fs : FileSystem) :
    Except Sandbox.Refusal Path × FileSystem :=
  Sandbox.create run.host.stuck run.host.temporary run.program
    (run.host.suffixes run.invocation.variant) fs

def removeSandbox (run : EngineRun) (sandbox : Path) (fs : FileSystem) : FileSystem :=
  Sandbox.remove (run.host.stuckAfter sandbox) sandbox fs

def command (run : EngineRun) (fs : FileSystem) (sandbox : Path) : Command where
  program := run.engine.program.text
  arguments := run.invocation.arguments fs sandbox

def launchEngine (run : EngineRun) (sandbox : Path) : Action Execution := do
  Command.execute run.host.launch (run.command (← get) sandbox) run.engine.limit

def afterLaunch (run : EngineRun) (sandbox : Path) : Except Cause Execution → Stage
  | .error cause => .removeSandbox sandbox (run.notStarted cause.message)
  | .ok .timedOut => .removeSandbox sandbox run.timedOut
  | .ok (.ended ending output) => .readStatistics sandbox ending output

def step (run : EngineRun) (stage : Stage) (fs : FileSystem) : Stage × FileSystem :=
  match stage with
  | .reset =>
    match (clearDirectory run.outputDirectory).on fs with
    | (.ok (), fs) => (.make, fs)
    | (.error cause, fs) => (.done (run.notStarted cause.message), fs)
  | .make =>
    match (Action.makeDirectories run.outputDirectory).on fs with
    | (.ok (), fs) => (.seed, fs)
    | (.error cause, fs) => (.done (run.notStarted cause.message), fs)
  | .seed =>
    match run.createSandbox fs with
    | (.ok sandbox, fs) => (.launch sandbox, fs)
    | (.error refusal, fs) => (.done (run.notStarted refusal.message), fs)
  | .launch sandbox =>
    let (execution, fs) := (run.launchEngine sandbox).on fs
    (run.afterLaunch sandbox execution, fs)
  | .readStatistics sandbox ending output =>
    let reading := Statistics.ofFile fs (run.outputDirectory.child Statistics.fileName)
    (.countTests sandbox ending output reading.statistics, fs)
  | .countTests sandbox ending output statistics =>
    (.removeSandbox sandbox
      (run.ended ending output statistics (countTests fs run.outputDirectory)), fs)
  | .removeSandbox sandbox record => (.done record, run.removeSandbox sandbox fs)
  | .done record => (.done record, fs)

namespace Stage

def toGo : Stage → Nat
  | reset => 7
  | make => 6
  | seed => 5
  | launch _ => 4
  | readStatistics _ _ _ => 3
  | countTests _ _ _ _ => 2
  | removeSandbox _ _ => 1
  | done _ => 0

end Stage

theorem toGo_afterLaunch (run : EngineRun) (sandbox : Path) (execution : Except Cause Execution) :
    (run.afterLaunch sandbox execution).toGo < 4 := by
  unfold afterLaunch
  split <;> simp [Stage.toGo]

theorem toGo_step (run : EngineRun) (stage : Stage) (fs : FileSystem) (h : stage.toGo ≠ 0) :
    (run.step stage fs).1.toGo < stage.toGo := by
  cases stage with
  | reset => simp only [step]; split <;> simp [Stage.toGo]
  | make => simp only [step]; split <;> simp [Stage.toGo]
  | seed => simp only [step]; split <;> simp [Stage.toGo]
  | launch sandbox => exact toGo_afterLaunch run sandbox _
  | readStatistics => simp [step, Stage.toGo]
  | countTests => simp [step, Stage.toGo]
  | removeSandbox => simp [step, Stage.toGo]
  | done => exact absurd rfl h

def finish (run : EngineRun) (stage : Stage) (fs : FileSystem) : RunRecord × FileSystem :=
  match _h : stage with
  | .done record => (record, fs)
  | .reset | .make | .seed | .launch _ | .readStatistics _ _ _ | .countTests _ _ _ _
  | .removeSandbox _ _ =>
    let next := run.step stage fs
    finish run next.1 next.2
termination_by stage.toGo
decreasing_by
  all_goals
    subst _h
    exact toGo_step _ _ _ (by simp [Stage.toGo])

def perform (run : EngineRun) (fs : FileSystem) : RunRecord × FileSystem := run.finish .reset fs

end EngineRun

end GuidedExploration
