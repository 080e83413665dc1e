import GuidedExploration.Proofs.Engine.Effects
import GuidedExploration.Proofs.Engine.Piecework

/-!
A whole run in one equation, and what its record says about how it came to its end. Runs that never
started, or were stopped, have exit codes of their own, which no process that ended has.
-/

set_option autoImplicit false

namespace GuidedExploration

open FileSystem

namespace Ending

/-- The exit code as it is known outside: that of the process, or its signal counted from 128. -/
def number : Ending → Nat
  | exited code => code.toNat
  | signalled signal => 128 + signal.toNat

theorem toInt_code (ending : Ending) : ending.code.toInt = ending.number := by
  cases ending with
  | exited code =>
    have small := code.toNat_lt
    exact Int32.toInt_ofNat_of_lt (by omega)
  | signalled signal =>
    have small := signal.toNat_lt
    exact Int32.toInt_ofNat_of_lt (by omega)

theorem code_ne {ending : Ending} {code : Int32} (below : code.toInt < 0) : ending.code ≠ code := by
  rintro rfl
  rw [toInt_code] at below
  omega

theorem code_eq_zero_iff (ending : Ending) : ending.code = 0 ↔ ending = .exited 0 := by
  rw [← Int32.toInt_inj, toInt_code]
  cases ending with
  | exited code => simp [number, ← UInt8.toNat_inj]
  | signalled signal => simp [number]; omega

end Ending

/-- The fields of a record fit together, and a run without results has none in it. -/
structure RunRecord.Consistent (record : RunRecord) (outputDirectory : Path) : Prop where
  outputDirectory : record.outputDirectory = outputDirectory
  success : record.success = true ↔ record.exitCode = 0
  timedOut : record.timedOut = true ↔ record.exitCode = RunRecord.timeoutCode
  noResults : record.exitCode = RunRecord.timeoutCode ∨ record.exitCode = RunRecord.notStartedCode →
    record.artifactCount = 0 ∧ record.statistics = .empty

theorem RunRecord.consistent_withoutResults (outputDirectory : Path) {exitCode : Int32}
    (failed : exitCode ≠ 0) (output : String) :
    (withoutResults outputDirectory exitCode output).Consistent outputDirectory where
  outputDirectory := rfl
  success := by simp [withoutResults, failed]
  timedOut := by simp [withoutResults]
  noResults := fun _ => ⟨rfl, rfl⟩

namespace EngineRun

inductive Upshot where
  | unprepared (cause : Cause)
  | unseeded (refusal : Sandbox.Refusal)
  | unstarted (cause : Cause)
  | started (fate : Fate)

def upshot (run : EngineRun) (fs : FileSystem) : Upshot :=
  match (resetDirectory run.outputDirectory).on fs with
  | (.error cause, _) => .unprepared cause
  | (.ok (), prepared) =>
    match run.createSandbox prepared with
    | (.error refusal, _) => .unseeded refusal
    | (.ok sandbox, seeded) =>
      if (run.command seeded sandbox).hasZero then .unstarted .nulInArgument
      else
        match ((run.host.launch (run.command seeded sandbox) run.engine.limit).on seeded).1 with
        | .error cause => .unstarted cause
        | .ok fate => .started fate

def report (run : EngineRun) (execution : Except Cause Execution) (left : FileSystem) : RunRecord :=
  match execution with
  | .error cause => run.notStarted cause.message
  | .ok .timedOut => run.timedOut
  | .ok (.ended ending output) =>
    run.ended ending output
      (Statistics.ofFile left (run.outputDirectory.child Statistics.fileName)).statistics
      (countTests left run.outputDirectory)

theorem finish_afterLaunch (run : EngineRun) (sandbox : Path) (execution : Except Cause Execution)
    (left : FileSystem) :
    run.finish (run.afterLaunch sandbox execution) left =
      (run.report execution left, run.removeSandbox sandbox left) := by
  have removed : ∀ record, run.finish (.removeSandbox sandbox record) left =
      (record, run.removeSandbox sandbox left) := by
    intro record
    rw [← finish_step, step, finish]
  rcases execution with cause | ⟨ending, output⟩ | _
  · exact removed _
  · rw [afterLaunch, ← finish_step, step, ← finish_step, step, removed]
    rfl
  · exact removed _

theorem finish_reset (run : EngineRun) (fs : FileSystem) :
    run.finish .reset fs =
      match (resetDirectory run.outputDirectory).on fs with
      | (.error cause, after) => (run.notStarted cause.message, after)
      | (.ok (), prepared) => run.finish .seed prepared := by
  rw [← finish_step, step, on_resetDirectory]
  rcases (clearDirectory run.outputDirectory).on fs with ⟨cause | ⟨⟩, between⟩
  · rw [finish]
  · dsimp only
    rw [← finish_step, step]
    rcases (Action.makeDirectories run.outputDirectory).on between with ⟨cause | ⟨⟩, prepared⟩
    · rw [finish]
    · rfl

theorem finish_seed (run : EngineRun) (fs : FileSystem) :
    run.finish .seed fs =
      match run.createSandbox fs with
      | (.error refusal, after) => (run.notStarted refusal.message, after)
      | (.ok sandbox, seeded) =>
        (run.report ((run.launchEngine sandbox).on seeded).1
            ((run.launchEngine sandbox).on seeded).2,
          run.removeSandbox sandbox ((run.launchEngine sandbox).on seeded).2) := by
  rw [← finish_step, step]
  rcases run.createSandbox fs with ⟨refusal | sandbox, seeded⟩
  · rw [finish]
  · dsimp only
    rw [← finish_step, step, finish_afterLaunch]

theorem perform_eq (run : EngineRun) (fs : FileSystem) :
    run.perform fs =
      match (resetDirectory run.outputDirectory).on fs with
      | (.error cause, after) => (run.notStarted cause.message, after)
      | (.ok (), prepared) =>
        match run.createSandbox prepared with
        | (.error refusal, after) => (run.notStarted refusal.message, after)
        | (.ok sandbox, seeded) =>
          (run.report ((run.launchEngine sandbox).on seeded).1
              ((run.launchEngine sandbox).on seeded).2,
            run.removeSandbox sandbox ((run.launchEngine sandbox).on seeded).2) := by
  rw [perform, finish_reset]
  rcases (resetDirectory run.outputDirectory).on fs with ⟨cause | ⟨⟩, prepared⟩
  · rfl
  · exact run.finish_seed prepared

theorem consistent_notStarted (run : EngineRun) (message : String) :
    (run.notStarted message).Consistent run.outputDirectory :=
  RunRecord.consistent_withoutResults _ (by decide) message

theorem consistent_report (run : EngineRun) (execution : Except Cause Execution)
    (left : FileSystem) : (run.report execution left).Consistent run.outputDirectory := by
  rcases execution with cause | ⟨ending, output⟩ | _
  · exact run.consistent_notStarted cause.message
  · have notStopped : ending.code ≠ RunRecord.timeoutCode := Ending.code_ne (by decide)
    have started : ending.code ≠ RunRecord.notStartedCode := Ending.code_ne (by decide)
    refine ⟨rfl, ?_, ?_, fun sentinel => ?_⟩
    · simp [report, ended, Ending.isSuccess, Ending.code_eq_zero_iff]
    · simp [report, ended, notStopped]
    · exact absurd sentinel (not_or.2 ⟨notStopped, started⟩)
  · exact RunRecord.consistent_withoutResults _ (by decide) _

theorem on_launchEngine (run : EngineRun) (sandbox : Path) (fs : FileSystem) :
    (run.launchEngine sandbox).on fs =
      let launched := (run.host.launch (run.command fs sandbox) run.engine.limit).on fs
      if (run.command fs sandbox).hasZero then (.error .nulInArgument, fs)
      else (launched.1.map Fate.execution, launched.2) := by
  rw [launchEngine, Action.on_bind, Action.on_get]
  exact Command.on_execute _ _ _ fs

/-- However a run ends, its record is consistent and its exit code tells how: of the process that
ended, or by one of two codes that no process has. -/
theorem perform_consistent (run : EngineRun) (fs : FileSystem) :
    (run.perform fs).1.Consistent run.invocation.outputDirectory ∧
    match run.upshot fs with
    | .unprepared _ | .unseeded _ | .unstarted _ => (run.perform fs).1.exitCode = -2
    | .started .stopped => (run.perform fs).1.exitCode = -1
    | .started (.ended ending _ _) =>
      (run.perform fs).1.exitCode.toInt = ending.number ∧
        (run.perform fs).1.exitCode ≠ -1 ∧ (run.perform fs).1.exitCode ≠ -2 := by
  rw [perform_eq, upshot]
  rcases (resetDirectory run.outputDirectory).on fs with ⟨cause | ⟨⟩, prepared⟩
  · exact ⟨run.consistent_notStarted _, rfl⟩
  dsimp only
  rcases run.createSandbox prepared with ⟨refusal | sandbox, seeded⟩
  · exact ⟨run.consistent_notStarted _, rfl⟩
  dsimp only
  refine ⟨run.consistent_report _ _, ?_⟩
  rw [on_launchEngine]
  dsimp only
  split_ifs
  · rfl
  · rcases ((run.host.launch _ run.engine.limit).on seeded).1 with
      cause | ⟨ending, output, errors⟩ | _
    · rfl
    · exact ⟨ending.toInt_code, Ending.code_ne (by decide), Ending.code_ne (by decide)⟩
    · rfl

end EngineRun

end GuidedExploration
