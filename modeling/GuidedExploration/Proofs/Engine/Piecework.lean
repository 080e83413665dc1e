import GuidedExploration.Engine.Run
import GuidedExploration.Proofs.FileSystem.Actions

/-!
Engine runs at a finer grain: an engine whose work comes in pieces, between any two of which
something else may happen to the files. Taking the pieces one by one comes to the same as a run
that waits for the engine.
-/

set_option autoImplicit false

namespace GuidedExploration

open FileSystem

variable {σ : Type}

/-- An engine that works in pieces; `σ` is what it keeps in mind from one to the next. -/
structure Worker (σ : Type) where
  start : Nat → σ
  pieces : Nat → Nat
  piece : Command → σ → Action (σ ⊕ Fate)

namespace Worker

def work (w : Worker σ) (command : Command) : Nat → σ → Action Fate
  | 0, _ => return .stopped
  | left + 1, state => do
    match ← w.piece command state with
    | .inl state => work w command left state
    | .inr fate => return fate

def launcher (w : Worker σ) : Launcher := fun command limit =>
  w.work command (w.pieces limit) (w.start limit)

theorem on_work (w : Worker σ) (command : Command) (left : Nat) (state : σ) (fs : FileSystem) :
    (w.work command (left + 1) state).on fs =
      match (w.piece command state).on fs with
      | (.ok (.inl state), after) => (w.work command left state).on after
      | (.ok (.inr fate), after) => (.ok fate, after)
      | (.error cause, after) => (.error cause, after) := by
  rw [work, Action.on_bind]
  rcases (w.piece command state).on fs with ⟨_ | _ | _, after⟩ <;> rfl

end Worker

def Fate.execution : Fate → Execution
  | .ended ending output errors =>
    .ended ending (String.ofList (Text.Utf8.decodeLossy output ++ Text.Utf8.decodeLossy errors))
  | .stopped => .timedOut

theorem Command.on_execute (launch : Launcher) (command : Command) (limit : Nat)
    (fs : FileSystem) :
    (command.execute launch limit).on fs =
      if command.hasZero then (.error .nulInArgument, fs)
      else (((launch command limit).on fs).1.map Fate.execution, ((launch command limit).on fs).2) := by
  rw [execute]
  split_ifs
  · rfl
  · rw [Action.on_bind]
    rcases (launch command limit).on fs with ⟨cause | fate, after⟩
    · rfl
    · cases fate <;> rfl

namespace EngineRun

/-- Where a run stands, or, while the engine is at work, how far that has come. -/
inductive Activity (σ : Type) where
  | standing (stage : Stage)
  | working (sandbox : Path) (command : Command) (left : Nat) (state : σ)

namespace Activity

def toGo (pieces : Nat) : Activity σ → Nat
  | standing .reset => pieces + 8
  | standing .make => pieces + 7
  | standing .seed => pieces + 6
  | standing (.launch _) => pieces + 5
  | working _ _ left _ => left + 4
  | standing stage => stage.toGo

end Activity

def commandWith (run : EngineRun) (environment : Option Path) (sandbox : Path) : Command where
  program := run.engine.program.text
  arguments := run.invocation.argumentsWith environment sandbox

/-- Starts the engine, unless the command cannot even be written down. -/
def begin (run : EngineRun) (w : Worker σ) (sandbox : Path) (environment : Option Path) :
    Activity σ :=
  if (run.commandWith environment sandbox).hasZero then
    .standing (run.afterLaunch sandbox (.error .nulInArgument))
  else
    .working sandbox (run.commandWith environment sandbox) (w.pieces run.engine.limit)
      (w.start run.engine.limit)

def afterPiece (run : EngineRun) (sandbox : Path) (command : Command) (left : Nat) :
    Except Cause (σ ⊕ Fate) → Activity σ
  | .ok (.inl state) => .working sandbox command left state
  | .ok (.inr fate) => .standing (run.afterLaunch sandbox (.ok fate.execution))
  | .error cause => .standing (run.afterLaunch sandbox (.error cause))

def act (run : EngineRun) (w : Worker σ) : Activity σ → FileSystem → Activity σ × FileSystem
  | .standing (.launch sandbox), fs =>
    (run.begin w sandbox (run.invocation.presentEnvironment fs), fs)
  | .standing stage, fs => (.standing (run.step stage fs).1, (run.step stage fs).2)
  | .working sandbox _ 0 _, fs => (.standing (run.afterLaunch sandbox (.ok .timedOut)), fs)
  | .working sandbox command (left + 1) state, fs =>
    (run.afterPiece sandbox command left ((w.piece command state).on fs).1,
      ((w.piece command state).on fs).2)

def conclude (run : EngineRun) (w : Worker σ) : Activity σ → FileSystem → RunRecord × FileSystem
  | .standing stage, fs => run.finish stage fs
  | .working sandbox command left state, fs =>
    let (fate, after) := (w.work command left state).on fs
    run.finish (run.afterLaunch sandbox (fate.map Fate.execution)) after

def afterReset (run : EngineRun) : Except Cause Unit → Stage
  | .ok () => .make
  | .error cause => .done (run.notStarted cause.message)

def afterMake (run : EngineRun) : Except Cause Unit → Stage
  | .ok () => .seed
  | .error cause => .done (run.notStarted cause.message)

def afterSeed (run : EngineRun) : Except Sandbox.Refusal Path → Stage
  | .ok sandbox => .launch sandbox
  | .error refusal => .done (run.notStarted refusal.message)

theorem act_reset (run : EngineRun) (w : Worker σ) :
    run.act w (.standing .reset) = fun fs =>
      (.standing (run.afterReset ((clearDirectory run.outputDirectory).on fs).1),
        ((clearDirectory run.outputDirectory).on fs).2) := by
  funext fs
  simp only [act, step]
  rcases (clearDirectory run.outputDirectory).on fs with ⟨_ | ⟨⟩, after⟩ <;> rfl

theorem act_make (run : EngineRun) (w : Worker σ) :
    run.act w (.standing .make) = fun fs =>
      (.standing (run.afterMake ((Action.makeDirectories run.outputDirectory).on fs).1),
        ((Action.makeDirectories run.outputDirectory).on fs).2) := by
  funext fs
  simp only [act, step]
  rcases (Action.makeDirectories run.outputDirectory).on fs with ⟨_ | ⟨⟩, after⟩ <;> rfl

theorem act_seed (run : EngineRun) (w : Worker σ) :
    run.act w (.standing .seed) = fun fs =>
      (.standing (run.afterSeed (run.createSandbox fs).1), (run.createSandbox fs).2) := by
  funext fs
  simp only [act, step]
  rcases run.createSandbox fs with ⟨_ | _, after⟩ <;> rfl

theorem finish_step (run : EngineRun) (stage : Stage) (fs : FileSystem) :
    run.finish (run.step stage fs).1 (run.step stage fs).2 = run.finish stage fs := by
  cases stage with
  | done record => rfl
  | _ =>
    conv => rhs; rw [finish]

theorem step_launch {run : EngineRun} {w : Worker σ} (paced : run.host.launch = w.launcher)
    (sandbox : Path) (fs : FileSystem) :
    run.step (.launch sandbox) fs =
      let command := run.commandWith (run.invocation.presentEnvironment fs) sandbox
      if command.hasZero then (run.afterLaunch sandbox (.error .nulInArgument), fs)
      else
        let worked := (w.work command (w.pieces run.engine.limit) (w.start run.engine.limit)).on fs
        (run.afterLaunch sandbox (worked.1.map Fate.execution), worked.2) := by
  rw [step, launchEngine, Action.on_bind, Action.on_get]
  dsimp only
  have told : run.command fs sandbox =
      run.commandWith (run.invocation.presentEnvironment fs) sandbox := rfl
  rw [Command.on_execute, paced, told]
  split_ifs
  · rfl
  · rfl

theorem conclude_act {run : EngineRun} {w : Worker σ} (paced : run.host.launch = w.launcher)
    (a : Activity σ) (fs : FileSystem) :
    run.conclude w (run.act w a fs).1 (run.act w a fs).2 = run.conclude w a fs := by
  cases a with
  | standing stage =>
    cases stage with
    | launch sandbox =>
      rw [conclude, ← finish_step, step_launch paced, act, begin]
      dsimp only
      split_ifs
      · rfl
      · rfl
    | _ => exact finish_step run _ fs
  | working sandbox command left state =>
    cases left with
    | zero => rfl
    | succ left =>
      rw [act, conclude, Worker.on_work]
      rcases (w.piece command state).on fs with ⟨_ | _ | _, after⟩ <;> rfl

theorem conclude_done (run : EngineRun) (w : Worker σ) (record : RunRecord) (fs : FileSystem) :
    run.conclude w (.standing (.done record)) fs = (record, fs) := by
  rw [conclude, finish]

theorem toGo_afterLaunch_le (run : EngineRun) (pieces : Nat) (sandbox : Path)
    (execution : Except Cause Execution) :
    (Activity.standing (run.afterLaunch sandbox execution) : Activity σ).toGo pieces ≤ 3 := by
  unfold afterLaunch
  split <;> simp [Activity.toGo, Stage.toGo]

theorem toGo_act (run : EngineRun) (w : Worker σ) {a : Activity σ}
    (unfinished : a.toGo (w.pieces run.engine.limit) ≠ 0) (fs : FileSystem) :
    (run.act w a fs).1.toGo (w.pieces run.engine.limit) < a.toGo (w.pieces run.engine.limit) := by
  cases a with
  | standing stage =>
    cases stage with
    | reset =>
      simp only [act, step]
      split <;> simp [Activity.toGo, Stage.toGo]
    | make =>
      simp only [act, step]
      split <;> simp [Activity.toGo, Stage.toGo]
    | seed =>
      simp only [act, step]
      split <;> simp [Activity.toGo, Stage.toGo]
    | launch sandbox =>
      rw [act, begin]
      split_ifs
      · exact Nat.lt_of_le_of_lt (toGo_afterLaunch_le run _ sandbox _) (by simp [Activity.toGo])
      · simp [Activity.toGo]
    | readStatistics => simp [act, step, Activity.toGo, Stage.toGo]
    | countTests => simp [act, step, Activity.toGo, Stage.toGo]
    | removeSandbox => simp [act, step, Activity.toGo, Stage.toGo]
    | done => exact absurd rfl unfinished
  | working sandbox command left state =>
    have ended : ∀ execution,
        (Activity.standing (run.afterLaunch sandbox execution) : Activity σ).toGo
          (w.pieces run.engine.limit) < left + 4 := fun execution =>
      Nat.lt_of_le_of_lt (toGo_afterLaunch_le run _ sandbox execution) (by omega)
    cases left with
    | zero => exact ended _
    | succ left =>
      rw [act]
      rcases (w.piece command state).on fs with ⟨_ | _ | _, after⟩
      · exact ended _
      · simp [afterPiece, Activity.toGo]
      · exact ended _

theorem eq_done_of_toGo {pieces : Nat} {a : Activity σ} (finished : a.toGo pieces = 0) :
    ∃ record, a = .standing (.done record) := by
  cases a with
  | standing stage => cases stage <;> simp [Activity.toGo, Stage.toGo] at finished ⊢
  | working => simp [Activity.toGo] at finished

theorem toGo_act_le (run : EngineRun) (w : Worker σ) (a : Activity σ) (fs : FileSystem) :
    (run.act w a fs).1.toGo (w.pieces run.engine.limit) ≤
      a.toGo (w.pieces run.engine.limit) - 1 := by
  by_cases finished : a.toGo (w.pieces run.engine.limit) = 0
  · obtain ⟨record, rfl⟩ := eq_done_of_toGo finished
    exact Nat.le_refl _
  · have nearer := toGo_act run w finished fs
    omega

end EngineRun

end GuidedExploration
