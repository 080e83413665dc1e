import GuidedExploration.Proofs.Batch.Recording
import GuidedExploration.Proofs.Dict

/-!
What a batch does with its programs: one sound run for each program of the selected categories, in
order, each from the world that the run before it left.
-/

set_option autoImplicit false

namespace GuidedExploration

variable {σ : Type}

/-- The work on one program as it was seen: the calls that were made between two worlds. -/
structure ProgramRun (σ : Type) where
  assignment : Assignment
  before : World σ
  after : World σ
  calls : List StageCall
  outcome : ProgramOutcome

namespace ProgramRun

def directory (run : ProgramRun σ) : Except Cause Unit :=
  ((FileSystem.Action.makeDirectories run.assignment.directory).on run.before.files).1

def Complete (run : ProgramRun σ) : Prop :=
  run.calls.map StageCall.phase = [.instrument, .profile, .evaluate] ∧
    ∀ call ∈ run.calls, call.Succeeded

structure Sound (run : ProgramRun σ) : Prop where
  category : run.outcome.category = run.assignment.category
  program : run.outcome.program = run.assignment.program
  barred : ∀ cause, run.directory = .error cause →
    run.calls = [] ∧ run.outcome.failedPhase = some .instrument ∧
      run.outcome.error = some (Fault.io run.assignment.directory cause).message
  begun : run.directory = .ok () → ∃ result, Course run.assignment run.calls result ∧
    ∀ phase failure, result = .error (phase, failure) →
      run.outcome.failedPhase = some phase ∧ run.outcome.error = some (failure.message phase)
  status_iff : run.outcome.status = .success ↔ run.Complete
  failedPhase_iff : run.outcome.failedPhase = none ↔ run.Complete
  error_iff : run.outcome.error = none ↔ run.Complete

end ProgramRun

def Assignment.outcome (a : Assignment) : Except (Phase × Failure) Unit → ProgramOutcome
  | .ok () => .success a.category a.program
  | .error (phase, failure) => .failedIn phase a.category a.program (failure.message phase)

/-- Runs that follow one another from a world to another one. Between two of them text is shown and
nothing else happens. -/
inductive Consecutive : World σ → List (ProgramRun σ) → World σ → Prop
  | done (w : World σ) : Consecutive w [] w
  | next {w final : World σ} {run : ProgramRun σ} {runs : List (ProgramRun σ)}
      (opening closing : String) (before : run.before = w.display opening)
      (later : Consecutive (run.after.display closing) runs final) :
      Consecutive w (run :: runs) final

theorem Consecutive.append {w between final : World σ} {runs more : List (ProgramRun σ)}
    (first : Consecutive w runs between) (second : Consecutive between more final) :
    Consecutive w (runs ++ more) final := by
  induction first with
  | done => exact second
  | next opening closing before _ ih => exact .next opening closing before (ih second)

namespace Batch

end Batch

end GuidedExploration
