import GuidedExploration.Batch.Basic

/-!
The calls of stages that a batch makes, made visible: each recorded stage does what the stage does
and adds its call to a log. Recording changes nothing else in the work on a program.
-/

set_option autoImplicit false

namespace GuidedExploration

inductive StageCall where
  | instrument (a : Assignment) (result : Except Failure Path)
  | profile (a : Assignment) (artifact : Path) (result : Except Failure Path)
  | evaluate (a : Assignment) (artifact mapFile : Path) (result : Except Failure Unit)

namespace StageCall

def phase : StageCall → Phase
  | instrument _ _ => .instrument
  | profile _ _ _ => .profile
  | evaluate _ _ _ _ => .evaluate

def Succeeded : StageCall → Prop
  | instrument _ result => result.isOk
  | profile _ _ result => result.isOk
  | evaluate _ _ _ result => result.isOk

end StageCall

variable {σ : Type}

def World.withLog (w : World σ) (log : List StageCall) : World (σ × List StageCall) where
  files := w.files
  shown := w.shown
  memory := (w.memory, log)

/-- Work that adds its call to the log when it is over, however it ends. -/
def Work.recorded {α : Type} (work : Work σ α) (call : Except Failure α → StageCall) :
    Work (σ × List StageCall) α :=
  ExceptT.mk fun w =>
    let (result, after) := work.on { w with memory := w.memory.1 }
    (result, after.withLog (w.memory.2 ++ [call result]))

def Stages.recorded (stages : Stages σ) : Stages (σ × List StageCall) where
  instrument a := (stages.instrument a).recorded (.instrument a)
  profile a artifact := (stages.profile a artifact).recorded (.profile a artifact)
  evaluate a artifact mapFile := (stages.evaluate a artifact mapFile).recorded (.evaluate a artifact mapFile)

def Batch.recorded (b : Batch σ) : Batch (σ × List StageCall) :=
  { b with stages := b.stages.recorded }

/-- The calls on one program: a prefix of the three phases that stops at the first failure, each
call with what those before it gave. -/
inductive Course (a : Assignment) : List StageCall → Except (Phase × Failure) Unit → Prop
  | uninstrumented (failure : Failure) :
      Course a [.instrument a (.error failure)] (.error (.instrument, failure))
  | unprofiled (artifact : Path) (failure : Failure) :
      Course a [.instrument a (.ok artifact), .profile a artifact (.error failure)]
        (.error (.profile, failure))
  | unevaluated (artifact mapFile : Path) (failure : Failure) :
      Course a
        [.instrument a (.ok artifact), .profile a artifact (.ok mapFile),
          .evaluate a artifact mapFile (.error failure)]
        (.error (.evaluate, failure))
  | complete (artifact mapFile : Path) :
      Course a
        [.instrument a (.ok artifact), .profile a artifact (.ok mapFile),
          .evaluate a artifact mapFile (.ok ())]
        (.ok ())

namespace Batch

end Batch

end GuidedExploration
