import GuidedExploration.Batch.Stages
import GuidedExploration.Configuration.Settings

/-!
Batches: the stages for every program of the selected categories. A program that fails is recorded,
and the batch goes on with the next one.
-/

set_option autoImplicit false

namespace GuidedExploration

structure Batch (σ : Type) where
  configuration : Configuration
  root : Path
  stages : Stages σ

namespace Batch

variable {σ : Type}

def assignment (b : Batch σ) (category : String) (settings : Category) (program : String) :
    Assignment where
  category
  program
  settings
  configuration := b.configuration
  directory := programDirectory b.root category program

def attempt (stages : Stages σ) (a : Assignment) (w : World σ) :
    Except (Phase × Failure) Unit × World σ :=
  match (stages.instrument a).on w with
  | (.error failure, w) => (.error (.instrument, failure), w)
  | (.ok artifact, w) =>
    match (stages.profile a artifact).on w with
    | (.error failure, w) => (.error (.profile, failure), w)
    | (.ok mapFile, w) =>
      match (stages.evaluate a artifact mapFile).on w with
      | (.error failure, w) => (.error (.evaluate, failure), w)
      | (.ok (), w) => (.ok (), w)

/-- The work on one program. Its directory is made first; if that fails, no stage is begun. -/
def process (b : Batch σ) (a : Assignment) (w : World σ) : ProgramOutcome × World σ :=
  match (FileSystem.Action.makeDirectories a.directory).on w.files with
  | (.error cause, files) =>
    (.failedIn .instrument a.category a.program (Fault.io a.directory cause).message,
      { w with files })
  | (.ok (), files) =>
    match attempt b.stages a { w with files } with
    | (.ok (), w) => (.success a.category a.program, w)
    | (.error (phase, failure), w) =>
      (.failedIn phase a.category a.program (failure.message phase), w)

def opening (a : Assignment) (place : Nat) : String :=
  let place := Text.natural place
  let total := Text.natural a.settings.programs.length
  s!"\n[{place}/{total}] Processing {a.program} from {a.category}\n"

def closing (o : ProgramOutcome) : String :=
  match o.error with
  | none => s!"[OK] {o.program}\n"
  | some reason => s!"[FAILED] {o.program}: {reason}\n"

def processShown (b : Batch σ) (a : Assignment) (place : Nat) (w : World σ) :
    ProgramOutcome × World σ :=
  let (outcome, w) := b.process a (w.display (opening a place))
  (outcome, w.display (closing outcome))

def runPrograms (b : Batch σ) (category : String) (settings : Category) :
    Nat → List String → World σ → List ProgramOutcome × World σ
  | _, [], w => ([], w)
  | place, program :: programs, w =>
    let (outcome, w) := b.processShown (b.assignment category settings program) place w
    let (outcomes, w) := runPrograms b category settings (place + 1) programs w
    (outcome :: outcomes, w)

/-- The categories in order; unknown ones are passed over. -/
def runCategories (b : Batch σ) : List String → World σ → List ProgramOutcome × World σ
  | [], w => ([], w)
  | category :: categories, w =>
    match b.configuration.category? category with
    | none => runCategories b categories w
    | some settings =>
      let (outcomes, w) := b.runPrograms category settings 1 settings.programs w
      let (more, w) := runCategories b categories w
      (outcomes ++ more, w)

/-- The categories that a selection means: all of them, if it is empty. -/
def selected (b : Batch σ) (selection : List String) : List String :=
  if selection.isEmpty then b.configuration.names else selection

def assignmentsOf (b : Batch σ) (categories : List String) : List Assignment :=
  categories.flatMap fun category =>
    match b.configuration.category? category with
    | none => []
    | some settings => settings.programs.map (b.assignment category settings)

def assignments (b : Batch σ) (selection : List String) : List Assignment :=
  b.assignmentsOf (b.selected selection)

def run (b : Batch σ) (selection : List String) (w : World σ) : List ProgramOutcome × World σ :=
  b.runCategories (b.selected selection) w

def resultsFile (b : Batch σ) (timestamp : String) : Path :=
  b.root.child s!"batch_results_{timestamp}.json"

/-- Works on every program of the selected categories and writes the outcomes to a file. Writing
that file is all that can fail. -/
def runAndSave (b : Batch σ) (selection : List String) (timestamp : String) (w : World σ) :
    Except Fault (List ProgramOutcome × Path) × World σ :=
  let (outcomes, w) := b.run selection w
  let file := b.resultsFile timestamp
  match (FileSystem.writeJson file (.array (outcomes.map ProgramOutcome.toJson))).on w.files with
  | (.ok (), files) => (.ok (outcomes, file), { w with files })
  | (.error fault, files) => (.error fault, { w with files })

end Batch

end GuidedExploration
