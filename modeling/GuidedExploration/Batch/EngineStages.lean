import GuidedExploration.Batch.Stages
import GuidedExploration.Comparison.DualRun
import GuidedExploration.Report.Tables
import GuidedExploration.ValueMap.File

/-!
The stages with prebuilt artifacts, a profiling command and the engine.
-/

set_option autoImplicit false

namespace GuidedExploration

structure EngineStages where
  host : Host
  engine : Engine
  runId : Assignment → String
  profileLimit : Nat := 10 * 60 * 1000

namespace EngineStages

def traceFile : String := "vase_value_log.txt"

def mapFile : String := "limitedValuedMap.json"

/-- What is wrong with an artifact. A directory is never empty. -/
def artifactFault? (fs : FileSystem) (p : Path) : Option Fault :=
  match fs.lookup p with
  | .error _ => some (.missingArtifact p)
  | .ok (.file contents _) => if contents.isEmpty then some (.emptyArtifact p) else none
  | .ok .directory => none

def artifact (a : Assignment) : Path := a.directory.child s!"{a.program}.base.bc"

/-- Further artifacts, which need not be there. -/
def optionalArtifacts (a : Assignment) : List Path :=
  [a.directory.child s!"{a.program}.evpinstr.bc", a.directory.child s!"{a.program}_final.bc",
   a.directory.child s!"{a.program}_final_exe"]

def requiredArtifacts (fs : FileSystem) (a : Assignment) : List Path :=
  artifact a :: (optionalArtifacts a).filter fs.exists?

/-- Checks the artifacts; they are made elsewhere. -/
def instrument {σ : Type} (a : Assignment) : Work σ Path := do
  let files := (← get).files
  match (requiredArtifacts files a).findSome? (artifactFault? files) with
  | some fault => throw (.fault fault)
  | none => return artifact a

def substituted (program word : String) : String :=
  String.ofList (Text.replaceAll "\x7bprogram\x7d".toList program.toList word.toList)

/-- The profiling command of a program. It is told where to write its trace. -/
def profileCommand (a : Assignment) (exe : String) (arguments : List String) : Command where
  program := exe
  arguments
  directory := some a.directory
  environment := [("VASE_LOG", (a.directory.child traceFile).text), ("VASE_DIR", a.directory.text)]

/-- Runs the profiling command. It may fail, but it has to start and to end in time. -/
def runProfiling {σ : Type} (s : EngineStages) (a : Assignment) (words : List String) :
    Work σ Unit := do
  match words.map (substituted a.program) with
  | [] => throw (.fault (CategoryFlaw.emptyProfileCommand.fault a.category))
  | exe :: arguments =>
    let action := Command.execute s.host.launch (profileCommand a exe arguments) s.profileLimit
    match ← Work.files (action.at ⟨exe⟩) with
    | .ended _ _ => return
    | .timedOut =>
      throw (.fault (.phase .profile
        s!"profiling command timed out after {Command.seconds s.profileLimit}s"))

def mapMessage (p : Path) (report : ValueMap.Report) : String :=
  let keys := Text.natural report.keys
  let total := Text.natural report.trace.totalLines
  let good := Text.natural report.trace.accepted
  let malformed := Text.natural report.trace.malformed
  let negative := Text.natural report.trace.negativeBranch
  s!"[OK] Generated map -> {p.text} ({keys} keys, lines: total={total} good={good} " ++
    s!"malformed={malformed} skipped_neg_branch={negative})\n"

def profile {σ : Type} (s : EngineStages) (a : Assignment) : Work σ Path := do
  match a.settings.profileCommand with
  | none => pure ()
  | some words => s.runProfiling a words
  let map := a.directory.child mapFile
  let (_, report) ←
    Work.files (ValueMap.generate (a.directory.child traceFile) map a.settings.thresholds)
  Work.print (mapMessage map report)
  return map

def dualRun (s : EngineStages) (a : Assignment) (artifact map : Path) : DualRun where
  host := s.host
  engine := s.engine
  request := .forProgram a.program (some a.category) (some a.configuration) artifact map (s.runId a)

def evaluate {σ : Type} (s : EngineStages) (a : Assignment) (artifact map : Path) :
    Work σ Unit := do
  let w ← get
  let (comparison, files) := (s.dualRun a artifact map).compare w.files
  set { w with files }
  Work.print comparison.report
  Work.files (FileSystem.writeJson
    (a.directory.child s!"comparison-{comparison.runId}.json") comparison.toJson)

def stages {σ : Type} (s : EngineStages) : Stages σ where
  instrument := instrument
  profile := fun a _ => s.profile a
  evaluate := s.evaluate

end EngineStages

end GuidedExploration
