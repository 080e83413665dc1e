import GuidedExploration.Batch.Basic
import GuidedExploration.Batch.EngineStages
import GuidedExploration.CommandLine.Basic

/-!
The command that works on every program of the selected categories.
-/

set_option autoImplicit false

namespace GuidedExploration.CommandLine.BatchCommand

def grammar : Grammar where
  command := "run_batch"
  purpose := "Instrument-check, profile and evaluate every program of the selected categories"
  options :=
    [{ name := "config", taking := .path, purpose := "Category configuration file" },
     { name := "root", taking := .path
       purpose := "Artifacts root (defaults to $EVP_ROOT/evp_artifacts)" },
     { name := "engine", taking := .path
       purpose := "Engine binary (defaults to $KLEE_BIN, then `klee`)" },
     { name := "run-id", taking := .text
       purpose := "Run identifier shared by every program (defaults to a timestamp per program)" }]
  free := .anywhere

def configurationPath (given : Given) : Path :=
  (given.path? "config").getD ⟨"config/programs.json"⟩

def settings (session : Session) : EngineSettings :=
  EngineSettings.ofEnvironment session.environment

def engineStages (session : Session) (given : Given) : EngineStages where
  host := session.host
  engine := { program := (given.path? "engine").getD (settings session).engine }
  runId := fun _ => (given.value? "run-id").getD session.runStamp

def batch (session : Session) (given : Given) (configuration : Configuration) : Batch Unit where
  configuration
  root := (given.path? "root").getD (settings session).artifactsRoot
  stages := (engineStages session given).stages

def perform (session : Session) (given : Given) (files : FileSystem) : Leaving × FileSystem :=
  match Configuration.load files (configurationPath given) with
  | .error fault => (.failed "" "failed to load configuration" fault, files)
  | .ok configuration =>
    let batch := batch session given configuration
    match batch.runAndSave given.free session.batchStamp (.ofFiles files ()) with
    | (.error fault, w) => (.failed w.shown "failed to save batch results" fault, w.files)
    | (.ok (outcomes, file), w) =>
      (.done (w.shown ++ batchReport outcomes ++ s!"\n[SAVED] Results -> {file.text}\n"), w.files)

def run (session : Session) (arguments : List String) (files : FileSystem) :
    Leaving × FileSystem :=
  withArguments grammar arguments files (perform session)

end GuidedExploration.CommandLine.BatchCommand
