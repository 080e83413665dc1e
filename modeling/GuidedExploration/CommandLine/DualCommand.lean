import GuidedExploration.CommandLine.Basic
import GuidedExploration.Comparison.DualRun
import GuidedExploration.Configuration.Settings
import GuidedExploration.Report.Records
import GuidedExploration.Report.Tables

/-!
The command that runs both variants of one program and compares them.
-/

set_option autoImplicit false

namespace GuidedExploration.CommandLine.DualCommand

def grammar : Grammar where
  command := "run_dual"
  purpose := "Run the baseline and profile-guided engine on one program and compare them"
  options :=
    [{ name := "program", taking := .text, required := true
       purpose := "Program under test (selects the symbolic-input fragment)" },
     { name := "artifact", taking := .path, required := true, purpose := "Engine input artifact" },
     { name := "map", taking := .path, required := true
       purpose := "Limited-valued map for the profile-guided run" },
     { name := "engine", taking := .path
       purpose := "Engine binary (defaults to $KLEE_BIN, then `klee`)" },
     { name := "category", taking := .text, purpose := "Category whose configuration applies" },
     { name := "config", taking := .path, purpose := "Category configuration file" },
     { name := "run-id", taking := .text, purpose := "Run identifier (defaults to a timestamp)" },
     { name := "env-file", taking := .path, purpose := "Environment file passed to the engine" },
     { name := "results", taking := .path
       purpose := "JSON array the comparison record is appended to" }]
  free := .behindDashes

def configuration (given : Given) (files : FileSystem) : Except Fault (Option Configuration) :=
  match given.path? "config" with
  | none => .ok none
  | some p => (Configuration.load files p).map some

def request (session : Session) (given : Given) (configuration : Option Configuration) :
    DualRunRequest :=
  let request : DualRunRequest :=
    .forProgram ((given.value? "program").getD "") (given.value? "category") configuration
      ((given.path? "artifact").getD .here) ((given.path? "map").getD .here)
      ((given.value? "run-id").getD session.runStamp)
  { request with
    extraArguments := request.extraArguments ++ given.free
    environmentFile := given.path? "env-file" <|> request.environmentFile }

def engine (session : Session) (given : Given) : Engine where
  program := (given.path? "engine").getD (EngineSettings.ofEnvironment session.environment).engine

def dualRun (session : Session) (given : Given) (configuration : Option Configuration) :
    DualRun where
  host := session.host
  engine := engine session given
  request := request session given configuration

def resultsFile (given : Given) : Path :=
  (given.path? "results").getD ⟨"comparison_results.json"⟩

def recordFile (request : DualRunRequest) : Path :=
  request.artifactDirectory.child s!"comparison-{request.runId}.json"

/-- Writes the record of a comparison and adds it to the results; tells what could not be done. -/
def save (record results : Path) (comparison : ComparisonRecord) (files : FileSystem) :
    Except (String × Fault) Unit × FileSystem :=
  match (FileSystem.writeJson record comparison.toJson).on files with
  | (.error fault, files) => (.error (s!"failed to write {record.text}", fault), files)
  | (.ok (), files) =>
    match (Records.appendComparison comparison results).on files with
    | (.error fault, files) => (.error (s!"failed to append to {results.text}", fault), files)
    | (.ok (), files) => (.ok (), files)

def perform (session : Session) (given : Given) (files : FileSystem) : Leaving × FileSystem :=
  match configuration given files with
  | .error fault => (.failed "" "failed to load configuration" fault, files)
  | .ok configuration =>
    let dual := dualRun session given configuration
    let (comparison, files) := dual.compare files
    let record := recordFile dual.request
    match save record (resultsFile given) comparison files with
    | (.error (context, fault), files) => (.failed comparison.report context fault, files)
    | (.ok (), files) => (.done (comparison.report ++ s!"\n[SAVED] {record.text}\n"), files)

def run (session : Session) (arguments : List String) (files : FileSystem) :
    Leaving × FileSystem :=
  withArguments grammar arguments files (perform session)

end GuidedExploration.CommandLine.DualCommand
