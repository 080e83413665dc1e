import GuidedExploration.CommandLine.BatchCommand
import GuidedExploration.CommandLine.DualCommand
import GuidedExploration.CommandLine.MapCommand

/-!
The commands together, each with the paths that it looks at, so that these can be read before the
command is run.
-/

set_option autoImplicit false

namespace GuidedExploration.CommandLine

structure Footprint where
  reads : List Path := []
  empties : List Path := []
  deriving DecidableEq, Repr

namespace Footprint

def append (a b : Footprint) : Footprint := ⟨a.reads ++ b.reads, a.empties ++ b.empties⟩

instance : Append Footprint := ⟨append⟩

def ofDualRun (dual : DualRun) : Footprint where
  reads :=
    [dual.engine.program, dual.request.artifact, dual.request.mapFile, dual.host.temporary] ++
      dual.request.environmentFile.toList
  empties := [.baseline, .profileGuided].map dual.request.outputDirectory

end Footprint

/-- A command with its arguments and its footprint. What is known of a configuration decides about
the footprint, so that it depends on the files that were read before. -/
structure Entry where
  grammar : Grammar
  footprint : Session → Given → FileSystem → Footprint
  run : Session → List String → FileSystem → Leaving × FileSystem

def mapEntry : Entry where
  grammar := MapCommand.grammar
  footprint := fun _ given _ => { reads := [MapCommand.tracePath given, MapCommand.outPath given] }
  run := fun _ => MapCommand.run

def dualEntry : Entry where
  grammar := DualCommand.grammar
  footprint := fun session given files =>
    let configuration := (DualCommand.configuration given files).toOption.bind id
    let dual := DualCommand.dualRun session given configuration
    { reads := (given.path? "config").toList ++ [DualCommand.resultsFile given] } ++
      Footprint.ofDualRun dual
  run := DualCommand.run

def assignmentFootprint (stages : EngineStages) (a : Assignment) : Footprint :=
  let artifact := EngineStages.artifact a
  let map := a.directory.child EngineStages.mapFile
  let commands := (a.settings.profileCommand.bind List.head?).toList
  { reads := a.directory.child EngineStages.traceFile :: EngineStages.optionalArtifacts a ++
      commands.map (fun word => a.directory.join ⟨EngineStages.substituted a.program word⟩) } ++
    Footprint.ofDualRun (stages.dualRun a artifact map)

def batchEntry : Entry where
  grammar := BatchCommand.grammar
  footprint := fun session given files =>
    let p := BatchCommand.configurationPath given
    let further : Footprint :=
      match Configuration.load files p with
      | .error _ => {}
      | .ok configuration =>
        let batch := BatchCommand.batch session given configuration
        let stages := BatchCommand.engineStages session given
        (batch.assignments given.free).foldl
          (fun footprint a => footprint ++ assignmentFootprint stages a) {}
    { reads := [p] } ++ further
  run := BatchCommand.run

def entries : List Entry := [mapEntry, dualEntry, batchEntry]

def entry? (command : String) : Option Entry :=
  entries.find? fun entry => entry.grammar.command == command

def usage : String :=
  "usage: guided-exploration COMMAND [ARGUMENT ...]\n\ncommands:\n" ++
    String.join (entries.map fun entry =>
      s!"  {entry.grammar.command}: {entry.grammar.purpose}\n")

def Entry.footprintOf (entry : Entry) (session : Session) (arguments : List String)
    (files : FileSystem) : Footprint :=
  match entry.grammar.read arguments with
  | .ok (.given given) => entry.footprint session given files
  | _ => {}

def stamp (mark : String) (date time : List Nat) : String :=
  let digits (parts : List Nat) : String :=
    String.join (parts.map fun n => (if n < 10 then "0" else "") ++ Text.natural n)
  digits date ++ mark ++ digits time

end GuidedExploration.CommandLine
