import GuidedExploration.Engine.Invocation
import GuidedExploration.SymbolicInput.Resolution

/-!
A request to run both variants of a program. Each variant has an output directory of its own
beside the artifact, named for the variant and the run.
-/

set_option autoImplicit false

namespace GuidedExploration

structure DualRunRequest where
  program : String
  runId : String
  artifact : Path
  mapFile : Path
  symbolicInput : List String
  extraArguments : List String
  environmentFile : Option Path
  deriving DecidableEq, Repr

namespace DualRunRequest

def forProgram (program : String) (category : Option String)
    (configuration : Option Configuration) (artifact mapFile : Path) (runId : String) :
    DualRunRequest :=
  let options := SymbolicInput.optionsOf? category configuration
  { program
    runId
    artifact
    mapFile
    symbolicInput := SymbolicInput.arguments program category configuration
    extraArguments := (options.map EngineOptions.extraArguments).getD []
    environmentFile := options.bind EngineOptions.environmentFile }

def artifactDirectory (r : DualRunRequest) : Path := r.artifact.properParent?.getD .here

def tag : Variant → String
  | .baseline => "baseline"
  | .profileGuided => "profile"

def outputDirectory (r : DualRunRequest) (variant : Variant) : Path :=
  r.artifactDirectory.child s!"klee-{tag variant}-out-{r.runId}"

def mapFor (r : DualRunRequest) : Variant → Option Path
  | .baseline => none
  | .profileGuided => some r.mapFile

def invocation (r : DualRunRequest) (variant : Variant) : Invocation where
  artifact := r.artifact
  outputDirectory := r.outputDirectory variant
  mapFile := r.mapFor variant
  symbolicInput := r.symbolicInput
  extraArguments := r.extraArguments
  environmentFile := r.environmentFile

end DualRunRequest

end GuidedExploration
