import GuidedExploration.Path

/-!
Where the engine is, and where the artifacts of programs are kept.
-/

set_option autoImplicit false

namespace GuidedExploration

structure EngineSettings where
  engine : Path
  artifactsRoot : Path
  deriving DecidableEq, Repr

def programDirectory (root : Path) (category program : String) : Path :=
  (root.child category).child program

namespace EngineSettings

def ofEnvironment (environment : String → Option String) : EngineSettings where
  engine := ⟨(environment "KLEE_BIN").getD "klee"⟩
  artifactsRoot := (Path.mk ((environment "EVP_ROOT").getD ".")).child "evp_artifacts"

def programDirectory (s : EngineSettings) (category program : String) : Path :=
  GuidedExploration.programDirectory s.artifactsRoot category program

end EngineSettings

end GuidedExploration
