import GuidedExploration.FileSystem.Basic
import GuidedExploration.Json.Schema

/-!
What one engine run is told: the program's artifact, where to write, and the arguments around
them. The two variants of a run differ in the value map only.
-/

set_option autoImplicit false

namespace GuidedExploration

inductive Variant where
  | baseline
  | profileGuided
  deriving DecidableEq, Repr

namespace Variant

def name : Variant → String
  | baseline => "baseline"
  | profileGuided => "profile-guided"

def ofName? (name : String) : Option Variant := [baseline, profileGuided].find? (·.name == name)

def toJson (v : Variant) : Json := .text v.name

def ofJson? (j : Json) : Option Variant := j.symbol?.bind ofName?

end Variant

structure Invocation where
  artifact : Path
  outputDirectory : Path
  /-- Given to the profile-guided variant alone. -/
  mapFile : Option Path
  symbolicInput : List String
  extraArguments : List String
  environmentFile : Option Path
  deriving DecidableEq, Repr

namespace Invocation

def variant (i : Invocation) : Variant :=
  if i.mapFile.isSome then .profileGuided else .baseline

def baseFlags : List String :=
  ["--libc=uclibc", "--posix-runtime", "--simplify-sym-indices", "--write-cvcs", "--write-cov",
   "--stats", "--write-smt2s", "--output-module", "--max-memory=1000", "--disable-inlining",
   "--optimize", "--use-forked-solver", "--use-cex-cache", "--external-calls=all",
   "--only-output-states-covering-new", "--max-sym-array-size=4096", "--max-solver-time=30s",
   "--max-time=1800s", "--watchdog", "--max-memory-inhibit=false", "--max-static-fork-pct=1",
   "--max-static-solve-pct=1", "--max-static-cpfork-pct=1", "--switch-type=internal",
   "--search=random-path", "--search=nurs:covnew", "--use-batching-search",
   "--batch-instructions=10000"]

def mapFlags : Option Path → List String
  | none => []
  | some map => ["--use-vase", "--vase-map=" ++ map.text]

def environmentFlags : Option Path → List String
  | none => []
  | some file => ["--env-file=" ++ file.text]

def presentEnvironment (i : Invocation) (fs : FileSystem) : Option Path :=
  i.environmentFile.filter fs.exists?

def argumentsWith (i : Invocation) (environment : Option Path) (sandbox : Path) : List String :=
  baseFlags ++ mapFlags i.mapFile ++ environmentFlags environment ++
    ["--run-in-dir=" ++ sandbox.text, "--output-dir=" ++ i.outputDirectory.text, i.artifact.text] ++
    i.symbolicInput ++ i.extraArguments

def arguments (i : Invocation) (fs : FileSystem) (sandbox : Path) : List String :=
  i.argumentsWith (i.presentEnvironment fs) sandbox

end Invocation

end GuidedExploration
