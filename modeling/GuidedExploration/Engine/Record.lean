import GuidedExploration.Configuration.Category
import GuidedExploration.Engine.Statistics

/-!
The record of one engine run. A run that was stopped for taking too long and one that never
started have exit codes of their own, below those of programs.
-/

set_option autoImplicit false

namespace GuidedExploration

structure RunRecord where
  success : Bool
  exitCode : Int32
  outputDirectory : Path
  artifactCount : UInt64
  statistics : Statistics
  output : String
  timedOut : Bool
  deriving DecidableEq

namespace RunRecord

def timeoutCode : Int32 := -1

def notStartedCode : Int32 := -2

def withoutResults (outputDirectory : Path) (exitCode : Int32) (output : String) : RunRecord where
  success := false
  exitCode
  outputDirectory
  artifactCount := 0
  statistics := .empty
  output
  timedOut := decide (exitCode = timeoutCode)

def fields : List String :=
  ["success", "exitCode", "outputDirectory", "artifactCount", "statistics", "combinedOutput",
   "timedOut"]

def toJson (r : RunRecord) : Json :=
  .record
    [("success", .bool r.success), ("exitCode", .integer r.exitCode.toInt),
     ("outputDirectory", r.outputDirectory.toJson),
     ("artifactCount", .natural r.artifactCount.toNat),
     ("statistics", .ofDict id Json.text r.statistics), ("combinedOutput", .text r.output),
     ("timedOut", .bool r.timedOut)]

def ofJson? (j : Json) : Option RunRecord := do
  let written ← j.fields? fields
  let success ← Json.required? written "success" Json.bool?
  let exitCode ← Json.required? written "exitCode" Json.int32?
  let outputDirectory ← Json.required? written "outputDirectory" Path.ofJson?
  let artifactCount ← Json.required? written "artifactCount" Json.uint64?
  let statistics ← Json.required? written "statistics" (Json.dict? some Json.text?)
  let output ← Json.required? written "combinedOutput" Json.text?
  let timedOut ← Json.default? written "timedOut" false Json.bool?
  return { success, exitCode, outputDirectory, artifactCount, statistics, output, timedOut }

end RunRecord

end GuidedExploration
