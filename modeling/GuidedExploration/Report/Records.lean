import GuidedExploration.Batch.Outcome
import GuidedExploration.Comparison.Record
import GuidedExploration.FileSystem.Operation

/-!
Files that hold a list of records as a JSON array. A file that does not hold one is never
overwritten.
-/

set_option autoImplicit false

namespace GuidedExploration.Records

open FileSystem

/-- Reads the records of a file; a missing file holds none. -/
def read {α : Type} (decode? : Json → Option α) (fs : FileSystem) (p : Path) :
    Except Fault (List α) :=
  match fs.text p with
  | .error .notFound => .ok []
  | .error cause => .error (.io p cause)
  | .ok text =>
    match (Json.ofText? text).bind (Json.list? decode?) with
    | some records => .ok records
    | none => .error (.json p none)

def write {α : Type} (encode : α → Json) (records : List α) (p : Path) : Operation Unit :=
  writeJson p (.array (records.map encode))

def append {α : Type} (decode? : Json → Option α) (encode : α → Json) (record : α) (p : Path) :
    Operation Unit := do
  match read decode? (← get) p with
  | .error fault => throw fault
  | .ok records => write encode (records ++ [record]) p

def readOutcomes : FileSystem → Path → Except Fault (List ProgramOutcome) :=
  read ProgramOutcome.ofJson?

def appendOutcome : ProgramOutcome → Path → Operation Unit :=
  append ProgramOutcome.ofJson? ProgramOutcome.toJson

/-- Comparisons in a file lie inside one array. -/
def readComparisons : FileSystem → Path → Except Fault (List ComparisonRecord) :=
  read (ComparisonRecord.ofJsonWithin? 1)

def appendComparison : ComparisonRecord → Path → Operation Unit :=
  append (ComparisonRecord.ofJsonWithin? 1) ComparisonRecord.toJson

end GuidedExploration.Records
