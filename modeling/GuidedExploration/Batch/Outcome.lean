import GuidedExploration.Fault
import GuidedExploration.Json.Schema

/-!
How the work on one program of a batch ended.
-/

set_option autoImplicit false

namespace GuidedExploration

namespace Phase

def toJson (phase : Phase) : Json := .text phase.name

def ofJson? (j : Json) : Option Phase := j.symbol?.bind ofName?

end Phase

inductive OutcomeStatus where
  | success
  | failed
  deriving DecidableEq, Repr

namespace OutcomeStatus

def name : OutcomeStatus → String
  | success => "success"
  | failed => "failed"

def ofName? (name : String) : Option OutcomeStatus := [success, failed].find? (·.name == name)

end OutcomeStatus

structure ProgramOutcome where
  program : String
  category : String
  status : OutcomeStatus
  failedPhase : Option Phase := none
  error : Option String := none
  deriving DecidableEq, Repr

namespace ProgramOutcome

def success (category program : String) : ProgramOutcome :=
  { program, category, status := .success }

def failed (category program reason : String) : ProgramOutcome :=
  { program, category, status := .failed, error := some reason }

def failedIn (phase : Phase) (category program reason : String) : ProgramOutcome :=
  { failed category program reason with failedPhase := some phase }

def fields : List String := ["program", "category", "status", "failed_phase", "error"]

/-- A phase or an error that is not there is not written. -/
def toJson (o : ProgramOutcome) : Json :=
  .record
    ([("program", .text o.program), ("category", .text o.category),
      ("status", .text o.status.name)] ++
      (o.failedPhase.map fun phase => ("failed_phase", phase.toJson)).toList ++
      (o.error.map fun error => ("error", .text error)).toList)

def ofJson? (j : Json) : Option ProgramOutcome := do
  let written ← j.fields? fields
  let program ← Json.required? written "program" Json.text?
  let category ← Json.required? written "category" Json.text?
  let status ← Json.required? written "status" fun j => j.symbol?.bind OutcomeStatus.ofName?
  let failedPhase ← Json.default? written "failed_phase" none (Json.optional? Phase.ofJson?)
  let error ← Json.default? written "error" none (Json.optional? Json.text?)
  return { program, category, status, failedPhase, error }

end ProgramOutcome

end GuidedExploration
