import GuidedExploration.Fault
import GuidedExploration.FileSystem.Source
import GuidedExploration.ObservationTable
import GuidedExploration.Trace.Basic

/-!
Reading a trace from a file, each accepted line going to a sink as soon as it is read. A missing
file is an empty trace; a file that cannot be read is a fault, and a sink that was filled in part by
then is the caller's to discard.
-/

set_option autoImplicit false

namespace GuidedExploration

/-- The lines that are read from a source. The piece in which reading fails is not one of them. -/
def Source.lines (source : Source) : List (List UInt8) :=
  let pieces := Text.splitAfter 10 source.bytes
  match source.failure with
  | none => pieces
  | some _ => pieces.filter fun piece => piece.getLast? == some 10

namespace Trace

section

variable {σ : Type} (sink : σ → Observation → σ)

def readLine (read : Summary × σ) (line : List UInt8) : Summary × σ :=
  let outcome := classify (Text.Utf8.decodeLossy line)
  (read.1.count outcome, outcome.observation?.elim read.2 (sink read.2))

/-- Reads all lines; what a failure leaves in the sink stays there, and the counts are lost. -/
def readLines (source : Source) (start : σ) : Except Cause Summary × σ :=
  let (summary, filled) := source.lines.foldl (readLine sink) ({}, start)
  match source.failure with
  | none => (.ok summary, filled)
  | some cause => (.error cause, filled)

/-- Reads what was opened. Only if it is not there to be opened is it missing. -/
def read (opened : Except Cause Source) (start : σ) : Except Cause Summary × σ :=
  match opened with
  | .ok source => readLines sink source start
  | .error .notFound => (.ok missing.summary, start)
  | .error cause => (.error cause, start)

end

def ofSource (opened : Except Cause Source) : Except Cause Trace :=
  let (summary, observations) := read Array.push opened #[]
  summary.map fun summary => ⟨observations.toList, summary⟩

def ofFile (fs : FileSystem) (p : Path) : Except Fault Trace :=
  (ofSource (fs.source p)).mapError (.io p)

def table (trace : Trace) : ObservationTable := .ofObservations trace.observations

end Trace

def ObservationTable.load (opened : Except Cause Source) :
    Except Cause (ObservationTable × Trace.Summary) :=
  let (summary, table) := Trace.read record opened empty
  summary.map fun summary => (table, summary)

end GuidedExploration
