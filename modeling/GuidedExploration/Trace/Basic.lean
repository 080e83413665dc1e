import GuidedExploration.Text.Utf8
import GuidedExploration.Trace.Line

/-!
A trace: the accepted observations of a file and a summary of its lines.

Bytes are cut into lines first and each line is decoded by itself, ill-formed parts included.
-/

set_option autoImplicit false

namespace GuidedExploration

structure Trace.Summary where
  totalLines : Nat := 0
  accepted : Nat := 0
  malformed : Nat := 0
  negativeBranch : Nat := 0
  fileMissing : Bool := false
  readFailed : Bool := false
  deriving DecidableEq, Repr

namespace Trace.Summary

/-- Lines of no other outcome. -/
def blankLines (s : Summary) : Nat := s.totalLines - s.accepted - s.malformed - s.negativeBranch

def ofOutcomes (outcomes : List LineOutcome) : Summary where
  totalLines := outcomes.length
  accepted := (outcomes.filterMap LineOutcome.observation?).length
  malformed := outcomes.countP fun outcome => decide (outcome = .malformed)
  negativeBranch := outcomes.countP fun outcome => decide (outcome = .negativeBranch)

def count (s : Summary) (outcome : LineOutcome) : Summary :=
  let s := { s with totalLines := s.totalLines + 1 }
  match outcome with
  | .blank => s
  | .accepted _ => { s with accepted := s.accepted + 1 }
  | .negativeBranch => { s with negativeBranch := s.negativeBranch + 1 }
  | .malformed => { s with malformed := s.malformed + 1 }

end Trace.Summary

structure Trace where
  observations : List Observation
  summary : Trace.Summary
  deriving DecidableEq, Repr

namespace Trace

open Text

def ofOutcomes (outcomes : List LineOutcome) : Trace where
  observations := outcomes.filterMap LineOutcome.observation?
  summary := .ofOutcomes outcomes

def ofBytes (bytes : List UInt8) : Trace :=
  ofOutcomes ((splitAfter 10 bytes).map fun line => classify (Utf8.decodeLossy line))

def ofText (text : List Char) : Trace := ofOutcomes ((splitAfter '\n' text).map classify)

def missing : Trace := ⟨[], { fileMissing := true }⟩

def unreadable : Trace := ⟨[], { readFailed := true }⟩

@[simp] theorem length_observations_ofBytes (bytes : List UInt8) :
    (ofBytes bytes).observations.length = (ofBytes bytes).summary.accepted := rfl

end Trace

end GuidedExploration
