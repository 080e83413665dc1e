import GuidedExploration.Proofs.FileSystem.Reading
import GuidedExploration.Proofs.Trace.Lines
import GuidedExploration.Trace.File
import Mathlib.Data.List.Induction

/-!
Reading a trace line by line. A sink gets the observations of the lines that were read, in order,
and the counts are those of all lines. Read to its end a trace is what its bytes hold; otherwise the
sink is left with what came before the failure.
-/

set_option autoImplicit false

namespace GuidedExploration

namespace Trace

open Text

theorem Summary.ofOutcomes_concat (outcomes : List LineOutcome) (outcome : LineOutcome) :
    ofOutcomes (outcomes ++ [outcome]) = (ofOutcomes outcomes).count outcome := by
  cases outcome <;> simp [ofOutcomes, count, LineOutcome.observation?]

section

variable {σ : Type} (sink : σ → Observation → σ)

theorem foldl_readLine (start : σ) (lines : List (List UInt8)) :
    lines.foldl (readLine sink) ({}, start) =
      (.ofOutcomes (lines.map fun line => classify (Utf8.decodeLossy line)),
        (lines.filterMap observed?).foldl sink start) := by
  induction lines using List.reverseRecOn with
  | nil => rfl
  | append_singleton lines line ih =>
    rw [List.foldl_concat, ih, readLine, List.map_append, List.map_singleton,
      Summary.ofOutcomes_concat, List.filterMap_append, List.foldl_append]
    cases found : (classify (Utf8.decodeLossy line)).observation? <;> simp [observed?, found]

theorem read_to_end (bytes : List UInt8) (start : σ) :
    read sink (.ok { bytes }) start =
      (.ok (ofBytes bytes).summary, (ofBytes bytes).observations.foldl sink start) := by
  rw [observations_ofBytes]
  simp only [read, readLines, foldl_readLine]
  rfl

theorem read_broken (bytes : List UInt8) (cause : Cause) (start : σ) :
    read sink (.ok { bytes, failure := some cause }) start =
      (.error cause,
        ((Source.lines { bytes, failure := some cause }).filterMap observed?).foldl sink start) := by
  simp only [read, readLines, foldl_readLine]

end

/-- What reading comes to: the whole trace, or one without observations. -/
def settled : Except Cause Source → Trace
  | .ok { bytes, failure := none } => ofBytes bytes
  | .ok { bytes := _, failure := some _ } => unreadable
  | .error .notFound => missing
  | .error _ => unreadable

theorem settled_source_of_bytes {fs : FileSystem} {p : Path} {contents : ByteArray}
    (found : fs.bytes p = .ok contents) : settled (fs.source p) = .ofBytes contents.toList := by
  obtain ⟨executable, there⟩ := FileSystem.bytes_eq_ok_iff.1 found
  simp only [FileSystem.source, there, bind, Except.bind, settled]

theorem observations_of_unread {fs : FileSystem} {p : Path} {cause : Cause}
    (unread : fs.bytes p = .error cause) : (settled (fs.source p)).observations = [] := by
  unfold FileSystem.bytes at unread
  unfold FileSystem.source
  cases there : fs.lookup p with
  | error other => cases other <;> rfl
  | ok node =>
    cases node with
    | directory => rfl
    | file contents executable =>
      rw [there] at unread
      cases unread

end Trace

end GuidedExploration
