import GuidedExploration.Proofs.Trace.Grammar
import GuidedExploration.Proofs.Trace.Reading

/-!
A trace as one text. Bytes that are read line by line, each line decoded by itself, come to what
the lines of the whole decoded text come to. Every line is counted once, and behind the end of a
line reading can be taken up anew.
-/

set_option autoImplicit false

namespace GuidedExploration.Trace

open Text

instance : Add Summary where
  add s t :=
    { totalLines := s.totalLines + t.totalLines
      accepted := s.accepted + t.accepted
      malformed := s.malformed + t.malformed
      negativeBranch := s.negativeBranch + t.negativeBranch
      fileMissing := s.fileMissing || t.fileMissing
      readFailed := s.readFailed || t.readFailed }

instance : Append Trace where
  append first rest :=
    { observations := first.observations ++ rest.observations
      summary := first.summary + rest.summary }

/-- Reading the bytes hands the observations of a trace to any sink, in their order, and gives its
counts. -/
def ReadAs (bytes : List UInt8) (trace : Trace) : Prop :=
  ∀ {σ : Type} (sink : σ → Observation → σ) (start : σ),
    readLines sink { bytes } start = (.ok trace.summary, trace.observations.foldl sink start)

theorem ofBytes_eq_ofText (bytes : List UInt8) :
    ofBytes bytes = ofText (Utf8.decodeLossy bytes) := by
  rw [ofBytes, ofText, Utf8.splitAfter_decodeLossy, List.map_map]
  rfl

theorem readAs_ofText (bytes : List UInt8) : ReadAs bytes (ofText (Utf8.decodeLossy bytes)) := by
  intro σ sink start
  rw [← ofBytes_eq_ofText]
  exact read_to_end sink bytes start

theorem Summary.ofOutcomes_append (first rest : List LineOutcome) :
    ofOutcomes (first ++ rest) = ofOutcomes first + ofOutcomes rest := by
  simp only [ofOutcomes, List.length_append, List.filterMap_append, List.countP_append]
  rfl

theorem ofOutcomes_append (first rest : List LineOutcome) :
    ofOutcomes (first ++ rest) = ofOutcomes first ++ ofOutcomes rest := by
  rw [ofOutcomes, List.filterMap_append, Summary.ofOutcomes_append]
  rfl

theorem ofBytes_append (bytes more : List UInt8) :
    ofBytes (bytes ++ 10 :: more) = ofBytes (bytes ++ [10]) ++ ofBytes more := by
  rw [ofBytes, splitAfter_append_mark, List.map_append, ofOutcomes_append]
  rfl

theorem Summary.count_ofOutcomes (outcomes : List LineOutcome) :
    (ofOutcomes outcomes).accepted + (ofOutcomes outcomes).malformed +
        (ofOutcomes outcomes).negativeBranch +
        outcomes.countP (fun outcome => decide (outcome = .blank)) =
      (ofOutcomes outcomes).totalLines := by
  simp only [ofOutcomes]
  induction outcomes with
  | nil => rfl
  | cons outcome outcomes ih =>
    cases outcome <;> simp [List.filterMap_cons, LineOutcome.observation?] <;> omega

theorem Summary.blankLines_ofOutcomes (outcomes : List LineOutcome) :
    (ofOutcomes outcomes).blankLines =
      outcomes.countP fun outcome => decide (outcome = .blank) := by
  have counted := count_ofOutcomes outcomes
  rw [blankLines]
  omega

/-- Reading bytes line by line is reading their text line by line: the counts are those of the
pieces of the text, and all accepted observations reach the sink. What follows a line feed is
read as if it stood alone. -/
theorem readLines_eq_text (bytes more : List UInt8) :
    let pieces := splitAfter '\n' (Utf8.decodeLossy bytes)
    let text := ofText (Utf8.decodeLossy bytes)
    ReadAs bytes text ∧
      text.observations = pieces.filterMap (fun piece => (classify piece).observation?) ∧
      text.summary.totalLines = pieces.length ∧
      text.summary.accepted = text.observations.length ∧
      text.summary.malformed = pieces.countP (fun piece => decide (classify piece = .malformed)) ∧
      text.summary.negativeBranch =
        pieces.countP (fun piece => decide (classify piece = .negativeBranch)) ∧
      text.summary.accepted + text.summary.malformed + text.summary.negativeBranch +
        text.summary.blankLines = text.summary.totalLines ∧
      text.summary.blankLines = pieces.countP (fun piece => piece.all isBlank) ∧
      ReadAs (bytes ++ 10 :: more)
        (ofText (Utf8.decodeLossy (bytes ++ [10])) ++ ofText (Utf8.decodeLossy more)) := by
  intro pieces text
  have blank : text.summary.blankLines = (pieces.map classify).countP fun outcome =>
      decide (outcome = .blank) := Summary.blankLines_ofOutcomes _
  refine ⟨readAs_ofText bytes, ?_, List.length_map _, rfl, List.countP_map, List.countP_map, ?_,
    ?_, ?_⟩
  · simp only [text, ofText, ofOutcomes, List.filterMap_map]
    rfl
  · rw [blank]
    exact Summary.count_ofOutcomes _
  · rw [blank, List.countP_map]
    congr 1
    funext piece
    rw [Bool.eq_iff_iff]
    simp [classify_eq_blank_iff]
  · rw [← ofBytes_eq_ofText, ← ofBytes_eq_ofText, ← ofBytes_append, ofBytes_eq_ofText]
    exact readAs_ofText _

end GuidedExploration.Trace
