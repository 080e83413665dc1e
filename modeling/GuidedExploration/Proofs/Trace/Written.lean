import GuidedExploration.Proofs.Text.Encoding
import GuidedExploration.Proofs.Trace.Decoding

/-!
Observations written back as lines. Whatever bytes they come from, the observations of a trace are
such that their lines are read as the same observations again, one accepted line for each.
-/

set_option autoImplicit false

namespace GuidedExploration

open Text

namespace Observation

def line (o : Observation) : List Char :=
  Trace.placeText (integer o.site.toInt) (integer o.branch.toInt) ++
    '\t' :: (o.name.toList ++ ':' :: o.value.toList)

/-- A branch that was taken, a variable that has a name, and a value; the texts fit on one line, no
blank is at their ends, and the name stops before the first colon. -/
structure Tidy (o : Observation) : Prop where
  branch : 0 ≤ o.branch
  named : o.name ≠ ""
  name : Trims o.name.toList o.name.toList
  noColon : ':' ∉ o.name.toList
  value : Trims o.value.toList o.value.toList
  oneLine : '\n' ∉ o.name.toList ∧ '\n' ∉ o.value.toList

theorem place_line (o : Observation) :
    Trace.Place (Trace.placeText (integer o.site.toInt) (integer o.branch.toInt)) o.site o.branch :=
  .mk (integer?_eq_some_iff.1 (integer?_integer _)) (integer?_eq_some_iff.1 (integer?_integer _))

variable {o : Observation}

theorem Tidy.trim_line (tidy : o.Tidy) : trim o.line = o.line := by
  apply trim_of_solid
  · rintro c ⟨⟩
    rfl
  · intro c found
    obtain ⟨front, shape⟩ : ∃ front, o.line = front ++ ':' :: o.value.toList :=
      ⟨Trace.placeText (integer o.site.toInt) (integer o.branch.toInt) ++ '\t' :: o.name.toList,
        by simp [line]⟩
    -- The line ends with the value, or with the colon before an empty one.
    rw [shape, List.getLast?_append, List.getLast?_cons] at found
    cases ended : o.value.toList.getLast? with
    | none =>
      rw [ended] at found
      cases found
      rfl
    | some d =>
      rw [ended] at found
      cases found
      exact tidy.value.last d ended

theorem Tidy.shape_line (tidy : o.Tidy) : Trace.Shape o.line (.accepted o) :=
  .accepted o.place_line tidy.branch tidy.noColon tidy.name (by simpa using tidy.named) tidy.value

theorem Tidy.classify_line (tidy : o.Tidy) : Trace.classify (o.line ++ ['\n']) = .accepted o := by
  rw [Trace.classify, trim_concat _ rfl, tidy.trim_line, tidy.shape_line.classifyTrimmed]

theorem Tidy.lineFeed_notMem (tidy : o.Tidy) : '\n' ∉ o.line := by
  have spelled : ∀ n : Int, '\n' ∉ integer n := by
    intro n member
    rcases mem_integer member with same | digit
    · cases same
    · cases digit
  simp [line, Trace.placeText, spelled, tidy.oneLine]

end Observation

namespace Trace

def written (observations : List Observation) : List Char :=
  observations.flatMap fun o => o.line ++ ['\n']

theorem splitAfter_written {observations : List Observation} (tidy : ∀ o ∈ observations, o.Tidy) :
    splitAfter '\n' (written observations) = observations.map fun o => o.line ++ ['\n'] := by
  have shape : written observations =
      (observations.map Observation.line).flatMap fun line => line ++ ['\n'] := by
    rw [written, List.flatMap_map]
  have absent : ∀ line ∈ observations.map Observation.line, '\n' ∉ line :=
    List.forall_mem_map.2 fun o member => (tidy o member).lineFeed_notMem
  rw [shape, splitAfter_flatMap absent, List.map_map]
  rfl

theorem ofOutcomes_accepted (observations : List Observation) :
    ofOutcomes (observations.map .accepted) =
      ⟨observations, { totalLines := observations.length, accepted := observations.length }⟩ := by
  have accepted : (observations.map LineOutcome.accepted).filterMap LineOutcome.observation? =
      observations := by
    rw [List.filterMap_map]
    exact List.filterMap_some
  simp [ofOutcomes, Summary.ofOutcomes, accepted, List.countP_map]

theorem ofText_written {observations : List Observation} (tidy : ∀ o ∈ observations, o.Tidy) :
    ofText (written observations) =
      ⟨observations, { totalLines := observations.length, accepted := observations.length }⟩ := by
  have outcomes : (splitAfter '\n' (written observations)).map classify =
      observations.map .accepted := by
    rw [splitAfter_written tidy, List.map_map]
    exact List.map_congr_left fun o member => (tidy o member).classify_line
  rw [ofText, outcomes, ofOutcomes_accepted]

theorem readAs_written {observations : List Observation} (tidy : ∀ o ∈ observations, o.Tidy) :
    ReadAs (String.ofList (written observations)).toUTF8.toList
      ⟨observations, { totalLines := observations.length, accepted := observations.length }⟩ := by
  intro σ sink start
  have read := readAs_ofText (String.ofList (written observations)).toUTF8.toList sink start
  rwa [Utf8.decodeLossy_toUTF8, ofText_written tidy] at read

theorem Shape.tidy {line : List Char} {o : Observation} (shape : Shape line (.accepted o))
    (oneLine : '\n' ∉ line) : o.Tidy := by
  generalize same : LineOutcome.accepted o = outcome at shape
  cases shape with
  | blank => cases same
  | negativeBranch => cases same
  | accepted placed positive absent named filled valued =>
    cases same
    refine ⟨positive, by simpa using filled, named.again, fun member => absent (named.subset member),
      valued.again, fun member => oneLine ?_, fun member => oneLine ?_⟩
    · have inName := named.subset member
      simp [inName]
    · have inValue := valued.subset member
      simp [inValue]

theorem Holds.notMem {bytes : List UInt8} {lines : List (List UInt8)} (holds : Holds bytes lines) :
    ∀ line ∈ lines, 10 ∉ line := by
  induction holds with
  | last absent => exact List.forall_mem_singleton.2 absent
  | lineFeed absent _ ih => exact List.forall_mem_cons.2 ⟨absent, ih⟩
  | carriageReturn absent _ ih => exact List.forall_mem_cons.2 ⟨absent, ih⟩

theorem tidy_of_observed? {line : List UInt8} {o : Observation} (oneLine : 10 ∉ line)
    (observed : observed? line = some o) : o.Tidy := by
  have accepted : classify (Utf8.decodeLossy line) = .accepted o := by
    unfold observed? LineOutcome.observation? at observed
    split at observed
    · next found => exact found.trans (congrArg _ (Option.some.inj observed))
    · cases observed
  have formed : classify (Utf8.decodeLossy line) ≠ .malformed := by
    rw [accepted]
    nofun
  have shape : Shape (trim (Utf8.decodeLossy line)) (classify (Utf8.decodeLossy line)) :=
    shape_classifyTrimmed formed
  rw [accepted] at shape
  refine shape.tidy fun member => Utf8.notMem_decodeLossy oneLine ?_
  exact (trims_trim _).subset member

theorem tidy_of_mem_ofBytes {bytes : List UInt8} {o : Observation}
    (member : o ∈ (ofBytes bytes).observations) : o.Tidy := by
  obtain ⟨lines, holds⟩ := exists_holds bytes
  rw [holds.observations] at member
  obtain ⟨line, inside, observed⟩ := List.mem_filterMap.1 member
  exact tidy_of_observed? (holds.notMem line inside) observed

/-- The observations that reading a source hands on; where reading fails, those before it. -/
def handedOn (source : Source) : List Observation := source.lines.filterMap observed?

theorem readLines_snd {σ : Type} (sink : σ → Observation → σ) (source : Source) (start : σ) :
    (readLines sink source start).2 = (handedOn source).foldl sink start := by
  rw [readLines, foldl_readLine]
  cases source.failure <;> rfl

theorem handedOn_subset (source : Source) :
    handedOn source ⊆ (ofBytes source.bytes).observations := by
  have fewer : source.lines.Sublist (splitAfter 10 source.bytes) := by
    unfold Source.lines
    split
    · exact .refl _
    · exact List.filter_sublist
  rw [observations_ofBytes]
  exact (fewer.filterMap observed?).subset

/-- What is read from any source consists of tidy observations, and their lines, one for each, are
accepted and give the same observations in the same order. -/
theorem readLines_written (source : Source) :
    ∃ observations : List Observation,
      (∀ {σ : Type} (sink : σ → Observation → σ) (start : σ),
        (readLines sink source start).2 = observations.foldl sink start) ∧
      (∀ o ∈ observations, o.Tidy) ∧
      ReadAs (String.ofList (written observations)).toUTF8.toList
        ⟨observations, { totalLines := observations.length, accepted := observations.length }⟩ := by
  have tidy : ∀ o ∈ handedOn source, o.Tidy := fun o member =>
    tidy_of_mem_ofBytes (handedOn_subset source member)
  exact ⟨handedOn source, fun sink => readLines_snd sink source, tidy, readAs_written tidy⟩

example : written (handedOn { bytes := "loc:007:branch:-0\t x\ty : a:\rb \r\n".toUTF8.toList }) =
    "loc:7:branch:0\tx\ty:a:\rb\n".toList := by decide +kernel

end Trace

end GuidedExploration
