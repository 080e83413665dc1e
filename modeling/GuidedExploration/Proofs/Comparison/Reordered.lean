import GuidedExploration.Proofs.Comparison.Reread
import GuidedExploration.Proofs.Json.Reordering
import GuidedExploration.Proofs.Json.RoundTrip

/-!
Stored parts of a comparison whose members stand in any order: the record of a run, also without the
member that says that it was stopped, and the outcome of a metric that holds texts alone.
-/

set_option autoImplicit false

namespace GuidedExploration

variable {members written : List (String × Json)}

namespace RunRecord

theorem ofJson?_perm (distinct : (members.map Prod.fst).Nodup) (same : written.Perm members) :
    ofJson? (.record written) = ofJson? (.record members) := by
  obtain ⟨known, known', read, read', same, distinct⟩ := Json.known?_perm fields distinct same
  have all : (Json.record members).fields? fields = some known := read
  have all' : (Json.record written).fields? fields = some known' := read'
  simp only [ofJson?, all, all', Option.bind_eq_bind, Option.bind_some,
    Json.required?_perm distinct same, Json.default?_perm distinct same]

def required (r : RunRecord) : List (String × Json) :=
  [("success", .bool r.success), ("exitCode", .integer r.exitCode.toInt),
   ("outputDirectory", r.outputDirectory.toJson),
   ("artifactCount", .natural r.artifactCount.toNat),
   ("statistics", .ofDict id Json.text r.statistics), ("combinedOutput", .text r.output)]

theorem toJson_eq (r : RunRecord) :
    r.toJson = .record (r.required ++ [("timedOut", .bool r.timedOut)]) := rfl

/-- A run whose record does not say so was not stopped. -/
theorem ofJson?_required (r : RunRecord) :
    ofJson? (.record r.required) = some { r with timedOut := false } := by
  have distinct : (r.required.map Prod.fst).Nodup := by simp [required]
  have written : (Json.record r.required).fields? fields = some r.required :=
    Json.fields?_record_of_subset (by simp [required, fields]) distinct
  simp only [ofJson?, written, Option.bind_eq_bind, Option.bind_some]
  simp [required, Json.bool?, Path.ofJson?, Path.toJson]

theorem ofJson?_reordered (r : RunRecord)
    (same : written.Perm (r.required ++ [("timedOut", .bool r.timedOut)]) ∨
      r.timedOut = false ∧ written.Perm r.required) : ofJson? (.record written) = some r := by
  rcases same with whole | ⟨inTime, short⟩
  · rw [ofJson?_perm (by simp [required]) whole, ← toJson_eq, ofJson?_toJson]
  · rw [ofJson?_perm (by simp [required]) short, ofJson?_required, ← inTime]

end RunRecord

namespace MetricOutcome

theorem isReadable_perm (outer : Nat) (same : written.Perm members) :
    isReadable outer (.record written) = isReadable outer (.record members) := by
  rw [isReadable, isReadable, Json.isSound_perm same, Json.depth_perm same]

theorem ofMembers?_perm (kind : MetricKind) (distinct : (members.map Prod.fst).Nodup)
    (same : written.Perm members) :
    ofMembers? kind (written.map fun (name, value) => (some name, value)) =
      ofMembers? kind (members.map fun (name, value) => (some name, value)) := by
  obtain ⟨known, known', read, read', same, distinct⟩ := Json.known?_perm kind.fields distinct same
  simp only [ofMembers?, read, read', Option.bind_eq_bind, Option.bind_some,
    Json.required?_perm distinct same]

def IsTextual (o : MetricOutcome) : Prop := o.kind ≠ .improvement ∧ o.kind ≠ .notApplicable

theorem reread?_of_isTextual {o : MetricOutcome} (textual : o.IsTextual) : o.reread? = some o := by
  obtain ⟨first, second⟩ := textual
  cases o with
  | improvement => exact absurd rfl first
  | notApplicable => exact absurd rfl second
  | _ => rfl

end MetricOutcome

namespace MetricComparison

theorem ofJson?_perm (outer : Nat) (distinct : (members.map Prod.fst).Nodup)
    (same : written.Perm members) : ofJson? outer (.record written) = ofJson? outer (.record members) := by
  have readable := MetricOutcome.isReadable_perm outer same
  have outcomes := fun kind => MetricOutcome.ofMembers?_perm kind distinct same
  obtain ⟨known, known', read, read', same, distinct⟩ :=
    Json.known?_perm ["metric", "kind"] distinct same
  rw [Json.record] at readable ⊢
  rw [Json.record] at readable ⊢
  simp only [ofJson?, readable, read, read', outcomes, Option.bind_eq_bind, Option.bind_some,
    Json.required?_perm distinct same]

theorem ofJson?_reordered {outer : Nat} (shallow : outer < MetricOutcome.depthLimit)
    {c : MetricComparison} (textual : c.outcome.IsTextual)
    (same : written.Perm (c.front ++ c.outcome.values)) :
    ofJson? outer (.record written) = some c := by
  rw [ofJson?_perm outer c.distinct_members same, ← toJson_eq, ofJson?_toJson shallow, reread?,
    MetricOutcome.reread?_of_isTextual textual]
  rfl

end MetricComparison

namespace ComparisonRecord

/-- The record of a run and the outcome of a metric without numbers are read back from the text of
their members in any order, and a run that was not stopped also when the member that says so is left
out. -/
theorem parts_in_any_order :
    (∀ r : RunRecord, ∃ members, r.toJson = .record members ∧ ∀ written,
      (written.Perm members ∨
        r.timedOut = false ∧ written.Perm (members.filter fun member => member.1 != "timedOut")) →
      ∀ style : Json.Style, style.Spaced →
        (Json.ofChars? ((Json.record written).render style 0)).bind RunRecord.ofJson? = some r) ∧
    ∀ c : MetricComparison, c.outcome.kind ≠ .improvement → c.outcome.kind ≠ .notApplicable →
      ∃ members, c.toJson = .record members ∧ ∀ written, written.Perm members →
        ∀ style : Json.Style, style.Spaced → ∀ outer < MetricOutcome.depthLimit,
          (Json.ofChars? ((Json.record written).render style 0)).bind
            (MetricComparison.ofJson? outer) = some c := by
  constructor
  · intro r
    refine ⟨_, r.toJson_eq, fun written same style spaced => ?_⟩
    rw [Json.ofChars?_render spaced, Option.bind_some]
    apply r.ofJson?_reordered
    have short : (r.required ++ [("timedOut", Json.bool r.timedOut)]).filter
        (fun member => member.1 != "timedOut") = r.required := by
      simp [RunRecord.required]
    rwa [short] at same
  · intro c first second
    refine ⟨_, c.toJson_eq, fun written same style spaced outer shallow => ?_⟩
    rw [Json.ofChars?_render spaced, Option.bind_some]
    exact MetricComparison.ofJson?_reordered shallow ⟨first, second⟩ same

def oddRun : RunRecord where
  success := false
  exitCode := -2147483648
  outputDirectory := ⟨"out\\\"é"⟩
  artifactCount := 18446744073709551615
  statistics := .ofList [("timedOut", "true"), ("", "\u0000\n")]
  output := "\"success\": true\t\u001b"
  timedOut := false

def oddMetric : MetricComparison := ⟨"kind", .nonNumeric "metric" "\"missing\""⟩

theorem parts_in_reverse_order :
    oddRun.timedOut = false ∧
    (Json.ofChars? ((Json.record oddRun.required.reverse).render Json.compactStyle 0)).bind
      RunRecord.ofJson? = some oddRun ∧
    (oddMetric.outcome.kind ≠ .improvement ∧ oddMetric.outcome.kind ≠ .notApplicable) ∧
    (Json.ofChars? ((Json.record
      [("profileGuided", .text "\"missing\""), ("baseline", .text "metric"),
        ("kind", .text "non-numeric"), ("metric", .text "kind")]).render Json.prettyStyle 0)).bind
      (MetricComparison.ofJson? 2) = some oddMetric := by
  obtain ⟨runs, metrics⟩ := parts_in_any_order
  refine ⟨rfl, ?_, by decide, ?_⟩
  · obtain ⟨members, shape, back⟩ := runs oddRun
    refine back _ (.inr ⟨rfl, ?_⟩) _ Json.compactStyle_spaced
    rw [oddRun.toJson_eq, Json.record_inj] at shape
    rw [← shape]
    exact List.reverse_perm _
  · obtain ⟨members, shape, back⟩ := metrics oddMetric (by decide) (by decide)
    refine back _ ?_ _ Json.prettyStyle_spaced 2 (by decide)
    rw [oddMetric.toJson_eq, Json.record_inj] at shape
    rw [← shape]
    exact List.reverse_perm (oddMetric.front ++ oddMetric.outcome.values)

end ComparisonRecord

end GuidedExploration
