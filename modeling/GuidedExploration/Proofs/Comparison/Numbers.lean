import GuidedExploration.Proofs.Comparison.Reread

/-!
The numbers of a comparison decide whether it is read back, and whether as an equal one.
-/

set_option autoImplicit false

namespace GuidedExploration

namespace MetricOutcome

def numbers : MetricOutcome → List Float
  | improvement b p percent => [b, p, percent]
  | notApplicable b p => [b, p]
  | _ => []

theorem isSome_reread?_iff {o : MetricOutcome} :
    o.reread?.isSome = true ↔ ∀ x ∈ o.numbers, x.isFinite = true := by
  simp only [← Json.isSome_reread?_iff]
  cases o with
  | improvement b p percent =>
    simp only [numbers, reread?, List.forall_mem_cons]
    cases Json.reread? b <;> cases Json.reread? p <;> cases Json.reread? percent <;> simp
  | notApplicable b p =>
    simp only [numbers, reread?, List.forall_mem_cons]
    cases Json.reread? b <;> cases Json.reread? p <;> simp
  | _ => simp [numbers, reread?]

theorem reread?_eq_self_iff {o : MetricOutcome} :
    o.reread? = some o ↔ ∀ x ∈ o.numbers, Json.reread? x = some x := by
  cases o with
  | improvement b p percent =>
    simp only [numbers, reread?, List.forall_mem_cons]
    cases Json.reread? b <;> cases Json.reread? p <;> cases Json.reread? percent <;> simp
  | notApplicable b p =>
    simp only [numbers, reread?, List.forall_mem_cons]
    cases Json.reread? b <;> cases Json.reread? p <;> simp
  | _ => simp [numbers, reread?]

theorem exists_reread?_beq_iff {o : MetricOutcome} :
    (∃ o', o.reread? = some o' ∧ (o' == o) = true) ↔
      ∀ x ∈ o.numbers, Json.reread? x = some x := by
  simp only [← Json.exists_reread?_beq_iff]
  cases o with
  | improvement b p percent =>
    have same : ∀ b' p' percent', (improvement b' p' percent' == improvement b p percent) =
      (b' == b && (p' == p && percent' == percent)) := fun _ _ _ => rfl
    simp only [numbers, reread?, List.forall_mem_cons]
    cases Json.reread? b <;> cases Json.reread? p <;> cases Json.reread? percent <;> simp [same]
  | notApplicable b p =>
    have same : ∀ b' p', (notApplicable b' p' == notApplicable b p) = (b' == b && p' == p) :=
      fun _ _ => rfl
    simp only [numbers, reread?, List.forall_mem_cons]
    cases Json.reread? b <;> cases Json.reread? p <;> simp [same]
  | nonNumeric b p =>
    have same : (nonNumeric b p == nonNumeric b p) = (b == b && p == p) := rfl
    simp [numbers, reread?, same]
  | baselineOnly value =>
    have same : (baselineOnly value == baselineOnly value) = (value == value) := rfl
    simp [numbers, reread?, same]
  | profileGuidedOnly value =>
    have same : (profileGuidedOnly value == profileGuidedOnly value) = (value == value) := rfl
    simp [numbers, reread?, same]
  | missing =>
    have same : (missing == missing) = true := rfl
    simp [numbers, reread?, same]

theorem isFinite_of_ofMembers? {kind : MetricKind} {members : List (Option String × Json)}
    {o : MetricOutcome} (found : ofMembers? kind members = some o) :
    ∀ x ∈ o.numbers, x.isFinite = true := by
  have finite : ∀ {written : List (String × Json)} {name : String} {x : Float},
      Json.required? written name Json.float? = some x → x.isFinite = true := by
    intro written name x read
    obtain ⟨j, -, value⟩ := Option.bind_eq_some_iff.1 read
    exact Json.isFinite_of_float? value
  simp only [ofMembers?, Option.bind_eq_bind, Option.bind_eq_some_iff] at found
  obtain ⟨written, -, found⟩ := found
  cases kind with
  | improvement =>
    simp only [Option.bind_eq_some_iff] at found
    obtain ⟨b, first, p, second, percent, third, same⟩ := found
    cases same
    simp [numbers, finite first, finite second, finite third]
  | notApplicable =>
    simp only [Option.bind_eq_some_iff] at found
    obtain ⟨b, first, p, second, same⟩ := found
    cases same
    simp [numbers, finite first, finite second]
  | nonNumeric =>
    simp only [Option.bind_eq_some_iff] at found
    obtain ⟨b, -, p, -, same⟩ := found
    cases same
    simp [numbers]
  | baselineOnly =>
    obtain ⟨value, -, rfl⟩ := Option.map_eq_some_iff.1 found
    simp [numbers]
  | profileGuidedOnly =>
    obtain ⟨value, -, rfl⟩ := Option.map_eq_some_iff.1 found
    simp [numbers]
  | missing =>
    cases found
    simp [numbers]

end MetricOutcome

namespace MetricComparison

theorem isFinite_of_ofJson? {outer : Nat} {j : Json} {c : MetricComparison}
    (found : ofJson? outer j = some c) : ∀ x ∈ c.outcome.numbers, x.isFinite = true := by
  unfold ofJson? at found
  split_ifs at found with readable
  split at found
  · next members =>
    simp only [Option.bind_eq_bind, Option.bind_eq_some_iff] at found
    obtain ⟨written, -, metric, -, kind, -, outcome, read, same⟩ := found
    cases same
    exact MetricOutcome.isFinite_of_ofMembers? read
  · cases found

theorem isSome_reread?_iff {c : MetricComparison} :
    c.reread?.isSome = true ↔ ∀ x ∈ c.outcome.numbers, x.isFinite = true := by
  rw [reread?, Option.isSome_map, MetricOutcome.isSome_reread?_iff]

theorem reread?_eq_self_iff {c : MetricComparison} :
    c.reread? = some c ↔ ∀ x ∈ c.outcome.numbers, Json.reread? x = some x := by
  rw [← MetricOutcome.reread?_eq_self_iff, reread?, Option.map_eq_some_iff]
  constructor
  · rintro ⟨o, found, same⟩
    rw [found, ← same]
  · intro found
    exact ⟨c.outcome, found, rfl⟩

theorem exists_reread?_beq_iff {c : MetricComparison} :
    (∃ c', c.reread? = some c' ∧ (c' == c) = true) ↔
      ∀ x ∈ c.outcome.numbers, Json.reread? x = some x := by
  have same : ∀ o, (({ c with outcome := o } : MetricComparison) == c) =
    (c.metric == c.metric && o == c.outcome) := fun _ => rfl
  rw [← MetricOutcome.exists_reread?_beq_iff]
  simp [reread?, same]

end MetricComparison

namespace ComparisonRecord

def numbers (c : ComparisonRecord) : List Float := c.metrics.flatMap fun m => m.outcome.numbers

/-- Every number is read as itself where it was written. -/
def Exact (c : ComparisonRecord) : Prop := ∀ x ∈ c.numbers, Json.reread? x = some x

theorem isSome_reread?_iff {c : ComparisonRecord} :
    c.reread?.isSome = true ↔ ∀ x ∈ c.numbers, x.isFinite = true := by
  rw [reread?, Option.isSome_map, Json.isSome_mapM_iff, numbers, List.forall_mem_flatMap]
  exact forall₂_congr fun m _ => MetricComparison.isSome_reread?_iff

theorem reread?_eq_self_iff {c : ComparisonRecord} : c.reread? = some c ↔ c.Exact := by
  rw [reread?, Option.map_eq_some_iff, Exact, numbers, List.forall_mem_flatMap]
  simp only [← MetricComparison.reread?_eq_self_iff]
  rw [← Json.mapM_eq_self_iff]
  constructor
  · rintro ⟨metrics, found, same⟩
    rw [found, ← same]
  · intro found
    exact ⟨c.metrics, found, rfl⟩

/-- A record is read back as an equal one only if it is read back unchanged. -/
theorem exists_reread?_beq_iff {c : ComparisonRecord} :
    (∃ c', c.reread? = some c' ∧ (c' == c) = true) ↔ c.Exact := by
  have same : ∀ metrics, (({ c with metrics } : ComparisonRecord) == c) =
    (c.program == c.program && (c.runId == c.runId && (c.baseline == c.baseline &&
      (c.profileGuided == c.profileGuided && metrics == c.metrics)))) := fun _ => rfl
  rw [Exact, numbers, List.forall_mem_flatMap]
  simp only [← MetricComparison.exists_reread?_beq_iff, ← Json.exists_mapM_beq_iff]
  simp [reread?, same]

theorem isFinite_of_ofJsonWithin? {outer : Nat} {j : Json} {c : ComparisonRecord}
    (found : ofJsonWithin? outer j = some c) : ∀ x ∈ c.numbers, x.isFinite = true := by
  simp only [ofJsonWithin?, Option.bind_eq_bind, Option.bind_eq_some_iff] at found
  obtain ⟨written, -, program, -, runId, -, baseline, -, profileGuided, -, metrics, read, same⟩ := found
  cases same
  obtain ⟨value, -, listed⟩ := Option.bind_eq_some_iff.1 read
  rw [numbers, List.forall_mem_flatMap]
  intro m member
  obtain ⟨item, came⟩ := Json.exists_of_mem_list? listed member
  exact MetricComparison.isFinite_of_ofJson? came

end ComparisonRecord

end GuidedExploration
