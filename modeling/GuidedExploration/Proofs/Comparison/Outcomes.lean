import GuidedExploration.Comparison.Record
import GuidedExploration.Proofs.Engine.Statistics
import Mathlib.Data.List.Nodup

/-!
Comparisons of two texts of statistics. Of each text only the last line for a metric counts, and
what is said of the metric is told by the two values there.
-/

set_option autoImplicit false

namespace GuidedExploration

namespace MetricOutcome

/-- What is said of a metric, for the values that the baseline and the profile-guided run have for
it, if they have one. -/
inductive Judged : Option String → Option String → MetricOutcome → Prop where
  | missing : Judged none none .missing
  | baselineOnly (value : String) : Judged (some value) none (.baselineOnly value)
  | profileGuidedOnly (value : String) : Judged none (some value) (.profileGuidedOnly value)
  | nonNumeric {b p : String} :
      Decimal.finite? b.toList = none ∨ Decimal.finite? p.toList = none →
      Judged (some b) (some p) (.nonNumeric b p)
  | improvement {b p : String} {x y : Float} : Decimal.finite? b.toList = some x →
      Decimal.finite? p.toList = some y → 0 < x →
      Judged (some b) (some p) (.improvement x y ((x - y) / x * 100))
  | notApplicable {b p : String} {x y : Float} : Decimal.finite? b.toList = some x →
      Decimal.finite? p.toList = some y → ¬0 < x →
      Judged (some b) (some p) (.notApplicable x y)

/-- Outcomes without a number, each with what it becomes when the runs change sides. -/
inductive Mirrors : MetricOutcome → MetricOutcome → Prop where
  | missing : Mirrors .missing .missing
  | baselineOnly (value : String) : Mirrors (.baselineOnly value) (.profileGuidedOnly value)
  | profileGuidedOnly (value : String) : Mirrors (.profileGuidedOnly value) (.baselineOnly value)
  | nonNumeric (b p : String) : Mirrors (.nonNumeric b p) (.nonNumeric p b)

theorem Mirrors.symm {o o' : MetricOutcome} (mirrors : Mirrors o o') : Mirrors o' o := by
  cases mirrors <;> constructor

theorem Judged.swap {b p : Option String} {o o' : MetricOutcome} (judged : Judged b p o)
    (mirrors : Mirrors o o') : Judged p b o' := by
  cases mirrors with
  | missing =>
    cases judged
    exact .missing
  | baselineOnly value =>
    cases judged
    exact .profileGuidedOnly value
  | profileGuidedOnly value =>
    cases judged
    exact .baselineOnly value
  | nonNumeric x y =>
    cases judged with
    | nonNumeric either => exact .nonNumeric either.symm

theorem Judged.eq {b p : Option String} {o o' : MetricOutcome} (first : Judged b p o)
    (second : Judged b p o') : o = o' := by
  cases first with
  | missing | baselineOnly | profileGuidedOnly =>
    cases second
    rfl
  | nonNumeric either =>
    cases second with
    | nonNumeric => rfl
    | improvement left right | notApplicable left right => simp [left, right] at either
  | improvement left right positive =>
    cases second with
    | nonNumeric either => simp [left, right] at either
    | improvement left' right' =>
      cases left.symm.trans left'
      cases right.symm.trans right'
      rfl
    | notApplicable left' _ other =>
      cases left.symm.trans left'
      exact absurd positive other
  | notApplicable left right other =>
    cases second with
    | nonNumeric either => simp [left, right] at either
    | improvement left' _ positive =>
      cases left.symm.trans left'
      exact absurd positive other
    | notApplicable left' right' =>
      cases left.symm.trans left'
      cases right.symm.trans right'
      rfl

theorem judged_ofValues {b p : String} (trimmed : Text.trim b.toList = b.toList)
    (trimmed' : Text.trim p.toList = p.toList) : Judged (some b) (some p) (ofValues b p) := by
  rw [ofValues, number?, number?, trimmed, trimmed']
  cases left : Decimal.finite? b.toList with
  | none => exact .nonNumeric (.inl left)
  | some x =>
    cases right : Decimal.finite? p.toList with
    | none => exact .nonNumeric (.inr right)
    | some y =>
      dsimp only
      split
      · next positive => exact .improvement left right positive
      · next other => exact .notApplicable left right other

theorem judged_compare {metric : String} {b p : Statistics}
    (trimmed : ∀ value, b.get? metric = some value → Text.trim value.toList = value.toList)
    (trimmed' : ∀ value, p.get? metric = some value → Text.trim value.toList = value.toList) :
    Judged (b.get? metric) (p.get? metric) (compare metric b p) := by
  rw [compare]
  cases left : b.get? metric with
  | none =>
    cases right : p.get? metric with
    | none => exact .missing
    | some value => exact .profileGuidedOnly value
  | some value =>
    cases right : p.get? metric with
    | none => exact .baselineOnly value
    | some value' => exact judged_ofValues (trimmed value left) (trimmed' value' right)

end MetricOutcome

namespace ComparisonRecord

open MetricOutcome Statistics Text

theorem trim_of_get?_read {text : List Char} {metric value : String}
    (found : (read text).statistics.get? metric = some value) : trim value.toList = value.toList :=
  (trims_iff.1 (tidy_of_mem_read ((Dict.get?_eq_some_iff _).1 found)).value).symm

theorem compare_read_eq_iff {metric : String} {text text' : List Char} {o : MetricOutcome} :
    MetricOutcome.compare metric (read text).statistics (read text').statistics = o ↔
      ∃ b p, Last (lines text) metric b ∧ Last (lines text') metric p ∧ Judged b p o := by
  have judged : Judged ((read text).statistics.get? metric) ((read text').statistics.get? metric)
      (MetricOutcome.compare metric (read text).statistics (read text').statistics) :=
    judged_compare (fun _ => trim_of_get?_read) fun _ => trim_of_get?_read
  constructor
  · rintro rfl
    exact ⟨_, _, get?_read_eq_iff.1 rfl, get?_read_eq_iff.1 rfl, judged⟩
  · rintro ⟨b, p, last, last', other⟩
    rw [get?_read_eq_iff.2 last, get?_read_eq_iff.2 last'] at judged
    exact judged.eq other

theorem map_metric_ofRuns (program runId : String) (baseline profileGuided : RunRecord) :
    (ofRuns program runId baseline profileGuided).metrics.map MetricComparison.metric =
      comparedMetrics := by
  rw [ofRuns, List.map_map]
  exact List.map_id _

theorem metric?_ofRuns_eq_some_iff {program runId : String} {baseline profileGuided : RunRecord}
    {name : String} {o : MetricOutcome} :
    (ofRuns program runId baseline profileGuided).metric? name = some o ↔
      ⟨name, o⟩ ∈ (ofRuns program runId baseline profileGuided).metrics := by
  have distinct : ((ofRuns program runId baseline profileGuided).metrics.map
      MetricComparison.metric).Nodup := by
    rw [map_metric_ofRuns]
    decide
  rw [metric?, Option.map_eq_some_iff]
  constructor
  · rintro ⟨m, found, rfl⟩
    have named : m.metric = name := by simpa using List.find?_some found
    exact named ▸ List.mem_of_find?_eq_some found
  · intro member
    have some : ((ofRuns program runId baseline profileGuided).metrics.find? fun m =>
        m.metric == name).isSome = true :=
      List.find?_isSome.2 ⟨⟨name, o⟩, member, beq_self_eq_true name⟩
    obtain ⟨m, found⟩ := Option.isSome_iff_exists.1 some
    have named : m.metric = name := by simpa using List.find?_some found
    have same : m = ⟨name, o⟩ :=
      List.inj_on_of_nodup_map distinct (List.mem_of_find?_eq_some found) member named
    exact ⟨m, found, congrArg MetricComparison.outcome same⟩

theorem improvement?_ofRuns_eq_some_iff {program runId : String}
    {baseline profileGuided : RunRecord} {name : String} {percent : Float} :
    (ofRuns program runId baseline profileGuided).improvement? name = some percent ↔
      ∃ x y, ⟨name, .improvement x y percent⟩ ∈
        (ofRuns program runId baseline profileGuided).metrics := by
  simp only [improvement?, Option.bind_eq_some_iff, metric?_ofRuns_eq_some_iff]
  constructor
  · rintro ⟨o, member, given⟩
    cases o with
    | improvement x y percent' =>
      cases given
      exact ⟨x, y, member⟩
    | _ => cases given
  · rintro ⟨x, y, member⟩
    exact ⟨_, member, rfl⟩

def ofTexts (program runId : String) (baseline profileGuided : RunRecord)
    (text text' : List Char) : ComparisonRecord :=
  ofRuns program runId { baseline with statistics := (read text).statistics }
    { profileGuided with statistics := (read text').statistics }

section

variable (program runId : String) (baseline profileGuided : RunRecord) (text text' : List Char)

theorem mem_metrics_ofTexts_iff {name : String} {o : MetricOutcome} :
    ⟨name, o⟩ ∈ (ofTexts program runId baseline profileGuided text text').metrics ↔
      name ∈ comparedMetrics ∧
        ∃ b p, Last (lines text) name b ∧ Last (lines text') name p ∧ Judged b p o := by
  rw [← compare_read_eq_iff, ofTexts, ofRuns, List.mem_map]
  constructor
  · rintro ⟨metric, member, same⟩
    cases same
    exact ⟨member, rfl⟩
  · rintro ⟨member, rfl⟩
    exact ⟨name, member, rfl⟩

theorem mem_metrics_swapped {name : String} {o o' : MetricOutcome} (mirrors : Mirrors o o')
    (member : ⟨name, o⟩ ∈ (ofTexts program runId baseline profileGuided text text').metrics) :
    ⟨name, o'⟩ ∈ (ofTexts program runId baseline profileGuided text' text).metrics := by
  rw [mem_metrics_ofTexts_iff] at member ⊢
  obtain ⟨compared, b, p, last, last', judged⟩ := member
  exact ⟨compared, p, b, last', last, judged.swap mirrors⟩

/-- A comparison of two texts has the six metrics in the order of the report, each with the outcome
that its values in the last lines for it have, and a percentage just where there is an improvement.
When the texts change sides, so do the outcomes without a number. -/
theorem outcomes_of_last_lines :
    (ofTexts program runId baseline profileGuided text text').metrics.map MetricComparison.metric =
        ["QueryTime", "SolverTime", "WallTime", "NumQueries", "NumStates", "NumInstructions"] ∧
      (∀ name o,
        ⟨name, o⟩ ∈ (ofTexts program runId baseline profileGuided text text').metrics ↔
          name ∈ comparedMetrics ∧
            ∃ b p, Last (lines text) name b ∧ Last (lines text') name p ∧ Judged b p o) ∧
      (∀ name percent,
        (ofTexts program runId baseline profileGuided text text').improvement? name =
            some percent ↔
          ∃ x y, ⟨name, .improvement x y percent⟩ ∈
            (ofTexts program runId baseline profileGuided text text').metrics) ∧
      ∀ name o o', Mirrors o o' →
        (⟨name, o⟩ ∈ (ofTexts program runId baseline profileGuided text text').metrics ↔
          ⟨name, o'⟩ ∈ (ofTexts program runId baseline profileGuided text' text).metrics) := by
  refine ⟨map_metric_ofRuns .., fun name o => mem_metrics_ofTexts_iff ..,
    fun name percent => improvement?_ofRuns_eq_some_iff, fun name o o' mirrors => ⟨?_, ?_⟩⟩
  · exact mem_metrics_swapped program runId baseline profileGuided text text' mirrors
  · exact mem_metrics_swapped program runId baseline profileGuided text' text mirrors.symm

end

def slower : List Char := "SolverTime: 9\nSolverTime: 1e2\nWallTime: n/a".toList

def faster : List Char := "WallTime: 7\r\nSolverTime: 40\n".toList

theorem outcomes_of_last_lines_slower_faster :
    let run : RunRecord := .withoutResults ⟨"out"⟩ 1 ""
    Mirrors (.nonNumeric "n/a" "7") (.nonNumeric "7" "n/a") ∧
      ⟨"WallTime", .nonNumeric "7" "n/a"⟩ ∈ (ofTexts "ls" "r1" run run faster slower).metrics ∧
      ∃ x y, ⟨"SolverTime", .improvement x y 60⟩ ∈
        (ofTexts "ls" "r1" run run slower faster).metrics := by
  intro run
  obtain ⟨-, outcomes, percents, swapped⟩ := outcomes_of_last_lines "ls" "r1" run run slower faster
  have wall : Last (lines slower) "WallTime" (some "n/a") := get?_read_eq_iff.1 (by decide +kernel)
  have wall' : Last (lines faster) "WallTime" (some "7") := get?_read_eq_iff.1 (by decide +kernel)
  have textual : Judged (some "n/a") (some "7") (.nonNumeric "n/a" "7") :=
    .nonNumeric (.inl (by decide +kernel))
  have mirrors : Mirrors (.nonNumeric "n/a" "7") (.nonNumeric "7" "n/a") := .nonNumeric ..
  have member := (outcomes _ _).2 ⟨by decide, _, _, wall, wall', textual⟩
  refine ⟨mirrors, (swapped _ _ _ mirrors).1 member, (percents _ _).1 ?_⟩
  decide +kernel

end ComparisonRecord

end GuidedExploration
