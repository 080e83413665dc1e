import GuidedExploration.Proofs.Comparison.Numbers
import GuidedExploration.Proofs.Report.Records

/-!
Files of comparisons. A comparison whose percentages are finite can be stored and leaves the file
open for others; one with a percentage that is not finite closes the file for good.
-/

set_option autoImplicit false

namespace GuidedExploration

namespace MetricOutcome

theorem isFinite_of_number? {text : String} {x : Float} (found : number? text = some x) :
    x.isFinite = true :=
  (Option.filter_eq_some_iff.1 found).2

theorem isFinite_or_percent_ofValues (b p : String) :
    ∀ x ∈ (ofValues b p).numbers, x.isFinite = true ∨ (ofValues b p).percent? = some x := by
  unfold ofValues
  split
  -- Both statistics are finite, or they would not count as numbers; the percentage is computed.
  · next b' p' first second =>
    have finite := isFinite_of_number? first
    have finite' := isFinite_of_number? second
    split_ifs with positive
    · simp [numbers, percent?, finite, finite']
    · simp [numbers, finite, finite']
  · simp [numbers]

theorem isFinite_or_percent_compare (metric : String) (b p : Statistics) :
    ∀ x ∈ (compare metric b p).numbers,
      x.isFinite = true ∨ (compare metric b p).percent? = some x := by
  unfold compare
  split
  · exact isFinite_or_percent_ofValues _ _
  all_goals simp [numbers]

theorem mem_numbers_of_percent? {o : MetricOutcome} {x : Float} (found : o.percent? = some x) :
    x ∈ o.numbers := by
  cases o with
  | improvement b p percent =>
    cases found
    simp [numbers]
  | _ => cases found

end MetricOutcome

namespace ComparisonRecord

def percents (c : ComparisonRecord) : List Float := c.metrics.filterMap fun m => m.outcome.percent?

theorem percents_subset_numbers (c : ComparisonRecord) : ∀ x ∈ c.percents, x ∈ c.numbers := by
  intro x member
  obtain ⟨m, inside, percent⟩ := List.mem_filterMap.1 member
  exact List.mem_flatMap.2 ⟨m, inside, MetricOutcome.mem_numbers_of_percent? percent⟩

/-- Statistics are finite when they count as numbers, so only percentages can fail to be. -/
theorem isFinite_numbers_ofRuns_iff (program runId : String) (b p : RunRecord) :
    (∀ x ∈ (ofRuns program runId b p).numbers, x.isFinite = true) ↔
      ∀ x ∈ (ofRuns program runId b p).percents, x.isFinite = true := by
  constructor
  · intro finite x member
    exact finite x (percents_subset_numbers _ x member)
  · intro finite x member
    obtain ⟨m, inside, number⟩ := List.mem_flatMap.1 member
    obtain ⟨metric, -, rfl⟩ := List.mem_map.1 inside
    rcases MetricOutcome.isFinite_or_percent_compare metric _ _ x number with done | percent
    · exact done
    · exact finite x (List.mem_filterMap.2 ⟨_, inside, percent⟩)

theorem ofText?_pretty_toJson (c : ComparisonRecord) :
    (Json.ofText? c.toJson.pretty).bind ofJson? = c.reread? := by
  rw [Json.ofText?_pretty, Option.bind_some]
  exact ofJsonWithin?_toJson (by decide) c

end ComparisonRecord

namespace Records

open FileSystem

theorem readComparisons_append {fs after : FileSystem} {p : Path} {c : ComparisonRecord}
    (appended : (appendComparison c p).on fs = (.ok (), after)) :
    ∃ stored, readComparisons fs p = .ok stored ∧ readComparisons after p =
      ((stored ++ [c]).mapM ComparisonRecord.reread?).elim (.error (.json p none)) .ok := by
  obtain ⟨stored, found, written⟩ := read_append appended
  have reread : ComparisonRecord.ofJsonWithin? 1 ∘ ComparisonRecord.toJson =
      ComparisonRecord.reread? :=
    funext fun c => ComparisonRecord.ofJsonWithin?_toJson (by decide) c
  rw [reread] at written
  exact ⟨stored, found, written⟩

theorem isFinite_of_readComparisons {fs : FileSystem} {p : Path} {stored : List ComparisonRecord}
    (found : readComparisons fs p = .ok stored) : ∀ c ∈ stored, ∀ x ∈ c.numbers, x.isFinite = true := by
  unfold readComparisons read at found
  split at found
  · cases found
    simp
  · cases found
  · next text _ =>
    cases read : (Json.ofText? text).bind (Json.list? (ComparisonRecord.ofJsonWithin? 1)) with
    | none =>
      rw [read] at found
      cases found
    | some records =>
      rw [read] at found
      cases found
      obtain ⟨value, -, listed⟩ := Option.bind_eq_some_iff.1 read
      intro c member
      obtain ⟨item, came⟩ := Json.exists_of_mem_list? listed member
      exact ComparisonRecord.isFinite_of_ofJsonWithin? came

structure Usable (fs : FileSystem) (p : Path) : Prop where
  readable : ∃ stored, readComparisons fs p = .ok stored
  ready : Writable fs p

theorem Usable.append {fs : FileSystem} {p : Path} (usable : Usable fs p) (c : ComparisonRecord) :
    ∃ after, (appendComparison c p).on fs = (.ok (), after) := by
  obtain ⟨stored, readable⟩ := usable.readable
  exact append_readable readable usable.ready c

theorem usable_append {fs after : FileSystem} {p : Path} {c : ComparisonRecord}
    (appended : (appendComparison c p).on fs = (.ok (), after))
    (finite : ∀ x ∈ c.numbers, x.isFinite = true) : Usable after p where
  readable := by
    obtain ⟨stored, found, read⟩ := readComparisons_append appended
    have all : ((stored ++ [c]).mapM ComparisonRecord.reread?).isSome = true := by
      rw [Json.isSome_mapM_iff]
      intro record member
      rw [ComparisonRecord.isSome_reread?_iff]
      -- The earlier records were read from the file, where no other numbers can be written.
      rcases List.mem_append.1 member with earlier | last
      · exact isFinite_of_readComparisons found record earlier
      · cases List.mem_singleton.1 last
        exact finite
    obtain ⟨kept, same⟩ := Option.isSome_iff_exists.1 all
    rw [same] at read
    exact ⟨kept, read⟩
  ready := writable_append appended

def appendComparisons (cs : List ComparisonRecord) (p : Path) : Operation Unit :=
  cs.forM fun c => appendComparison c p

theorem appendComparisons_cons (c : ComparisonRecord) (later : List ComparisonRecord) (p : Path) :
    appendComparisons (c :: later) p =
      (do
        appendComparison c p
        appendComparisons later p) := rfl

theorem Usable.appendComparisons {fs : FileSystem} {p : Path} (usable : Usable fs p)
    {later : List ComparisonRecord} (finite : ∀ c ∈ later, ∀ x ∈ c.numbers, x.isFinite = true) :
    ∃ final, (appendComparisons later p).on fs = (.ok (), final) ∧ Usable final p := by
  induction later generalizing fs with
  | nil => exact ⟨fs, rfl, usable⟩
  | cons c later ih =>
    obtain ⟨after, appended⟩ := usable.append c
    have still := usable_append appended (finite c List.mem_cons_self)
    obtain ⟨final, rest, last⟩ := ih still fun d member => finite d (List.mem_cons_of_mem c member)
    refine ⟨final, ?_, last⟩
    rw [appendComparisons_cons, Operation.on_bind, appended]
    exact rest

theorem kept_append_iff {stored : List ComparisonRecord} {c : ComparisonRecord} :
    (∃ back, (stored ++ [c]).mapM ComparisonRecord.reread? = some (stored ++ [back])) ↔
      (∀ x ∈ c.numbers, x.isFinite = true) ∧ ∀ d ∈ stored, d.Exact := by
  simp only [Json.mapM_concat_eq_some_iff, exists_and_left, ← Option.isSome_iff_exists,
    ComparisonRecord.isSome_reread?_iff, Json.mapM_eq_self_iff, ComparisonRecord.reread?_eq_self_iff]
  exact and_comm

theorem readComparisons_append_exact {fs after : FileSystem} {p : Path}
    {stored : List ComparisonRecord} {c : ComparisonRecord}
    (appended : (appendComparison c p).on fs = (.ok (), after))
    (found : readComparisons fs p = .ok stored) (exact : ∀ d ∈ stored ++ [c], d.Exact) :
    readComparisons after p = .ok (stored ++ [c]) := by
  obtain ⟨stored', found', read⟩ := readComparisons_append appended
  cases found.symm.trans found'
  rw [Json.mapM_eq_self_iff.2 fun d member => ComparisonRecord.reread?_eq_self_iff.2 (exact d member)] at read
  exact read

theorem appendComparisons_exact {fs : FileSystem} {p : Path} {stored later : List ComparisonRecord}
    (ready : Writable fs p) (found : readComparisons fs p = .ok stored)
    (exact : ∀ d ∈ stored ++ later, d.Exact) :
    ∃ final, (appendComparisons later p).on fs = (.ok (), final) ∧
      readComparisons final p = .ok (stored ++ later) := by
  induction later generalizing fs stored with
  | nil =>
    rw [List.append_nil]
    exact ⟨fs, rfl, found⟩
  | cons c later ih =>
    rw [List.append_cons] at exact ⊢
    obtain ⟨after, appended⟩ : ∃ after, (appendComparison c p).on fs = (.ok (), after) :=
      append_readable found ready c
    have kept := readComparisons_append_exact appended found fun d member =>
      exact d (List.mem_append_left later member)
    obtain ⟨final, rest, read⟩ := ih (writable_append appended) kept exact
    refine ⟨final, ?_, read⟩
    rw [appendComparisons_cons, Operation.on_bind, appended]
    exact rest

/-- Records with finite numbers can be appended to a file in any number, and any record after
them. -/
def Open (fs : FileSystem) (p : Path) : Prop :=
  ∀ later : List ComparisonRecord, (∀ c ∈ later, ∀ x ∈ c.numbers, x.isFinite = true) →
    ∃ final, (appendComparisons later p).on fs = (.ok (), final) ∧
      ∀ c, ∃ last, (appendComparison c p).on final = (.ok (), last)

/-- A file is not read, and no record can be appended to it. -/
def Closed (fs : FileSystem) (p : Path) : Prop :=
  readComparisons fs p = .error (.json p none) ∧
    ∀ c, (appendComparison c p).on fs = (.error (.json p none), fs)

theorem closed_append {fs after : FileSystem} {p : Path} {c : ComparisonRecord}
    (appended : (appendComparison c p).on fs = (.ok (), after))
    (infinite : ¬∀ x ∈ c.numbers, x.isFinite = true) : Closed after p := by
  obtain ⟨stored, -, read⟩ := readComparisons_append appended
  -- One record that is not read back is enough for the file not to be read.
  have none : (stored ++ [c]).mapM ComparisonRecord.reread? = none := by
    rw [← Option.not_isSome_iff_eq_none, Json.isSome_mapM_iff]
    intro all
    exact infinite (ComparisonRecord.isSome_reread?_iff.1 (all c (by simp)))
  rw [none] at read
  exact ⟨read, append_unreadable read⟩

theorem Usable.open {fs : FileSystem} {p : Path} (usable : Usable fs p) : Open fs p := by
  intro later finite
  obtain ⟨final, appended, still⟩ := usable.appendComparisons finite
  exact ⟨final, appended, still.append⟩

theorem Closed.not_open {fs : FileSystem} {p : Path} (closed : Closed fs p) (c : ComparisonRecord) :
    ¬Open fs p := by
  intro opened
  obtain ⟨final, none, appended⟩ := opened [] (by simp)
  cases none
  obtain ⟨last, appended⟩ := appended c
  rw [closed.2 c] at appended
  cases appended

theorem open_append_iff {fs after : FileSystem} {p : Path} {c : ComparisonRecord}
    (appended : (appendComparison c p).on fs = (.ok (), after)) :
    Open after p ↔ ∀ x ∈ c.numbers, x.isFinite = true := by
  constructor
  · intro opened
    by_contra infinite
    exact (closed_append appended infinite).not_open c opened
  · intro finite
    exact (usable_append appended finite).open

end Records

/-- What becomes of a comparison that is stored. It is read back exactly if its percentages are
finite, and as an equal one exactly if its numbers are all read as themselves. With finite
percentages every later record can be appended to its file; otherwise the file is closed. What was
in the file before is kept exactly if its numbers are read as themselves. -/
theorem ComparisonRecord.stored_iff (program runId : String) (baseline profileGuided : RunRecord) :
    let c := ofRuns program runId baseline profileGuided
    (((Json.ofText? c.toJson.pretty).bind ofJson?).isSome = true ↔
        ∀ x ∈ c.percents, x.isFinite = true) ∧
      ((∃ back, (Json.ofText? c.toJson.pretty).bind ofJson? = some back ∧ (back == c) = true) ↔
        c.Exact) ∧
      ∀ (fs after : FileSystem) (p : Path),
        (Records.appendComparison c p).on fs = (.ok (), after) →
          (Records.Open after p ↔ ∀ x ∈ c.percents, x.isFinite = true) ∧
            (Records.Closed after p ↔ ¬∀ x ∈ c.percents, x.isFinite = true) ∧
            ∃ stored, Records.readComparisons fs p = .ok stored ∧
              ((∃ back, Records.readComparisons after p = .ok (stored ++ [back])) ↔
                (∀ x ∈ c.percents, x.isFinite = true) ∧ ∀ d ∈ stored, d.Exact) ∧
              ∀ later, (∀ d ∈ stored ++ c :: later, d.Exact) →
                ∃ final, (Records.appendComparisons later p).on after = (.ok (), final) ∧
                  Records.readComparisons final p = .ok (stored ++ c :: later) := by
  intro c
  have finite : (∀ x ∈ c.numbers, x.isFinite = true) ↔ ∀ x ∈ c.percents, x.isFinite = true :=
    isFinite_numbers_ofRuns_iff program runId baseline profileGuided
  rw [ofText?_pretty_toJson, isSome_reread?_iff, exists_reread?_beq_iff, ← finite]
  refine ⟨Iff.rfl, Iff.rfl, fun fs after p appended => ⟨Records.open_append_iff appended, ?_, ?_⟩⟩
  · constructor
    · intro closed opened
      exact closed.not_open c ((Records.open_append_iff appended).2 opened)
    · exact Records.closed_append appended
  · obtain ⟨stored, found, read⟩ := Records.readComparisons_append appended
    refine ⟨stored, found, ?_, fun later exact => ?_⟩
    -- The file is read exactly if all its records are read back.
    · rw [← Records.kept_append_iff, read]
      cases (stored ++ [c]).mapM reread? <;> simp
    · rw [List.append_cons] at exact ⊢
      have kept := Records.readComparisons_append_exact appended found fun d member =>
        exact d (List.mem_append_left later member)
      exact Records.appendComparisons_exact (Records.writable_append appended) kept exact

namespace ComparisonRecord

def timed (time : String) : RunRecord where
  success := true
  exitCode := 0
  outputDirectory := ⟨"out"⟩
  artifactCount := 1
  statistics := .insert .empty "SolverTime" time
  output := ""
  timedOut := false

theorem writable_results : FileSystem.Writable .empty ⟨"results.json"⟩ where
  namesFile := rfl
  parent := by decide +kernel
  place := ⟨["results.json"], by decide +kernel, by decide +kernel⟩

theorem readComparisons_empty :
    Records.readComparisons .empty ⟨"results.json"⟩ = .ok [] := by
  have missing : FileSystem.empty.text ⟨"results.json"⟩ = .error .notFound := by rfl
  rw [Records.readComparisons, Records.read, missing]

theorem stored_in_new_file :
    ∃ after, (Records.appendComparison (ofRuns "ls" "r1" (timed "100") (timed "40"))
        ⟨"results.json"⟩).on .empty = (.ok (), after) ∧
      Records.Open after ⟨"results.json"⟩ ∧
      ∃ back, Records.readComparisons after ⟨"results.json"⟩ = .ok [back] := by
  have finite : ∀ x ∈ (ofRuns "ls" "r1" (timed "100") (timed "40")).percents,
      x.isFinite = true := by decide +kernel
  obtain ⟨after, appended⟩ := Records.append_readable readComparisons_empty writable_results
    (ofRuns "ls" "r1" (timed "100") (timed "40"))
  obtain ⟨-, -, file⟩ := stored_iff "ls" "r1" (timed "100") (timed "40")
  obtain ⟨opened, -, stored, found, kept⟩ := file .empty after ⟨"results.json"⟩ appended
  have none : stored = [] := Except.ok.inj (found.symm.trans readComparisons_empty)
  subst none
  exact ⟨after, appended, opened.2 finite, kept.1.2 ⟨finite, by simp⟩⟩

/-- A percentage out of range closes the file that it is stored in. One within range may be read
as its neighbour. -/
theorem stored_not_as_compared :
    ((Json.ofText? (ofRuns "ls" "r1" (timed "1e-308") (timed "1e308")).toJson.pretty).bind ofJson? =
        none ∧
      ∃ after, (Records.appendComparison (ofRuns "ls" "r1" (timed "1e-308") (timed "1e308"))
          ⟨"results.json"⟩).on .empty = (.ok (), after) ∧
        Records.Closed after ⟨"results.json"⟩) ∧
    ¬∃ back, (Json.ofText? (ofRuns "ls" "r1" (timed "3") (timed "10")).toJson.pretty).bind ofJson? =
      some back ∧ (back == ofRuns "ls" "r1" (timed "3") (timed "10")) = true := by
  have infinite : ¬∀ x ∈ (ofRuns "ls" "r1" (timed "1e-308") (timed "1e308")).numbers,
      x.isFinite = true := by decide +kernel
  have misread : ¬(ofRuns "ls" "r1" (timed "3") (timed "10")).Exact := by
    unfold Exact
    decide +kernel
  obtain ⟨after, appended⟩ := Records.append_readable readComparisons_empty writable_results
    (ofRuns "ls" "r1" (timed "1e-308") (timed "1e308"))
  rw [ofText?_pretty_toJson, ofText?_pretty_toJson, exists_reread?_beq_iff]
  refine ⟨⟨?_, after, appended, Records.closed_append appended infinite⟩, misread⟩
  rw [← Option.not_isSome_iff_eq_none, isSome_reread?_iff]
  exact infinite

end ComparisonRecord

end GuidedExploration
