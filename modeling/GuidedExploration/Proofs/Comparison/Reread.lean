import GuidedExploration.Comparison.Record
import GuidedExploration.Proofs.Json.Reread
import GuidedExploration.Proofs.Json.Schema

/-!
What a written comparison is read back as: the same record but for its numbers, each of which is
read back on its own. A number that is not finite is not read back, and then the record is not.
-/

set_option autoImplicit false

namespace GuidedExploration

theorem Json.isSound_ofFloat {x y : Float} (found : Json.reread? x = some y) :
    (Json.ofFloat x).isSound = true := by
  unfold Json.reread? Json.ofFloat at found
  unfold Json.ofFloat
  split at found
  · next finite =>
    rw [if_pos finite]
    exact Option.isSome_iff_exists.2 ⟨y, found⟩
  · cases found

theorem Json.depth_ofFloat (x : Float) : (Json.ofFloat x).depth = 0 := by
  unfold Json.ofFloat
  split <;> rfl

namespace RunRecord

theorem ofJson?_toJson (r : RunRecord) : ofJson? r.toJson = some r := by
  have written : r.toJson.fields? fields = some
    [("success", .bool r.success), ("exitCode", .integer r.exitCode.toInt),
     ("outputDirectory", r.outputDirectory.toJson),
     ("artifactCount", .natural r.artifactCount.toNat),
     ("statistics", .ofDict id Json.text r.statistics), ("combinedOutput", .text r.output),
     ("timedOut", .bool r.timedOut)] := Json.fields?_record rfl (by decide)
  simp only [ofJson?, written, Option.bind_eq_bind, Option.bind_some]
  simp [Json.bool?, Path.ofJson?, Path.toJson]

end RunRecord

theorem MetricKind.ofName?_name (kind : MetricKind) : ofName? kind.name = some kind := by
  cases kind <;> rfl

namespace MetricOutcome

def reread? : MetricOutcome → Option MetricOutcome
  | improvement b p percent => do
    let b ← Json.reread? b
    let p ← Json.reread? p
    let percent ← Json.reread? percent
    return improvement b p percent
  | notApplicable b p => do
    let b ← Json.reread? b
    let p ← Json.reread? p
    return notApplicable b p
  | o => some o

theorem map_fst_values (o : MetricOutcome) : o.values.map Prod.fst = o.kind.fields := by
  cases o <;> rfl

theorem depth_values (o : MetricOutcome) : ∀ member ∈ o.values, member.2.depth = 0 := by
  cases o <;> simp [values, Json.depth_ofFloat, Json.depth, Json.text]

theorem isSound_values {o o' : MetricOutcome} (found : o.reread? = some o') :
    ∀ member ∈ o.values, member.2.isSound = true := by
  cases o with
  | improvement b p percent =>
    simp only [reread?, Option.bind_eq_bind, Option.bind_eq_some_iff] at found
    obtain ⟨b', first, p', second, percent', third, -⟩ := found
    simp [values, Json.isSound_ofFloat first, Json.isSound_ofFloat second, Json.isSound_ofFloat third]
  | notApplicable b p =>
    simp only [reread?, Option.bind_eq_bind, Option.bind_eq_some_iff] at found
    obtain ⟨b', first, p', second, -⟩ := found
    simp [values, Json.isSound_ofFloat first, Json.isSound_ofFloat second]
  | _ => simp [values, Json.isSound, Json.text]

theorem ofMembers?_members (o : MetricOutcome) {front : List (String × Json)}
    (distinct : ((front ++ o.values).map Prod.fst).Nodup) :
    ofMembers? o.kind ((front ++ o.values).map fun (name, value) => (some name, value)) =
      o.reread? := by
  have own : (front ++ o.values).filter (fun member => o.kind.fields.contains member.1) =
      o.values := by
    rw [List.map_append, map_fst_values] at distinct
    have apart := (List.nodup_append.1 distinct).2.2
    rw [List.filter_append, List.filter_eq_nil_iff.2, List.filter_eq_self.2, List.nil_append]
    · intro member inside
      rw [← map_fst_values, List.contains_iff_mem]
      exact List.mem_map_of_mem inside
    · intro member inside known
      exact apart _ (List.mem_map_of_mem inside) _ (List.contains_iff_mem.1 known) rfl
  simp only [ofMembers?, Json.known?_record o.kind.fields distinct, own]
  cases o <;> simp [kind, values, reread?, Json.reread?]

end MetricOutcome

namespace MetricComparison

def reread? (c : MetricComparison) : Option MetricComparison :=
  c.outcome.reread?.map fun outcome => { c with outcome }

def front (c : MetricComparison) : List (String × Json) :=
  [("metric", .text c.metric), ("kind", .text c.outcome.kind.name)]

theorem toJson_eq (c : MetricComparison) : c.toJson = .record (c.front ++ c.outcome.values) := rfl

theorem distinct_members (c : MetricComparison) :
    ((c.front ++ c.outcome.values).map Prod.fst).Nodup := by
  have names : ∀ kind : MetricKind, (["metric", "kind"] ++ kind.fields).Nodup := by
    intro kind
    cases kind <;> decide
  rw [List.map_append, MetricOutcome.map_fst_values]
  exact names c.outcome.kind

theorem known?_front (c : MetricComparison) :
    (c.front ++ c.outcome.values).filter
      (fun member => ["metric", "kind"].contains member.1) = c.front := by
  have others : ∀ kind : MetricKind, ∀ name ∈ kind.fields, ["metric", "kind"].contains name = false := by
    intro kind
    cases kind <;> decide
  rw [List.filter_append, List.filter_eq_self.2, List.filter_eq_nil_iff.2, List.append_nil]
  · intro member inside known
    have own : member.1 ∈ c.outcome.kind.fields := by
      rw [← MetricOutcome.map_fst_values]
      exact List.mem_map_of_mem inside
    rw [others _ _ own] at known
    cases known
  · simp [front]

theorem depth_toJson (c : MetricComparison) : c.toJson.depth = 1 := by
  rw [toJson_eq]
  refine Json.depth_record fun member inside => ?_
  rcases List.mem_append.1 inside with first | second
  · rcases List.mem_pair.1 first with rfl | rfl <;> rfl
  · exact c.outcome.depth_values member second

theorem isReadable_toJson {outer : Nat} (shallow : outer + 1 ≤ MetricOutcome.depthLimit)
    {c c' : MetricComparison} (found : c.reread? = some c') :
    MetricOutcome.isReadable outer c.toJson = true := by
  obtain ⟨o, read, -⟩ := Option.map_eq_some_iff.1 found
  have sound : c.toJson.isSound = true := by
    rw [toJson_eq, Json.isSound_record, List.all_append, Bool.and_eq_true, List.all_eq_true,
      List.all_eq_true]
    refine ⟨fun member inside => ?_, MetricOutcome.isSound_values read⟩
    rcases List.mem_pair.1 inside with rfl | rfl <;> rfl
  simp [MetricOutcome.isReadable, sound, depth_toJson, shallow]

theorem ofJson?_toJson {outer : Nat} (shallow : outer + 1 ≤ MetricOutcome.depthLimit)
    (c : MetricComparison) : ofJson? outer c.toJson = c.reread? := by
  have outcome := c.outcome.ofMembers?_members c.distinct_members
  have known := Json.known?_record ["metric", "kind"] c.distinct_members
  rw [c.known?_front] at known
  have kind : kind? (.text c.outcome.kind.name) = some c.outcome.kind :=
    MetricKind.ofName?_name c.outcome.kind
  have shape : c.toJson =
      .object ((c.front ++ c.outcome.values).map fun (name, value) => (some name, value)) := rfl
  -- The members are named before the reader is opened, or it would be run on each of them.
  generalize (c.front ++ c.outcome.values).map
    (fun (name, value) => ((some name, value) : Option String × Json)) = members
    at outcome known shape
  cases readable : MetricOutcome.isReadable outer c.toJson with
  | true =>
    rw [shape] at readable ⊢
    simp only [ofJson?, readable, if_true, known, Option.bind_eq_bind, Option.bind_some]
    simp only [front, Json.required?_head, Json.text?_text, Option.bind_some]
    rw [Json.required?_tail _ _ (by decide), Json.required?_head, kind, Option.bind_some, outcome,
      reread?]
    cases c.outcome.reread? <;> rfl
  | false =>
    cases found : c.reread? with
    | none =>
      rw [shape] at readable ⊢
      simp only [ofJson?, readable, Bool.false_eq_true, if_false]
    | some c' => simp [isReadable_toJson shallow found] at readable

end MetricComparison

namespace ComparisonRecord

def reread? (c : ComparisonRecord) : Option ComparisonRecord :=
  (c.metrics.mapM MetricComparison.reread?).map fun metrics => { c with metrics }

theorem ofJsonWithin?_toJson {outer : Nat} (shallow : outer + 3 ≤ MetricOutcome.depthLimit)
    (c : ComparisonRecord) : ofJsonWithin? outer c.toJson = c.reread? := by
  have written : c.toJson.fields? fields = some
    [("program", .text c.program), ("runId", .text c.runId), ("baseline", c.baseline.toJson),
     ("profileGuided", c.profileGuided.toJson),
     ("metrics", .array (c.metrics.map MetricComparison.toJson))] :=
    Json.fields?_record rfl (by decide)
  have metrics : (c.metrics.map MetricComparison.toJson).mapM (MetricComparison.ofJson? (outer + 2)) =
      c.metrics.mapM MetricComparison.reread? := by
    rw [List.mapM_map]
    exact congrArg (c.metrics.mapM ·) (funext fun m => m.ofJson?_toJson (by omega))
  simp only [ofJsonWithin?, written, Option.bind_eq_bind, Option.bind_some]
  simp [RunRecord.ofJson?_toJson, Json.list?, metrics, reread?]
  cases c.metrics.mapM MetricComparison.reread? <;> rfl

end ComparisonRecord

end GuidedExploration
