import GuidedExploration.Proofs.Aggregation.VisitingOrder
import GuidedExploration.Proofs.Trace.Reading
import GuidedExploration.Proofs.ValueMap.Stored

/-!
Maps made from trace files. Two traces with the same observations, in any order, give one map and
one file.
-/

set_option autoImplicit false

namespace GuidedExploration

namespace ValueMap

open FileSystem ObservationTable

theorem ingredients_eq (opened : Except Cause Source) :
    ingredients opened = ((Trace.settled opened).table, (Trace.settled opened).summary) := by
  rcases opened with cause | ⟨bytes, _ | cause⟩
  · cases cause <;> rfl
  · rw [ingredients, ObservationTable.load, Trace.read_to_end]
    rfl
  · rw [ingredients, ObservationTable.load, Trace.read_broken]
    rfl

def Report.ofTrace (trace : Trace) (t : Thresholds) : Report where
  trace := trace.summary
  thresholds := t
  keys := (trace.table.buildMap t).size
  variableCount := (trace.table.buildMap t).variableCount

theorem generateFrom_eq (opened : Except Cause Source) (out : Path) (t : Thresholds) :
    generateFrom opened out t =
      (do
        ((Trace.settled opened).table.buildMap t).save out
        return ((Trace.settled opened).table.buildMap t, .ofTrace (Trace.settled opened) t)) := by
  rw [generateFrom, ingredients_eq]
  rfl

theorem on_generate_eq (trace out : Path) (t : Thresholds) (fs : FileSystem) :
    (generate trace out t).on fs = (generateFrom (fs.source trace) out t).on fs := by
  rw [generate, Operation.on_bind, Operation.on_get]

theorem generateFrom_ok {opened : Except Cause Source} {out : Path} {t : Thresholds}
    {fs after : FileSystem} {map : ValueMap} {report : Report}
    (made : (generateFrom opened out t).on fs = (.ok (map, report), after)) :
    map = (Trace.settled opened).table.buildMap t ∧
      report = .ofTrace (Trace.settled opened) t ∧ (map.save out).on fs = (.ok (), after) := by
  rw [generateFrom_eq, Operation.on_bind] at made
  rcases saved : (((Trace.settled opened).table.buildMap t).save out).on fs with
    ⟨fault | ⟨⟩, between⟩
  · simp [saved] at made
  · rw [saved] at made
    cases made
    exact ⟨rfl, rfl, saved⟩

theorem on_generateFrom {opened : Except Cause Source} {out : Path} {t : Thresholds}
    {fs after : FileSystem}
    (saved : (((Trace.settled opened).table.buildMap t).save out).on fs = (.ok (), after)) :
    (generateFrom opened out t).on fs =
      (.ok ((Trace.settled opened).table.buildMap t, .ofTrace (Trace.settled opened) t), after) := by
  rw [generateFrom_eq, Operation.on_bind, saved]
  rfl

theorem generate_ok {trace out : Path} {t : Thresholds} {fs after : FileSystem} {map : ValueMap}
    {report : Report} (made : (generate trace out t).on fs = (.ok (map, report), after)) :
    map = (Trace.settled (fs.source trace)).table.buildMap t ∧
      (map.save out).on fs = (.ok (), after) := by
  rw [on_generate_eq] at made
  obtain ⟨built, -, saved⟩ := generateFrom_ok made
  exact ⟨built, saved⟩

theorem bytes_of_generate {trace out : Path} {t : Thresholds} {fs after : FileSystem}
    {map : ValueMap} {report : Report}
    (made : (generate trace out t).on fs = (.ok (map, report), after)) :
    after.bytes out = .ok map.toJson.pretty.toUTF8 :=
  bytes_of_text (Records.writeJson_ok (generate_ok made).2).1

theorem exists_generateFrom {fs : FileSystem} {out : Path} (ready : Writable fs out)
    (opened : Except Cause Source) (t : Thresholds) :
    ∃ map report after, (generateFrom opened out t).on fs = (.ok (map, report), after) := by
  obtain ⟨after, saved⟩ := on_writeText ready
    ((Trace.settled opened).table.buildMap t).toJson.pretty
  exact ⟨_, _, after, on_generateFrom saved⟩

theorem exists_generate {fs : FileSystem} {out : Path} (ready : Writable fs out) (trace : Path)
    (t : Thresholds) :
    ∃ map report after, (generate trace out t).on fs = (.ok (map, report), after) := by
  rw [on_generate_eq]
  exact exists_generateFrom ready (fs.source trace) t

/-- Reordering, line ends, lines that are not accepted and zeros in front of ids leave the
observations of a trace the same but for their order, and traces with the same observations in any
order give one map, on every tour of their tables, and one file. -/
theorem generate_of_rearranged {fs fs' : FileSystem} {trace trace' : Path}
    {contents contents' : ByteArray} (read : fs.bytes trace = .ok contents)
    (read' : fs'.bytes trace' = .ok contents') (out out' : Path) (t : Thresholds) :
    (∀ lines lines', Trace.Holds contents.toList lines → Trace.Holds contents'.toList lines' →
      Relation.EqvGen Trace.Edit lines lines' →
      (Trace.ofBytes contents.toList).observations.Perm
        (Trace.ofBytes contents'.toList).observations) ∧
    ((Trace.ofBytes contents.toList).observations.Perm
        (Trace.ofBytes contents'.toList).observations →
      (∀ map report after map' report' after',
        (generate trace out t).on fs = (.ok (map, report), after) →
        (generate trace' out' t).on fs' = (.ok (map', report'), after') →
        map = map' ∧ ∃ written, after.bytes out = .ok written ∧ after'.bytes out' = .ok written) ∧
      (Writable fs out → ∃ map report after,
        (generate trace out t).on fs = (.ok (map, report), after)) ∧
      (Writable fs' out' → ∃ map report after,
        (generate trace' out' t).on fs' = (.ok (map, report), after)) ∧
      ∀ (tour : Tour (Trace.ofBytes contents.toList).table)
        (tour' : Tour (Trace.ofBytes contents'.toList).table), tour.map t = tour'.map t) := by
  constructor
  · intro lines lines' holds holds' edits
    rw [holds.observations, holds'.observations]
    exact Trace.perm_of_edits edits
  intro same
  have tables : (Trace.ofBytes contents.toList).table = (Trace.ofBytes contents'.toList).table :=
    ofObservations_eq_of_perm same
  refine ⟨?_, fun ready => exists_generate ready trace t,
    fun ready => exists_generate ready trace' t, ?_⟩
  · intro map report after map' report' after' made made'
    have maps : map = map' := by
      rw [(generate_ok made).1, (generate_ok made').1, Trace.settled_source_of_bytes read,
        Trace.settled_source_of_bytes read', tables]
    subst maps
    exact ⟨rfl, _, bytes_of_generate made, bytes_of_generate made'⟩
  · intro tour tour'
    rw [tour.map_eq_buildMap, tour'.map_eq_buildMap, tables]

/-- Two traces of the same observations, the second one in another order and with other lines
between them, other line ends and zeros in front of its ids. -/
def tidy : ByteArray := "loc:1:branch:0\tx:1\nloc:1:branch:0\tx:2\n".toUTF8

@[inherit_doc tidy]
def untidy : ByteArray :=
  "loc:01:branch:00\tx:2\r\nnonsense\n\nloc:1:branch:-1\ty:5\nloc:1:branch:0\tx:1".toUTF8

def bothTraces : FileSystem where
  nodes := .ofList [(["tidy"], .file tidy false), (["untidy"], .file untidy false)]
  origin := []

def once : Thresholds := { minOccurrence := 1 }

theorem generate_of_rearranged_untidy :
    ∃ map report after report' after',
      (generate ⟨"tidy"⟩ ⟨"one.json"⟩ once).on bothTraces = (.ok (map, report), after) ∧
      (generate ⟨"untidy"⟩ ⟨"other.json"⟩ once).on bothTraces = (.ok (map, report'), after') ∧
      ∃ written, after.bytes ⟨"one.json"⟩ = .ok written ∧
        after'.bytes ⟨"other.json"⟩ = .ok written := by
  have read : bothTraces.bytes ⟨"tidy"⟩ = .ok tidy := rfl
  have read' : bothTraces.bytes ⟨"untidy"⟩ = .ok untidy := rfl
  have same : (Trace.ofBytes tidy.toList).observations.Perm
      (Trace.ofBytes untidy.toList).observations := by decide +kernel
  have ready : Writable bothTraces ⟨"one.json"⟩ :=
    ⟨by rw [Action.NamesFile]; decide, by decide, ["one.json"], rfl, by decide⟩
  have ready' : Writable bothTraces ⟨"other.json"⟩ :=
    ⟨by rw [Action.NamesFile]; decide, by decide, ["other.json"], rfl, by decide⟩
  obtain ⟨alike, made, made', -⟩ :=
    (generate_of_rearranged read read' ⟨"one.json"⟩ ⟨"other.json"⟩ once).2 same
  obtain ⟨map, report, after, first⟩ := made ready
  obtain ⟨map', report', after', second⟩ := made' ready'
  obtain ⟨rfl, written, files⟩ := alike _ _ _ _ _ _ first second
  exact ⟨map, report, after, report', after', first, second, written, files⟩

end ValueMap

end GuidedExploration
