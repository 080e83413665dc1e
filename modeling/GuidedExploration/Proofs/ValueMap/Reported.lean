import GuidedExploration.Proofs.ValueMap.Generated
import Mathlib.Data.List.Nodup

/-!
What is returned, stored and reported of a map, however the trace was found. A trace that was read
to its end is used as a whole, and one that was not leaves nothing behind but the flag that says so.
-/

set_option autoImplicit false

namespace GuidedExploration

theorem ObservationTable.buildMap_empty (t : Thresholds) : empty.buildMap t = .empty := by
  unfold buildMap
  split <;> rfl

namespace ValueMap

open FileSystem ObservationTable

def listings (map : ValueMap) : List (MapKey × String) :=
  map.entries.entries.flatMap fun (key, listed) => listed.keys.map fun name => (key, name)

theorem mem_listings {map : ValueMap} {key : MapKey} {name : String} :
    (key, name) ∈ map.listings ↔ ∃ values, map.values? key name = some values := by
  simp only [listings, List.mem_flatMap, List.mem_map, Prod.exists, Prod.mk.injEq]
  constructor
  · rintro ⟨key, listed, stands, name, member, rfl, rfl⟩
    obtain ⟨values, found⟩ := listed.mem_keys_iff.1 member
    have under : map.get? key = some listed := map.entries.get?_eq_some_iff.2 stands
    exact ⟨values, by rw [values?, under, Option.bind_some, found]⟩
  · rintro ⟨values, found⟩
    obtain ⟨listed, under, found⟩ := Option.bind_eq_some_iff.1 found
    exact ⟨key, listed, map.entries.get?_eq_some_iff.1 under, name,
      listed.mem_keys_iff.2 ⟨values, found⟩, rfl, rfl⟩

theorem nodup_listings (map : ValueMap) : map.listings.Nodup := by
  refine List.nodup_flatMap.2 ⟨fun entry _ => ?_, ?_⟩
  · exact entry.2.nodup_keys.map fun _ _ same => (Prod.mk.inj same).2
  -- The keys of two entries differ, and so do all their pairs.
  · refine map.entries.ascending.imp fun before => ?_
    intro pair here there
    obtain ⟨_, _, rfl⟩ := List.mem_map.1 here
    obtain ⟨_, _, same⟩ := List.mem_map.1 there
    exact Ranked.ne_of_lt before (Prod.mk.inj same).1.symm

theorem length_listings (map : ValueMap) : map.listings.length = map.variableCount := by
  have sizes : ∀ (entries : List (MapKey × VariableValues)) (n : Nat),
      (entries.map (·.2)).foldl (fun n listed => n + listed.size) n =
        n + (entries.flatMap fun (key, listed) => listed.keys.map fun name => (key, name)).length := by
    intro entries
    induction entries with
    | nil => exact fun n => rfl
    | cons entry rest ih =>
      intro n
      rw [List.map_cons, List.foldl_cons, ih]
      simp [Dict.size, Dict.keys, Nat.add_assoc]
  rw [variableCount, Dict.values, sizes, Nat.zero_add, listings]

/-- The numbers of a report are those of the keys of a map, and of its keys with their variables. -/
structure Report.Counts (report : Report) (map : ValueMap) : Prop where
  keys : ∃ keys : List MapKey, keys.Nodup ∧
    (∀ key, key ∈ keys ↔ ∃ listed, map.get? key = some listed) ∧ report.keys = keys.length
  listings : ∃ pairs : List (MapKey × String), pairs.Nodup ∧
    (∀ key name, (key, name) ∈ pairs ↔ ∃ values, map.values? key name = some values) ∧
    report.variableCount = pairs.length

theorem counts_ofTrace (trace : Trace) (t : Thresholds) :
    (Report.ofTrace trace t).Counts (trace.table.buildMap t) where
  keys := ⟨_, Dict.nodup_keys _, fun _ => Dict.mem_keys_iff _, List.length_map _ |>.symm⟩
  listings := ⟨_, nodup_listings _, fun _ _ => mem_listings, (length_listings _).symm⟩

inductive MadeFrom (t : Thresholds) : Except Cause Source → ValueMap → Trace.Summary → Prop where
  | whole (bytes : List UInt8) :
      MadeFrom t (.ok { bytes }) ((Trace.ofBytes bytes).table.buildMap t) (Trace.ofBytes bytes).summary
  | broken (bytes : List UInt8) (cause : Cause) :
      MadeFrom t (.ok { bytes, failure := some cause }) .empty { readFailed := true }
  | missing : MadeFrom t (.error .notFound) .empty { fileMissing := true }
  | unopened {cause : Cause} : cause ≠ .notFound →
      MadeFrom t (.error cause) .empty { readFailed := true }

theorem madeFrom_settled (t : Thresholds) (opened : Except Cause Source) :
    MadeFrom t opened ((Trace.settled opened).table.buildMap t) (Trace.settled opened).summary := by
  have nothing : ∀ summary, (Trace.mk [] summary).table.buildMap t = .empty :=
    fun _ => buildMap_empty t
  rcases opened with cause | ⟨bytes, _ | cause⟩
  · by_cases absent : cause = .notFound
    · subst absent
      rw [Trace.settled, Trace.missing, nothing]
      exact .missing
    · rw [Trace.settled, Trace.unreadable, nothing]
      · exact .unopened absent
      · exact absent
  · exact .whole bytes
  · rw [Trace.settled, Trace.unreadable, nothing]
    exact .broken bytes cause

theorem MadeFrom.lists {t : Thresholds} {bytes : List UInt8} {map : ValueMap}
    {summary : Trace.Summary} (made : MadeFrom t (.ok { bytes }) map summary) :
    Lists map t (Trace.ofBytes bytes).observations := by
  cases made
  exact lists_buildMap _ t

/-- However a trace is found, there is one map to make and one report of it. Making it fails just
when saving that map fails, and otherwise the file holds the map that is returned. -/
theorem generateFrom_of_any_source (opened : Except Cause Source) (out : Path) (t : Thresholds)
    (fs : FileSystem) :
    (∃ map report, MadeFrom t opened map report.trace ∧ report.thresholds = t ∧ report.Counts map ∧
      (∀ fault after, (generateFrom opened out t).on fs = (.error fault, after) ↔
        (map.save out).on fs = (.error fault, after)) ∧
      (∀ made after, (generateFrom opened out t).on fs = (.ok made, after) →
        made = (map, report) ∧ load after out = .ok map) ∧
      (Writable fs out → ∃ after,
        (generateFrom opened out t).on fs = (.ok (map, report), after))) ∧
    ∀ trace, (generate trace out t).on fs = (generateFrom (fs.source trace) out t).on fs := by
  refine ⟨⟨_, .ofTrace (Trace.settled opened) t, madeFrom_settled t opened, rfl,
    counts_ofTrace _ t, ?_, ?_, ?_⟩, fun trace => on_generate_eq trace out t fs⟩
  · intro fault after
    rw [generateFrom_eq, Operation.on_bind]
    rcases (((Trace.settled opened).table.buildMap t).save out).on fs with
      ⟨fault' | ⟨⟩, between⟩ <;> simp
  · rintro ⟨map, report⟩ after made
    obtain ⟨rfl, rfl, saved⟩ := generateFrom_ok made
    exact ⟨rfl, (load_save _ fs out).1 after saved⟩
  · intro ready
    obtain ⟨after, saved⟩ := (load_save _ fs out).2 ready
    exact ⟨after, on_generateFrom saved⟩

/-- Reading fails behind two accepted lines, which were in the table by then, or comes to the end. -/
theorem generateFrom_of_broken_and_whole_source :
    ((Trace.read record (.ok { bytes := tidy.toList, failure := some .inputOutput }) .empty).2 ≠
        .empty ∧
      ∃ report after,
        (generateFrom (.ok { bytes := tidy.toList, failure := some .inputOutput }) ⟨"map.json"⟩
          once).on .empty = (.ok (.empty, report), after) ∧
        load after ⟨"map.json"⟩ = .ok .empty ∧
        report.trace = { readFailed := true }) ∧
    ∃ map report after,
      (generateFrom (.ok { bytes := tidy.toList }) ⟨"map.json"⟩ once).on .empty =
        (.ok (map, report), after) ∧
      load after ⟨"map.json"⟩ = .ok map ∧
      map.values? (.ofBranch 1 0) "x" = some [.plain "1", .plain "2"] := by
  have ready : Writable .empty ⟨"map.json"⟩ :=
    ⟨by rw [Action.NamesFile]; decide, by decide, ["map.json"], rfl, by decide⟩
  refine ⟨⟨by decide +kernel, ?_⟩, ?_⟩
  · obtain ⟨map, report, origin, -, -, -, returned, possible⟩ :=
      (generateFrom_of_any_source (.ok { bytes := tidy.toList, failure := some .inputOutput })
        ⟨"map.json"⟩ once .empty).1
    obtain ⟨after, made⟩ := possible ready
    generalize counted : report.trace = summary at origin
    cases origin
    exact ⟨report, after, made, (returned _ after made).2, counted⟩
  · obtain ⟨map, report, origin, -, -, -, returned, possible⟩ :=
      (generateFrom_of_any_source (.ok { bytes := tidy.toList }) ⟨"map.json"⟩ once .empty).1
    obtain ⟨after, made⟩ := possible ready
    refine ⟨map, report, after, made, (returned _ after made).2, ?_⟩
    have seen : Observation.valuesAt (Trace.ofBytes tidy.toList).observations ⟨1, 0, "x"⟩ =
        ["1", "2"] := by decide +kernel
    have listing : Values.IsListing ["1", "2"] [.plain "1", .plain "2"] :=
      Values.isListing_entries (by decide : ["1", "2"].Nodup) fun _ => Iff.rfl
    rw [origin.lists.branches, seen]
    exact ⟨⟨by decide, by decide, by decide⟩, listing⟩

end ValueMap

end GuidedExploration
