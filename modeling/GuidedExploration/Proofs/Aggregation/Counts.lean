import GuidedExploration.Proofs.Aggregation.VisitingOrder
import GuidedExploration.Proofs.Trace.Reading
import Mathlib.Algebra.Order.BigOperators.Group.List
import Mathlib.Algebra.Order.Group.Nat

/-!
What a table counts. Under each key it counts the observations recorded there and holds their
values, and after a trace was read all keys together count its accepted lines, so that no count of
a site, whatever the order in which it is added up, is greater or needs more than 64 bits.
-/

set_option autoImplicit false

namespace GuidedExploration

namespace Sightings

section

variable {s : Sightings} {values : List String}

theorem Summarises.cardinality_le (summary : s.Summarises values) :
    s.cardinality ≤ s.occurrences := by
  rw [summary.cardinality, summary.occurrences]
  exact (List.dedup_sublist values).length_le

theorem Summarises.cardinality_pos (summary : s.Summarises values) (present : values ≠ []) :
    1 ≤ s.cardinality := by
  obtain ⟨value, member⟩ := List.exists_mem_of_ne_nil values present
  rw [summary.cardinality]
  exact List.length_pos_of_mem (List.mem_dedup.2 member)

theorem Summarises.cardinality_eq_iff (summary : s.Summarises values) :
    s.cardinality = s.occurrences ↔ values.Nodup := by
  rw [summary.cardinality, summary.occurrences, ← List.dedup_eq_self]
  constructor
  · exact (List.dedup_sublist values).eq_of_length
  · exact congrArg List.length

end

def wordCount (several : List Sightings) : UInt64 :=
  several.foldl (fun count seen => count + UInt64.ofNat seen.occurrences) 0

theorem toNat_foldl_occurrences {several : List Sightings} (count : UInt64)
    (fits : count.toNat + (several.map occurrences).sum < UInt64.size) :
    (several.foldl (fun count seen => count + UInt64.ofNat seen.occurrences) count).toNat =
      count.toNat + (several.map occurrences).sum := by
  induction several generalizing count with
  | nil => rfl
  | cons first rest ih =>
    rw [List.map_cons, List.sum_cons, ← Nat.add_assoc] at fits ⊢
    have added : (count + UInt64.ofNat first.occurrences).toNat =
        count.toNat + first.occurrences := by
      rw [UInt64.toNat_add, UInt64.toNat_ofNat', Nat.add_mod_mod]
      exact Nat.mod_eq_of_lt (Nat.lt_of_le_of_lt (Nat.le_add_right _ _) fits)
    rw [List.foldl_cons, ih _ (added ▸ fits), added]

theorem toNat_wordCount {several : List Sightings}
    (fits : (several.map occurrences).sum < UInt64.size) :
    (wordCount several).toNat = (several.map occurrences).sum := by
  have onto := toNat_foldl_occurrences 0 (by simpa using fits)
  exact onto.trans (Nat.zero_add _)

end Sightings

namespace ObservationTable

open Observation Sightings

structure Counts (table : ObservationTable) (observations : List Observation) : Prop where
  absent : ∀ key : ObservationKey,
    table.entries.get? key = none ↔ ∀ o ∈ observations, o.key ≠ key
  occurrences : ∀ key seen, table.entries.get? key = some seen →
    seen.occurrences = observations.countP fun o => decide (o.key = key)
  values : ∀ key seen, table.entries.get? key = some seen →
    ∀ value, value ∈ seen.values ↔ ∃ o ∈ observations, o.key = key ∧ o.value = value
  bounds : ∀ key seen, table.entries.get? key = some seen →
    1 ≤ seen.cardinality ∧ seen.cardinality ≤ seen.occurrences
  once : ∀ key seen, table.entries.get? key = some seen →
    (seen.cardinality = seen.occurrences ↔ (valuesAt observations key).Nodup)

theorem counts_ofObservations (observations : List Observation) :
    (ofObservations observations).Counts observations := by
  have summarised : ∀ key seen, (ofObservations observations).entries.get? key = some seen →
      valuesAt observations key ≠ [] ∧ seen.Summarises (valuesAt observations key) := by
    intro key seen found
    have recorded := recorded_get? observations key
    rw [found] at recorded
    cases recorded with
    | seen present summary => exact ⟨present, summary⟩
  constructor
  case absent =>
    intro key
    rw [(recorded_get? observations key).eq_none_iff, valuesAt, List.map_eq_nil_iff,
      List.filter_eq_nil_iff]
    simp
  case occurrences =>
    intro key seen found
    rw [(summarised key seen found).2.occurrences, valuesAt, List.length_map,
      List.countP_eq_length_filter]
  case values =>
    intro key seen found value
    rw [(summarised key seen found).2.mem_iff, mem_valuesAt]
  case bounds =>
    intro key seen found
    obtain ⟨present, summary⟩ := summarised key seen found
    exact ⟨summary.cardinality_pos present, summary.cardinality_le⟩
  case once =>
    intro key seen found
    exact (summarised key seen found).2.cardinality_eq_iff

def total (table : ObservationTable) : Nat := (table.entries.values.map occurrences).sum

theorem total_ofObservations (observations : List Observation) :
    (ofObservations observations).total = observations.length := by
  have counted := tally_ofObservations observations fun _ => true
  simp only [tally, if_true, List.filter_true] at counted
  rw [total, Dict.values, List.map_map]
  exact counted

theorem load_ok {opened : Except Cause Source} {table : ObservationTable} {summary : Trace.Summary}
    (loaded : load opened = .ok (table, summary)) :
    Trace.ofSource opened = .ok (Trace.settled opened) ∧ table = (Trace.settled opened).table ∧
      summary = (Trace.settled opened).summary ∧
      summary.accepted = (Trace.settled opened).observations.length := by
  rcases opened with cause | ⟨bytes, _ | cause⟩
  · cases cause <;> cases loaded
    exact ⟨rfl, rfl, rfl, rfl⟩
  · rw [load, Trace.read_to_end] at loaded
    cases loaded
    refine ⟨?_, rfl, rfl, rfl⟩
    rw [Trace.ofSource, Trace.read_to_end]
    simp [Trace.settled, Except.map]
  · rw [load, Trace.read_broken] at loaded
    cases loaded

theorem length_observations_settled (source : Source) :
    (Trace.settled (.ok source)).observations.length ≤ source.bytes.length := by
  obtain ⟨bytes, _ | cause⟩ := source
  · rw [Trace.settled, Trace.observations_ofBytes]
    exact (List.length_filterMap_le _ _).trans (Text.length_splitAfter_le 10 bytes)
  · exact Nat.zero_le _

theorem occurrences_of_grouped {visited : List (ObservationKey × Sightings)} {site : SiteKey}
    {seen : Sightings} (found : (groupAll visited).get? site = some seen) :
    seen.occurrences = ((branchesIn visited site).map occurrences).sum := by
  have grouped := found.symm.trans (get?_grouped visited site)
  split at grouped
  · cases grouped
  · rw [Option.some.inj grouped, occurrences_foldl_union]
    exact Nat.zero_add _

/-- At no point of a tour has a site got more than all entries have. -/
theorem Tour.sum_branchesIn_le {table : ObservationTable} (tour : Tour table)
    {visited : List (ObservationKey × Sightings)} (begun : visited <+: tour.groups) (site : SiteKey) :
    ((branchesIn visited site).map occurrences).sum ≤ table.total := by
  have fewer : (branchesIn visited site).Sublist (tour.groups.map Prod.snd) :=
    (List.filter_sublist.trans begun.sublist).map Prod.snd
  calc
    ((branchesIn visited site).map occurrences).sum
    _ ≤ ((tour.groups.map Prod.snd).map occurrences).sum :=
      (fewer.map occurrences).sum_le_sum fun _ _ => Nat.zero_le _
    _ = table.total := ((tour.groups_perm.map Prod.snd).map occurrences).sum_nat

/-- A table counts what was recorded in it. One that was loaded counts the accepted lines of the
trace, each under one key; at no point of any tour of it has a site got more than these lines, and
sums in 64-bit words come to the same as long as the number of the lines fits. -/
theorem counts_of_record (observations : List Observation) (opened : Except Cause Source) :
    (ofObservations observations).Counts observations ∧
      ∀ table summary, load opened = .ok (table, summary) →
        (∃ trace, Trace.ofSource opened = .ok trace ∧ trace.summary = summary ∧
          table.Counts trace.observations) ∧
        table.total = summary.accepted ∧
        (∀ source, opened = .ok source → summary.accepted ≤ source.bytes.length) ∧
        ∀ (tour : Tour table) visited, visited <+: tour.groups →
          ∀ site seen, (groupAll visited).get? site = some seen →
            seen.occurrences ≤ summary.accepted ∧
              (summary.accepted < UInt64.size →
                (wordCount (branchesIn visited site)).toNat = seen.occurrences) := by
  refine ⟨counts_ofObservations observations, fun table summary loaded => ?_⟩
  obtain ⟨read, built, sameSummary, accepted⟩ := load_ok loaded
  have total : table.total = summary.accepted := by
    rw [built, Trace.table, total_ofObservations, accepted]
  refine ⟨⟨_, read, sameSummary.symm, built ▸ counts_ofObservations _⟩, total, ?_,
    fun tour visited begun site seen found => ?_⟩
  · rintro source rfl
    exact accepted.trans_le (length_observations_settled source)
  · have bounded := tour.sum_branchesIn_le begun site
    rw [total] at bounded
    rw [occurrences_of_grouped found]
    exact ⟨bounded, fun fits => toNat_wordCount (Nat.lt_of_le_of_lt bounded fits)⟩

def Tour.inOrder (table : ObservationTable) : Tour table where
  branches := table.entries.entries
  groups := table.entries.entries
  sites := (groupAll table.entries.entries).entries
  values := Sightings.values
  branches_perm := .refl _
  groups_perm := .refl _
  sites_perm := .refl _
  values_perm _ := .refl _

/-- Three accepted lines at two branches of a site, and two other lines. -/
def twoBranches : List UInt8 :=
  "loc:7:branch:0\tn:1\nloc:7:branch:0\tn:1\n\nloc:7:branch:1\tn:2\nx".toUTF8.toList

theorem counts_of_twoBranches :
    ∃ table summary seen, load (.ok { bytes := twoBranches }) = .ok (table, summary) ∧
      table.total = 3 ∧ table.perSite.get? ⟨7, "n"⟩ = some seen ∧ seen.occurrences ≤ 3 ∧
      (wordCount (branchesIn table.entries.entries ⟨7, "n"⟩)).toNat = seen.occurrences := by
  have loaded : load (.ok { bytes := twoBranches }) =
      .ok ((Trace.ofBytes twoBranches).table, (Trace.ofBytes twoBranches).summary) := by
    rw [load, Trace.read_to_end]
    rfl
  have accepted : (Trace.ofBytes twoBranches).summary.accepted = 3 := by decide +kernel
  obtain ⟨seen, found⟩ := Option.isSome_iff_exists.1
    (show ((Trace.ofBytes twoBranches).table.perSite.get? ⟨7, "n"⟩).isSome = true by decide +kernel)
  obtain ⟨-, total, -, visits⟩ := (counts_of_record [] _).2 _ _ loaded
  obtain ⟨bounded, words⟩ := visits (.inOrder _) _ (List.prefix_refl _) _ _ found
  rw [accepted] at total bounded words
  exact ⟨_, _, seen, loaded, total, found, bounded, words (by decide)⟩

end ObservationTable

end GuidedExploration
