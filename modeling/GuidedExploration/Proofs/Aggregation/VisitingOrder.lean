import GuidedExploration.Proofs.Aggregation.Listing

/-!
No order shows in a value map: neither that of the observations, nor those in which the entries of
the table, its sites and the values under a key are visited.
-/

set_option autoImplicit false

namespace GuidedExploration

namespace Sightings

theorem ext_values {s t : Sightings} (occurrences : s.occurrences = t.occurrences)
    (values : ∀ value, value ∈ s.values ↔ value ∈ t.values) : s = t := by
  have distinct : s.distinct = t.distinct := by
    apply Dict.ext
    intro value
    have same := values value
    simp only [Sightings.values, Dict.mem_keys_iff] at same
    cases left : s.distinct.get? value with
    | none =>
      cases right : t.distinct.get? value with
      | none => rfl
      | some seen => simp [left, right] at same
    | some seen =>
      obtain ⟨seen', right⟩ := same.1 ⟨seen, left⟩
      exact right.symm
  cases s
  cases t
  cases occurrences
  cases distinct
  rfl

theorem union_right_comm (s a b : Sightings) : (s.union a).union b = (s.union b).union a := by
  apply ext_values
  · exact Nat.add_right_comm s.occurrences a.occurrences b.occurrences
  · intro value
    simp only [mem_values_union, or_assoc, or_comm (a := value ∈ a.values)]

theorem Recorded.eq_of_perm {found found' : Option Sightings} {values values' : List String}
    (recorded : Recorded found values) (recorded' : Recorded found' values')
    (same : values.Perm values') : found = found' := by
  cases recorded with
  | nothing =>
    rw [List.nil_perm.1 same] at recorded'
    exact (recorded'.eq_none_iff.2 rfl).symm
  | seen present summary =>
    cases recorded' with
    | nothing => exact absurd (List.perm_nil.1 same) present
    | seen _ summary' =>
      refine congrArg some (ext_values ?_ fun value => ?_)
      · rw [summary.occurrences, summary'.occurrences, same.length_eq]
      · rw [summary.mem_iff, summary'.mem_iff, same.mem_iff]

end Sightings

namespace ObservationTable

open Observation Sightings

theorem ofObservations_eq_of_perm {observations observations' : List Observation}
    (same : observations.Perm observations') :
    ofObservations observations = ofObservations observations' := by
  have entries : (ofObservations observations).entries = (ofObservations observations').entries := by
    apply Dict.ext
    intro key
    apply (recorded_get? observations key).eq_of_perm (recorded_get? observations' key)
    exact (same.filter _).map value
  cases left : ofObservations observations
  cases right : ofObservations observations'
  rw [left, right] at entries
  exact congrArg ObservationTable.mk entries

def groupAll (entries : List (ObservationKey × Sightings)) : Dict SiteKey Sightings :=
  entries.foldl
    (fun sites (key, seen) =>
      sites.update key.atSite fun before => (before.getD {}).union seen)
    .empty

theorem groupAll_eq_of_perm {entries entries' : List (ObservationKey × Sightings)}
    (same : entries.Perm entries') : groupAll entries = groupAll entries' := by
  apply same.foldl_eq'
  rintro ⟨key, seen⟩ - ⟨key', seen'⟩ - sites
  apply Dict.ext
  intro site
  simp only [Dict.get?_update]
  by_cases here : site = key.atSite
  · by_cases there : site = key'.atSite
    · simp [← here, ← there, union_right_comm]
    · simp [← here, there]
  · by_cases there : site = key'.atSite
    · simp [here, ← there]
    · simp [here, there]

theorem enter_comm (t : Thresholds) (found : Dict MapKey VariableValues) {key key' : MapKey}
    {name name' : String} (apart : ¬(key = key' ∧ name = name')) (seen seen' : Sightings) :
    enter t (enter t found key name seen) key' name' seen' =
      enter t (enter t found key' name' seen') key name seen := by
  apply Dict.ext
  intro other
  simp only [enter, Dict.get?_update]
  by_cases sameKey : key = key'
  -- Under one key the names differ, and elsewhere the keys do.
  · subst sameKey
    have names : name ≠ name' := fun same => apart ⟨rfl, same⟩
    by_cases here : other = key
    · simp only [here, if_true, Option.getD_some]
      split_ifs
      · rw [Dict.insert_comm _ names]
      · rfl
      · rfl
      · rfl
    · simp [here]
  · by_cases here : other = key
    · subst here
      simp [sameKey]
    · simp [here, Ne.symm sameKey]

section

variable {κ : Type} (t : Thresholds) (place : κ → MapKey × String)

theorem enterAll_eq_of_perm {place : κ → MapKey × String} (apart : Function.Injective place)
    {entries entries' : List (κ × Sightings)} (keys : (entries.map Prod.fst).Nodup)
    (same : entries.Perm entries') (found : Dict MapKey VariableValues) :
    enterAll t place entries found = enterAll t place entries' found := by
  apply same.foldl_eq'
  intro e member f member' found
  by_cases equal : e = f
  · rw [equal]
  have places : ¬((place e.1).1 = (place f.1).1 ∧ (place e.1).2 = (place f.1).2) := by
    intro both
    have key : e.1 = f.1 := apart (Prod.ext both.1 both.2)
    exact equal (List.inj_on_of_nodup_map keys member member' key)
  exact enter_comm t found places _ _

def enterAlong (values : Sightings → List String) (entries : List (κ × Sightings)) :
    Dict MapKey VariableValues :=
  entries.foldl
    (fun found (key, seen) =>
      found.update (place key).1 fun before =>
        let listed := before.getD .empty
        if t.admits seen then listed.insert (place key).2 (Values.entries (values seen))
        else listed)
    .empty

theorem enterAlong_eq {values : Sightings → List String}
    (same : ∀ seen : Sightings, (values seen).Perm seen.values) (entries : List (κ × Sightings)) :
    enterAlong t place values entries = enterAll t place entries .empty := by
  have listed : ∀ seen : Sightings, Values.entries (values seen) = Values.entries seen.values :=
    fun seen => Values.entries_eq_of_perm (same seen)
  simp only [enterAlong, enterAll, enter, listed]

end

/-- One way to visit a table while a map is made of it: its entries once for the branches and once
for the sites, then the sites, and under each key the values. -/
structure Tour (table : ObservationTable) where
  branches : List (ObservationKey × Sightings)
  groups : List (ObservationKey × Sightings)
  sites : List (SiteKey × Sightings)
  values : Sightings → List String
  branches_perm : branches.Perm table.entries.entries
  groups_perm : groups.Perm table.entries.entries
  sites_perm : sites.Perm (groupAll groups).entries
  values_perm : ∀ seen : Sightings, (values seen).Perm seen.values

namespace Tour

variable {table : ObservationTable}

def map (tour : Tour table) (t : Thresholds) : ValueMap :=
  let branches := ValueMap.empty.insertAll (enterAlong t branchPlace tour.values tour.branches)
  if t.includeBranchless then
    branches.insertAll (enterAlong t sitePlace tour.values tour.sites)
  else branches

theorem map_eq_buildMap (tour : Tour table) (t : Thresholds) : tour.map t = table.buildMap t := by
  have branches : enterAlong t branchPlace tour.values tour.branches = table.byBranch t := by
    rw [enterAlong_eq t branchPlace tour.values_perm]
    apply enterAll_eq_of_perm t branchPlace_injective _ tour.branches_perm
    exact (tour.branches_perm.map Prod.fst).nodup_iff.2 table.entries.nodup_keys
  have groups : groupAll tour.groups = table.perSite := groupAll_eq_of_perm tour.groups_perm
  have perm : tour.sites.Perm table.perSite.entries := groups ▸ tour.sites_perm
  have sites : enterAlong t sitePlace tour.values tour.sites = table.bySite t := by
    rw [enterAlong_eq t sitePlace tour.values_perm]
    apply enterAll_eq_of_perm t sitePlace_injective _ perm
    exact (perm.map Prod.fst).nodup_iff.2 table.perSite.nodup_keys
  rw [map, buildMap, branches, sites]

end Tour

end ObservationTable

end GuidedExploration
