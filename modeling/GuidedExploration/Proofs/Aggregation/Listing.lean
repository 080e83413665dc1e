import GuidedExploration.Proofs.Aggregation.Table
import GuidedExploration.Proofs.ValueOrder

/-!
Which variables a value map lists. Under a branch and under a site a variable is listed exactly when
the observations there pass the thresholds, with the values seen there and no others.
-/

set_option autoImplicit false

namespace GuidedExploration

namespace ValueMap

def values? (map : ValueMap) (key : MapKey) (name : String) : Option (List ValueEntry) :=
  (map.get? key).bind fun listed => listed.get? name

/-- No key stands without variables. -/
def HasVariables (map : ValueMap) : Prop :=
  ∀ key listed, map.get? key = some listed → listed.isEmpty = false

theorem get?_insert (map : ValueMap) (key key' : MapKey) (listed : VariableValues) :
    (map.insert key listed).get? key' =
      if key' = key ∧ listed.isEmpty = false then some listed else map.get? key' := by
  cases filled : listed.isEmpty with
  | true => simp [insert, filled]
  | false =>
    simp only [insert, filled, get?, and_true]
    exact map.entries.get?_insert_eq key key' listed

/-- Of several keys those with variables are added, in place of what stood under them. -/
theorem get?_insertAll (map : ValueMap) (found : Dict MapKey VariableValues) (key : MapKey) :
    (map.insertAll found).get? key =
      ((found.get? key).filter fun listed => !listed.isEmpty).or (map.get? key) := by
  obtain ⟨entries, ascending⟩ := found
  change _ = ((Dict.find? key entries).filter _).or _
  induction entries generalizing map with
  | nil => rfl
  | cons e rest ih =>
    have later := (List.pairwise_cons.1 ascending).2
    refine (ih (map.insert e.1 e.2) later).trans ?_
    rw [get?_insert]
    by_cases same : key = e.1
    · subst same
      have absent := Dict.find?_eq_none_of_ascending ascending
      cases filled : e.2.isEmpty <;>
        simp [absent, Dict.find?, Ranked.rank_self, Option.filter_some, filled]
    · simp [Dict.find?, Ranked.rank_eq_iff, same]

theorem values?_insertAll_of_free {map : ValueMap} {key : MapKey} (free : map.get? key = none)
    (found : Dict MapKey VariableValues) (name : String) :
    (map.insertAll found).values? key name = (mk found).values? key name := by
  rw [values?, get?_insertAll, free, Option.or_none, values?]
  change _ = (found.get? key).bind _
  cases found.get? key with
  | none => rfl
  | some listed =>
    cases filled : listed.isEmpty with
    | false => simp [Option.filter_some, filled]
    -- An empty key does not get into the map, and nothing is found under it either.
    | true =>
      have nothing : listed.get? name = none :=
        Option.eq_none_iff_forall_ne_some.2 fun values there => by
          rw [Dict.isEmpty_eq_false_of_get? there] at filled
          cases filled
      simp [Option.filter_some, filled, nothing]

theorem values?_insertAll_of_absent (map : ValueMap) {found : Dict MapKey VariableValues}
    {key : MapKey} (absent : found.get? key = none) (name : String) :
    (map.insertAll found).values? key name = map.values? key name := by
  rw [values?, get?_insertAll, absent]
  rfl

theorem HasVariables.insert {map : ValueMap} (full : map.HasVariables) (key : MapKey)
    (listed : VariableValues) : (map.insert key listed).HasVariables := by
  intro key' listed' stands
  rw [get?_insert] at stands
  split at stands
  · next added => exact Option.some.inj stands ▸ added.2
  · exact full key' listed' stands

theorem HasVariables.insertAll {map : ValueMap} (full : map.HasVariables)
    (found : Dict MapKey VariableValues) : (map.insertAll found).HasVariables := by
  unfold ValueMap.insertAll
  induction found.entries generalizing map with
  | nil => exact full
  | cons e rest ih => exact ih (full.insert e.1 e.2)

theorem hasVariables_empty : empty.HasVariables := fun _ _ stands => nomatch stands

end ValueMap

namespace ObservationTable

open Observation Sightings

section

variable {κ : Type} (t : Thresholds) (place : κ → MapKey × String)

def enterAll (entries : List (κ × Sightings)) (found : Dict MapKey VariableValues) :
    Dict MapKey VariableValues :=
  entries.foldl (fun found (key, seen) => enter t found (place key).1 (place key).2 seen) found

theorem get?_enterAll_of_ne {entries : List (κ × Sightings)} {key : MapKey}
    (elsewhere : ∀ k, (place k).1 ≠ key) (found : Dict MapKey VariableValues) :
    (enterAll t place entries found).get? key = found.get? key := by
  induction entries generalizing found with
  | nil => rfl
  | cons e rest ih =>
    refine (ih _).trans ?_
    change (enter t found (place e.1).1 (place e.1).2 e.2).get? key = _
    rw [enter, Dict.get?_update, if_neg (Ne.symm (elsewhere e.1))]

theorem values?_enter (found : Dict MapKey VariableValues) (key key' : MapKey)
    (name name' : String) (seen : Sightings) :
    (ValueMap.mk (enter t found key name seen)).values? key' name' =
      if t.admits seen ∧ key' = key ∧ name' = name then some (Values.entries seen.values)
      else (ValueMap.mk found).values? key' name' := by
  simp only [ValueMap.values?, ValueMap.get?, enter, Dict.get?_update]
  by_cases sameKey : key' = key
  · subst sameKey
    -- A key that was not there is found without variables.
    have before : ((found.get? key').getD .empty).get? name' =
        (found.get? key').bind fun listed => listed.get? name' := by
      cases found.get? key' <;> rfl
    by_cases admitted : t.admits seen
    · by_cases sameName : name' = name
      · simp [admitted, sameName]
      · simp [admitted, sameName, Dict.get?_insert_of_ne, before]
    · simp [admitted, before]
  · simp [sameKey]

theorem values?_enterAll [Ranked κ] {place : κ → MapKey × String} (apart : Function.Injective place)
    (d : Dict κ Sightings) (k : κ) (found : Dict MapKey VariableValues) :
    (ValueMap.mk (enterAll t place d.entries found)).values? (place k).1 (place k).2 =
      (((d.get? k).filter t.admits).map fun seen => Values.entries seen.values).or
        ((ValueMap.mk found).values? (place k).1 (place k).2) := by
  obtain ⟨entries, ascending⟩ := d
  change _ = (((Dict.find? k entries).filter _).map _).or _
  induction entries generalizing found with
  | nil => rfl
  | cons e rest ih =>
    have later := (List.pairwise_cons.1 ascending).2
    refine (ih _ later).trans ?_
    rw [values?_enter]
    by_cases same : k = e.1
    · subst same
      have absent := Dict.find?_eq_none_of_ascending ascending
      simp only [absent, Dict.find?, Ranked.rank_self, if_true, and_true]
      by_cases admitted : t.admits e.2 <;> simp [Option.filter_some, admitted]
    -- Another entry is entered at another place.
    · have other : ¬((place k).1 = (place e.1).1 ∧ (place k).2 = (place e.1).2) :=
        fun both => same (apart (Prod.ext both.1 both.2))
      rw [if_neg fun all => other all.2]
      simp [Dict.find?, Ranked.rank_eq_iff, same]

end

def branchPlace (key : ObservationKey) : MapKey × String :=
  (.ofBranch key.site key.branch, key.name)

def sitePlace (key : SiteKey) : MapKey × String := (.ofSite key.site, key.name)

theorem branchPlace_injective : Function.Injective branchPlace := by
  rintro ⟨site, branch, name⟩ ⟨site', branch', name'⟩ same
  simpa [branchPlace, MapKey.ofBranch, and_assoc] using same

theorem sitePlace_injective : Function.Injective sitePlace := by
  rintro ⟨site, name⟩ ⟨site', name'⟩ same
  simpa [sitePlace, MapKey.ofSite] using same

section

variable (table : ObservationTable) (t : Thresholds)

theorem get?_byBranch_ofSite (site : Int64) : (table.byBranch t).get? (.ofSite site) = none :=
  get?_enterAll_of_ne t branchPlace
    (fun key same => by simp [branchPlace, MapKey.ofBranch, MapKey.ofSite] at same) .empty

theorem get?_bySite_ofBranch (site branch : Int64) :
    (table.bySite t).get? (.ofBranch site branch) = none :=
  get?_enterAll_of_ne t sitePlace
    (fun key same => by simp [sitePlace, MapKey.ofBranch, MapKey.ofSite] at same) .empty

theorem values?_byBranch (key : ObservationKey) :
    (ValueMap.mk (table.byBranch t)).values? (.ofBranch key.site key.branch) key.name =
      ((table.entries.get? key).filter t.admits).map fun seen => Values.entries seen.values :=
  (values?_enterAll t branchPlace_injective table.entries key .empty).trans Option.or_none

theorem values?_bySite (site : SiteKey) :
    (ValueMap.mk (table.bySite t)).values? (.ofSite site.site) site.name =
      ((table.perSite.get? site).filter t.admits).map fun seen => Values.entries seen.values :=
  (values?_enterAll t sitePlace_injective table.perSite site .empty).trans Option.or_none

theorem values?_buildMap_ofBranch (key : ObservationKey) :
    (table.buildMap t).values? (.ofBranch key.site key.branch) key.name =
      ((table.entries.get? key).filter t.admits).map fun seen => Values.entries seen.values := by
  have free : ValueMap.empty.get? (.ofBranch key.site key.branch) = none := rfl
  have branches := ValueMap.values?_insertAll_of_free free (table.byBranch t) key.name
  rw [values?_byBranch] at branches
  rw [buildMap]
  split
  · rw [ValueMap.values?_insertAll_of_absent _ (get?_bySite_ofBranch table t _ _), branches]
  · exact branches

theorem values?_buildMap_ofSite (site : SiteKey) :
    (table.buildMap t).values? (.ofSite site.site) site.name =
      if t.includeBranchless then
        ((table.perSite.get? site).filter t.admits).map fun seen => Values.entries seen.values
      else none := by
  have free : (ValueMap.empty.insertAll (table.byBranch t)).get? (.ofSite site.site) = none := by
    rw [ValueMap.get?_insertAll, get?_byBranch_ofSite]
    rfl
  rw [buildMap]
  split
  · rw [ValueMap.values?_insertAll_of_free free, values?_bySite]
  · rw [ValueMap.values?, free]
    rfl

theorem hasVariables_buildMap : (table.buildMap t).HasVariables := by
  have branches := ValueMap.hasVariables_empty.insertAll (table.byBranch t)
  rw [buildMap]
  split
  · exact branches.insertAll (table.bySite t)
  · exact branches

end

end ObservationTable

/-- Values that were seen at all, often enough, and with few enough different ones. -/
structure Thresholds.Admits (t : Thresholds) (seen : List String) : Prop where
  present : seen ≠ []
  often : t.minOccurrence.toNat ≤ seen.length
  few : seen.dedup.length ≤ t.maxValues.toNat

namespace Sightings

theorem Summarises.admits_iff {s : Sightings} {values : List String} (summary : s.Summarises values)
    (t : Thresholds) : t.admits s = true ↔
      t.minOccurrence.toNat ≤ values.length ∧ values.dedup.length ≤ t.maxValues.toNat := by
  simp [Thresholds.admits, summary.occurrences, summary.cardinality]

theorem Recorded.listed_iff {found : Option Sightings} {seen : List String}
    (recorded : Recorded found seen) (t : Thresholds) (listed : List ValueEntry) :
    ((found.filter t.admits).map fun s => Values.entries s.values) = some listed ↔
      t.Admits seen ∧ Values.IsListing seen listed := by
  cases recorded with
  | nothing => simpa using fun admits : t.Admits [] => absurd rfl admits.present
  | @seen s _ present summary =>
    have listing : Values.IsListing seen (Values.entries s.values) :=
      Values.isListing_entries s.nodup_values summary.mem_iff
    rw [Option.filter_some]
    split
    · next admitted =>
      obtain ⟨often, few⟩ := (summary.admits_iff t).1 admitted
      constructor
      · intro same
        exact ⟨⟨present, often, few⟩, Option.some.inj same ▸ listing⟩
      · rintro ⟨-, other⟩
        exact congrArg some (listing.eq other)
    · next refused =>
      refine iff_of_false (by simp) fun both => refused ?_
      exact (summary.admits_iff t).2 ⟨both.1.often, both.1.few⟩

end Sightings

namespace ObservationTable

open Observation

/-- What a map lists of some observations: under a branch and, if sites are listed, under a site just
the variables that the thresholds admit there, each with the values seen there. -/
structure Lists (map : ValueMap) (t : Thresholds) (observations : List Observation) : Prop where
  branches : ∀ site branch name listed,
    map.values? (.ofBranch site branch) name = some listed ↔
      t.Admits (valuesAt observations ⟨site, branch, name⟩) ∧
        Values.IsListing (valuesAt observations ⟨site, branch, name⟩) listed
  sites : ∀ site name listed,
    map.values? (.ofSite site) name = some listed ↔
      t.includeBranchless = true ∧ t.Admits (valuesOver observations ⟨site, name⟩) ∧
        Values.IsListing (valuesOver observations ⟨site, name⟩) listed
  filled : map.HasVariables

theorem lists_buildMap (observations : List Observation) (t : Thresholds) :
    Lists ((ofObservations observations).buildMap t) t observations where
  branches site branch name listed := by
    rw [values?_buildMap_ofBranch _ t ⟨site, branch, name⟩]
    exact (recorded_get? observations _).listed_iff t listed
  sites site name listed := by
    rw [values?_buildMap_ofSite _ t ⟨site, name⟩]
    split
    · next included =>
      rw [(recorded_perSite observations _).listed_iff t listed]
      simp [included]
    · next suppressed => simp [suppressed]
  filled := hasVariables_buildMap _ t

/-- The map of any observations: under a branch and, if sites are listed, under a site stand exactly
the variables that the thresholds admit there, each with the values seen there. -/
theorem values?_buildMap_iff (observations : List Observation) (t : Thresholds) :
    (∀ site branch name listed,
      ((ofObservations observations).buildMap t).values? (.ofBranch site branch) name =
          some listed ↔
        t.Admits (valuesAt observations ⟨site, branch, name⟩) ∧
          Values.IsListing (valuesAt observations ⟨site, branch, name⟩) listed) ∧
    (∀ site name listed,
      ((ofObservations observations).buildMap t).values? (.ofSite site) name = some listed ↔
        t.includeBranchless = true ∧ t.Admits (valuesOver observations ⟨site, name⟩) ∧
          Values.IsListing (valuesOver observations ⟨site, name⟩) listed) ∧
    ((ofObservations observations).buildMap t).HasVariables := by
  obtain ⟨branches, sites, filled⟩ := lists_buildMap observations t
  exact ⟨branches, sites, filled⟩

end ObservationTable

end GuidedExploration
