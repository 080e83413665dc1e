import GuidedExploration.Proofs.ValueMap.Reported

/-!
Narrower thresholds, and maps without sites. Thresholds that ask for more take variables out of a
map and change nothing about those they leave; leaving sites out takes their keys out and nothing
else.
-/

set_option autoImplicit false

namespace GuidedExploration

/-- Thresholds that admit less: more occurrences, fewer values, and sites only if the others have
them too. -/
structure Thresholds.Narrows (u t : Thresholds) : Prop where
  minOccurrence : t.minOccurrence ≤ u.minOccurrence
  maxValues : u.maxValues ≤ t.maxValues
  includeBranchless : u.includeBranchless = true → t.includeBranchless = true

theorem Thresholds.Narrows.admits {u t : Thresholds} (narrows : u.Narrows t) {seen : Sightings}
    (admitted : u.admits seen = true) : t.admits seen = true := by
  simp only [Thresholds.admits, Bool.and_eq_true, decide_eq_true_eq] at admitted ⊢
  have often := UInt64.le_iff_toNat_le.1 narrows.minOccurrence
  have few := UInt64.le_iff_toNat_le.1 narrows.maxValues
  exact ⟨often.trans admitted.1, admitted.2.trans few⟩

theorem Thresholds.Narrows.listed {u t : Thresholds} (narrows : u.Narrows t)
    {found : Option Sightings} {listed : List ValueEntry}
    (stands : ((found.filter u.admits).map fun s => Values.entries s.values) = some listed) :
    ((found.filter t.admits).map fun s => Values.entries s.values) = some listed := by
  obtain ⟨seen, kept, rfl⟩ := Option.map_eq_some_iff.1 stands
  obtain ⟨rfl, admitted⟩ := Option.filter_eq_some_iff.1 kept
  rw [Option.filter_some, if_pos (narrows.admits admitted), Option.map_some]

namespace ValueMap

/-- Every variable is listed in the other map too, under the same key and with the same values. -/
def Within (map wide : ValueMap) : Prop :=
  ∀ key name listed, map.values? key name = some listed → wide.values? key name = some listed

def restrict (map : ValueMap) (keep : MapKey → Bool) : ValueMap :=
  ⟨map.entries.filter fun key _ => keep key⟩

theorem HasVariables.exists_values {map : ValueMap} (full : map.HasVariables) {key : MapKey}
    {listed : VariableValues} (stands : map.get? key = some listed) :
    ∃ name values, map.values? key name = some values := by
  obtain ⟨⟨name, values⟩, rest, first⟩ := List.exists_cons_of_ne_nil
    (show listed.entries ≠ [] by simpa [Dict.isEmpty] using full key listed stands)
  have found : listed.get? name = some values :=
    listed.get?_eq_some_iff.2 (first ▸ List.mem_cons_self)
  exact ⟨name, values, by rw [values?, stands, Option.bind_some, found]⟩

theorem exists_get?_of_values? {map : ValueMap} {key : MapKey} {name : String}
    {values : List ValueEntry} (found : map.values? key name = some values) :
    ∃ listed, map.get? key = some listed := by
  obtain ⟨listed, stands, -⟩ := Option.bind_eq_some_iff.1 found
  exact ⟨listed, stands⟩

/-- Maps without bare keys are told apart by the values of their variables. -/
theorem ext_values? {map map' : ValueMap} (full : map.HasVariables) (full' : map'.HasVariables)
    (same : ∀ key name, map.values? key name = map'.values? key name) : map = map' := by
  have keys : ∀ key, map.get? key = none ↔ map'.get? key = none := by
    intro key
    rw [Option.eq_none_iff_forall_ne_some, Option.eq_none_iff_forall_ne_some]
    constructor
    · intro absent listed stands
      obtain ⟨name, values, found⟩ := full'.exists_values stands
      obtain ⟨listed', stands'⟩ := exists_get?_of_values? ((same key name).trans found)
      exact absent listed' stands'
    · intro absent listed stands
      obtain ⟨name, values, found⟩ := full.exists_values stands
      obtain ⟨listed', stands'⟩ := exists_get?_of_values? ((same key name).symm.trans found)
      exact absent listed' stands'
  have entries : map.entries = map'.entries := by
    apply Dict.ext
    intro key
    change map.get? key = map'.get? key
    cases left : map.get? key with
    | none => exact ((keys key).1 left).symm
    | some listed =>
      cases right : map'.get? key with
      | none => exact absurd ((keys key).2 right) (by simp [left])
      | some listed' =>
        congr 1
        apply Dict.ext
        intro name
        simpa [values?, left, right] using same key name
  cases map
  cases map'
  exact congrArg ValueMap.mk entries

theorem Within.size_le {map wide : ValueMap} (within : map.Within wide) (full : map.HasVariables) :
    map.size ≤ wide.size := by
  have keys : map.keys ⊆ wide.keys := by
    intro key member
    obtain ⟨listed, stands⟩ := map.entries.mem_keys_iff.1 member
    obtain ⟨name, values, found⟩ := full.exists_values stands
    exact wide.entries.mem_keys_iff.2 (exists_get?_of_values? (within key name values found))
  have fewer := map.entries.nodup_keys.length_le_of_subset keys
  simpa only [ValueMap.keys, ValueMap.size, Dict.keys, Dict.size, List.length_map] using fewer

theorem Within.variableCount_le {map wide : ValueMap} (within : map.Within wide) :
    map.variableCount ≤ wide.variableCount := by
  have listings : map.listings ⊆ wide.listings := by
    rintro ⟨key, name⟩ member
    obtain ⟨values, found⟩ := mem_listings.1 member
    exact mem_listings.2 ⟨values, within key name values found⟩
  rw [← length_listings, ← length_listings]
  exact map.nodup_listings.length_le_of_subset listings

theorem get?_restrict (map : ValueMap) (keep : MapKey → Bool) (key : MapKey) :
    (map.restrict keep).get? key = if keep key then map.get? key else none := by
  refine (map.entries.get?_filter _ key).trans ?_
  change (map.get? key).filter (fun _ => keep key) = _
  cases map.get? key <;> cases keep key <;> rfl

theorem values?_restrict (map : ValueMap) (keep : MapKey → Bool) (key : MapKey) (name : String) :
    (map.restrict keep).values? key name = if keep key then map.values? key name else none := by
  rw [values?, get?_restrict]
  split <;> rfl

theorem HasVariables.restrict {map : ValueMap} (full : map.HasVariables) (keep : MapKey → Bool) :
    (map.restrict keep).HasVariables := by
  intro key listed stands
  rw [get?_restrict] at stands
  split at stands
  · exact full key listed stands
  · cases stands

end ValueMap

namespace ObservationTable

theorem within_buildMap (table : ObservationTable) {u t : Thresholds} (narrows : u.Narrows t) :
    (table.buildMap u).Within (table.buildMap t) := by
  rintro ⟨site, branch | branch⟩ name listed found
  · have atSite := values?_buildMap_ofSite table u ⟨site, name⟩
    rw [show (table.buildMap u).values? (.ofSite site) name = some listed from found] at atSite
    split at atSite
    · next included =>
      refine (values?_buildMap_ofSite table t ⟨site, name⟩).trans ?_
      rw [if_pos (narrows.includeBranchless included)]
      exact narrows.listed atSite.symm
    · cases atSite
  · have atBranch := values?_buildMap_ofBranch table u ⟨site, branch, name⟩
    rw [show (table.buildMap u).values? (.ofBranch site branch) name = some listed from found]
      at atBranch
    refine (values?_buildMap_ofBranch table t ⟨site, branch, name⟩).trans ?_
    exact narrows.listed atBranch.symm

theorem buildMap_without_sites (table : ObservationTable) (t : Thresholds) :
    table.buildMap { t with includeBranchless := false } =
      (table.buildMap { t with includeBranchless := true }).restrict fun key => key.branch.isSome := by
  refine ValueMap.ext_values? (hasVariables_buildMap table _)
    ((hasVariables_buildMap table _).restrict _) ?_
  rintro ⟨site, branch | branch⟩ name
  · rw [ValueMap.values?_restrict]
    exact values?_buildMap_ofSite table { t with includeBranchless := false } ⟨site, name⟩
  -- Nothing of a branch depends on whether sites are listed.
  · rw [ValueMap.values?_restrict]
    have bare := values?_buildMap_ofBranch table { t with includeBranchless := false }
      ⟨site, branch, name⟩
    have beside := values?_buildMap_ofBranch table { t with includeBranchless := true }
      ⟨site, branch, name⟩
    exact bare.trans beside.symm

/-- Narrower thresholds act as a filter: what is still listed has the values that it had, and neither
the keys nor the variables grow in number. Without sites a map is what it is with them, less their
keys. -/
theorem buildMap_of_narrowed (table : ObservationTable) :
    (∀ t u : Thresholds, u.Narrows t →
      (∀ key name listed, (table.buildMap u).values? key name = some listed →
        (table.buildMap t).values? key name = some listed) ∧
      (table.buildMap u).size ≤ (table.buildMap t).size ∧
      (table.buildMap u).variableCount ≤ (table.buildMap t).variableCount) ∧
    ∀ t : Thresholds,
      table.buildMap { t with includeBranchless := false } =
        (table.buildMap { t with includeBranchless := true }).restrict fun key =>
          key.branch.isSome := by
  refine ⟨fun t u narrows => ?_, buildMap_without_sites table⟩
  have within := table.within_buildMap narrows
  exact ⟨within, within.size_le (hasVariables_buildMap table u), within.variableCount_le⟩

def threeVariables : ObservationTable :=
  .ofObservations
    [⟨7, 0, "a", "1"⟩, ⟨7, 0, "a", "1"⟩, ⟨7, 0, "a", "1"⟩, ⟨7, 0, "b", "10"⟩, ⟨7, 0, "b", "9"⟩,
      ⟨7, 0, "c", "x"⟩, ⟨7, 1, "c", "y"⟩]

theorem buildMap_of_narrowed_threeVariables :
    let wide : Thresholds := { minOccurrence := 1, maxValues := 2 }
    let narrow : Thresholds := { minOccurrence := 2, maxValues := 2, includeBranchless := false }
    narrow.Narrows wide ∧
      (threeVariables.buildMap narrow).values? (.ofBranch 7 0) "b" =
        some [.plain "9", .plain "10"] ∧
      (threeVariables.buildMap wide).values? (.ofBranch 7 0) "b" =
        some [.plain "9", .plain "10"] ∧
      (threeVariables.buildMap narrow).variableCount = 2 ∧
      (threeVariables.buildMap narrow).variableCount ≤ (threeVariables.buildMap wide).variableCount := by
  intro wide narrow
  have narrows : narrow.Narrows wide := ⟨by decide, by decide, nofun⟩
  obtain ⟨kept, -, fewer⟩ := (buildMap_of_narrowed threeVariables).1 wide narrow narrows
  have stands : (threeVariables.buildMap narrow).values? (.ofBranch 7 0) "b" =
      some [.plain "9", .plain "10"] := by decide +kernel
  exact ⟨narrows, stands, kept _ _ _ stands, by decide +kernel, fewer⟩

end ObservationTable

end GuidedExploration
