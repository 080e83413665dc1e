import GuidedExploration.Proofs.Aggregation.Listing
import Mathlib.Algebra.Order.BigOperators.Group.List
import Mathlib.Algebra.Order.Group.Nat

/-!
What a site says beside its branches. A site is judged apart from its branches, and still a variable
that is listed at a branch can be missing at the site only for the number of its values there; at a
site all of them are listed, those of branches that are not listed themselves included.
-/

set_option autoImplicit false

namespace GuidedExploration

theorem Values.mem_entries {values : List String} {entry : ValueEntry} :
    entry ∈ entries values ↔ ∃ value ∈ values, .plain value = entry := by
  simp only [entries, List.mem_map, (sort_perm values).mem_iff]

theorem Values.entries_subset {values wide : List String} (fewer : values ⊆ wide) :
    entries values ⊆ entries wide := by
  intro entry member
  obtain ⟨value, inside, rfl⟩ := mem_entries.1 member
  exact mem_entries.2 ⟨value, fewer inside, rfl⟩

theorem Sightings.length_values (s : Sightings) : s.values.length = s.cardinality :=
  List.length_map _

namespace ObservationTable

open Sightings

/-- The values of a variable over all branches of a site, each of them once. -/
structure UnionAt (table : ObservationTable) (site : Int64) (name : String)
    (union : List String) : Prop where
  once : union.Nodup
  all : ∀ value, value ∈ union ↔
    ∃ branch seen, table.get? site branch name = some seen ∧ value ∈ seen.values

def together (table : ObservationTable) (site : SiteKey) : Sightings :=
  (branchesIn table.entries.entries site).foldl union {}

theorem mem_branchesIn_site (table : ObservationTable) {site : Int64} {name : String}
    {seen : Sightings} : seen ∈ branchesIn table.entries.entries ⟨site, name⟩ ↔
      ∃ branch, table.get? site branch name = some seen := by
  rw [mem_branchesIn]
  constructor
  · rintro ⟨⟨_, branch, _⟩, same, found⟩
    cases same
    exact ⟨branch, found⟩
  · rintro ⟨branch, found⟩
    exact ⟨⟨site, branch, name⟩, rfl, found⟩

theorem unionAt_together (table : ObservationTable) (site : Int64) (name : String) :
    table.UnionAt site name (table.together ⟨site, name⟩).values where
  once := nodup_values _
  all value := by
    rw [together, mem_values_foldl_union, or_iff_right fun inNone => nomatch inNone]
    simp only [mem_branchesIn_site]
    constructor
    · rintro ⟨seen, ⟨branch, found⟩, inside⟩
      exact ⟨branch, seen, found, inside⟩
    · rintro ⟨branch, seen, found, inside⟩
      exact ⟨seen, ⟨branch, found⟩, inside⟩

section

variable {table : ObservationTable} {site branch : Int64} {name : String} {seen : Sightings}

theorem get?_perSite_of_branch (found : table.get? site branch name = some seen) :
    table.perSite.get? ⟨site, name⟩ = some (table.together ⟨site, name⟩) := by
  have member := table.mem_branchesIn_site.2 ⟨branch, found⟩
  rw [get?_perSite, if_neg (List.ne_nil_of_mem member), together]

theorem occurrences_le_together (found : table.get? site branch name = some seen) :
    seen.occurrences ≤ (table.together ⟨site, name⟩).occurrences := by
  have member := table.mem_branchesIn_site.2 ⟨branch, found⟩
  rw [together, occurrences_foldl_union]
  refine Nat.le_add_left_of_le ?_
  exact List.single_le_sum (fun _ _ => Nat.zero_le _) _ (List.mem_map_of_mem member)

theorem values_subset_together (found : table.get? site branch name = some seen) :
    seen.values ⊆ (table.together ⟨site, name⟩).values := fun value inside =>
  ((unionAt_together table site name).all value).2 ⟨branch, seen, found, inside⟩

/-- A site has been seen as often as its branches together, so that only its values can keep it
out where one of its branches is admitted. -/
theorem admits_together_iff {t : Thresholds} (found : table.get? site branch name = some seen)
    (admitted : t.admits seen = true) :
    t.admits (table.together ⟨site, name⟩) = true ↔
      (table.together ⟨site, name⟩).values.length ≤ t.maxValues.toNat := by
  have often : t.minOccurrence.toNat ≤ (table.together ⟨site, name⟩).occurrences := by
    simp only [Thresholds.admits, Bool.and_eq_true, decide_eq_true_eq] at admitted
    exact admitted.1.trans (occurrences_le_together found)
  simp [Thresholds.admits, often, length_values]

end

theorem isListing_of_site {table : ObservationTable} {t : Thresholds} {site : Int64} {name : String}
    {wide : List ValueEntry} (stands : (table.buildMap t).values? (.ofSite site) name = some wide) :
    Values.IsListing (table.together ⟨site, name⟩).values wide := by
  rw [values?_buildMap_ofSite table t ⟨site, name⟩, get?_perSite] at stands
  split at stands
  · obtain ⟨seen, kept, rfl⟩ := Option.map_eq_some_iff.1 stands
    obtain ⟨present, -⟩ := Option.filter_eq_some_iff.1 kept
    split at present
    · cases present
    · cases present
      exact Values.isListing_entries (nodup_values _) fun _ => Iff.rfl
  · cases stands

/-- With sites listed, a variable of a branch is listed at its site with all that it has at the
branch, unless it has too many values there; and what is listed at a site are its values over all
branches, whichever of them are listed. -/
theorem site_covers_branches (table : ObservationTable) (t : Thresholds)
    (included : t.includeBranchless = true) (site : Int64) (name : String) :
    ∃ union, table.UnionAt site name union ∧
      (∀ branch listed,
        (table.buildMap t).values? (.ofBranch site branch) name = some listed →
          (t.maxValues.toNat < union.length ∧
            (table.buildMap t).values? (.ofSite site) name = none) ∨
          ∃ wide, (table.buildMap t).values? (.ofSite site) name = some wide ∧ listed ⊆ wide) ∧
      ∀ wide, (table.buildMap t).values? (.ofSite site) name = some wide →
        Values.IsListing union wide := by
  refine ⟨_, unionAt_together table site name, fun branch listed stands => ?_,
    fun wide => isListing_of_site⟩
  rw [values?_buildMap_ofBranch table t ⟨site, branch, name⟩] at stands
  obtain ⟨seen, kept, rfl⟩ := Option.map_eq_some_iff.1 stands
  obtain ⟨found, admitted⟩ := Option.filter_eq_some_iff.1 kept
  have few := admits_together_iff found admitted
  have atSite := values?_buildMap_ofSite table t ⟨site, name⟩
  rw [if_pos included, get?_perSite_of_branch found, Option.filter_some] at atSite
  by_cases fits : (table.together ⟨site, name⟩).values.length ≤ t.maxValues.toNat
  · right
    rw [if_pos (few.2 fits), Option.map_some] at atSite
    exact ⟨_, atSite, Values.entries_subset (values_subset_together found)⟩
  · left
    rw [if_neg (mt few.1 fits), Option.map_none] at atSite
    exact ⟨Nat.lt_of_not_le fits, atSite⟩

/-- Numbers at one branch and, at another one that is seen too seldom, a text. -/
def numbersAndText : ObservationTable :=
  .ofObservations [⟨7, 0, "n", "9"⟩, ⟨7, 0, "n", "10"⟩, ⟨7, 1, "n", "x"⟩]

theorem site_covers_branches_numbersAndText :
    let t : Thresholds := { minOccurrence := 2, maxValues := 3 }
    t.includeBranchless = true ∧
      (numbersAndText.buildMap t).values? (.ofBranch 7 0) "n" =
        some [.plain "9", .plain "10"] ∧
      (numbersAndText.buildMap t).values? (.ofBranch 7 1) "n" = none ∧
      (numbersAndText.buildMap t).values? (.ofSite 7) "n" =
        some [.plain "10", .plain "9", .plain "x"] ∧
      ∃ union, numbersAndText.UnionAt 7 "n" union ∧
        Values.IsListing union [.plain "10", .plain "9", .plain "x"] ∧
        [.plain "9", .plain "10"] ⊆ [ValueEntry.plain "10", .plain "9", .plain "x"] := by
  intro t
  have atBranch : (numbersAndText.buildMap t).values? (.ofBranch 7 0) "n" =
      some [.plain "9", .plain "10"] := by decide +kernel
  have atSite : (numbersAndText.buildMap t).values? (.ofSite 7) "n" =
      some [.plain "10", .plain "9", .plain "x"] := by decide +kernel
  obtain ⟨union, all, covers, lists⟩ := site_covers_branches numbersAndText t rfl 7 "n"
  refine ⟨rfl, atBranch, by decide +kernel, atSite, union, all, lists _ atSite, ?_⟩
  rcases covers 0 _ atBranch with ⟨-, absent⟩ | ⟨wide, stands, covered⟩
  · cases atSite.symm.trans absent
  · cases atSite.symm.trans stands
    exact covered

end ObservationTable

end GuidedExploration
