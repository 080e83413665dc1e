import GuidedExploration.ObservationTable
import GuidedExploration.Proofs.Dict
import Mathlib.Algebra.Order.Ring.Int
import Mathlib.Data.List.Dedup
import Mathlib.Data.List.Induction

/-!
What a table says about the observations it was made of: under each key, and for each site over all
its branches, how often a variable was seen and with which values.
-/

set_option autoImplicit false

namespace GuidedExploration

def ObservationKey.atSite (key : ObservationKey) : SiteKey := ⟨key.site, key.name⟩

namespace Observation

def key (o : Observation) : ObservationKey := ⟨o.site, o.branch, o.name⟩

/-- The values of the observations under a key, repeats included. -/
def valuesAt (observations : List Observation) (key : ObservationKey) : List String :=
  (observations.filter fun o => decide (o.key = key)).map value

def valuesOver (observations : List Observation) (site : SiteKey) : List String :=
  (observations.filter fun o => decide (o.key.atSite = site)).map value

theorem valuesAt_concat (observations : List Observation) (o : Observation) (key : ObservationKey) :
    valuesAt (observations ++ [o]) key =
      if key = o.key then valuesAt observations key ++ [o.value] else valuesAt observations key := by
  by_cases same : key = o.key
  · simp [valuesAt, same]
  · simp [valuesAt, same, Ne.symm same]

theorem mem_valuesAt {observations : List Observation} {key : ObservationKey} {value : String} :
    value ∈ valuesAt observations key ↔ ∃ o ∈ observations, o.key = key ∧ o.value = value := by
  simp [valuesAt, and_assoc]

theorem mem_valuesOver {observations : List Observation} {site : SiteKey} {value : String} :
    value ∈ valuesOver observations site ↔
      ∃ key : ObservationKey, key.atSite = site ∧ value ∈ valuesAt observations key := by
  simp only [mem_valuesAt]
  simp only [valuesOver, List.mem_map, List.mem_filter, decide_eq_true_eq]
  constructor
  · rintro ⟨o, ⟨member, atSite⟩, same⟩
    exact ⟨o.key, atSite, o, member, rfl, same⟩
  · rintro ⟨key, atSite, o, member, rfl, same⟩
    exact ⟨o, ⟨member, atSite⟩, same⟩

end Observation

namespace Sightings

theorem nodup_values (s : Sightings) : s.values.Nodup := s.distinct.nodup_keys

theorem mem_values_add {s : Sightings} {value seen : String} :
    seen ∈ (s.add value).values ↔ seen = value ∨ seen ∈ s.values :=
  s.distinct.mem_keys_insert

theorem mem_values_union {s t : Sightings} {seen : String} :
    seen ∈ (s.union t).values ↔ seen ∈ s.values ∨ seen ∈ t.values := by
  have inserted : ∀ (values : List String) (distinct : Dict String Unit),
      seen ∈ (values.foldl (fun distinct value => distinct.insert value ()) distinct).keys ↔
        seen ∈ distinct.keys ∨ seen ∈ values := by
    intro values
    induction values with
    | nil => simp
    | cons value rest ih =>
      intro distinct
      rw [List.foldl_cons, ih, Dict.mem_keys_insert, List.mem_cons]
      tauto
  exact inserted t.values s.distinct

/-- Sightings that stand for a list of values: they count all of them and hold each one. -/
structure Summarises (s : Sightings) (values : List String) : Prop where
  occurrences : s.occurrences = values.length
  mem_iff : ∀ value, value ∈ s.values ↔ value ∈ values

theorem Summarises.cardinality {s : Sightings} {values : List String} (summary : s.Summarises values) :
    s.cardinality = values.dedup.length := by
  have distinct : s.values.Perm values.dedup :=
    (List.perm_ext_iff_of_nodup s.nodup_values (List.nodup_dedup _)).2 fun value =>
      (summary.mem_iff value).trans List.mem_dedup.symm
  rw [← distinct.length_eq]
  simp [Sightings.cardinality, Dict.size, Sightings.values, Dict.keys]

theorem Summarises.add {s : Sightings} {values : List String} (summary : s.Summarises values)
    (value : String) : (s.add value).Summarises (values ++ [value]) where
  occurrences := by simp [Sightings.add, summary.occurrences]
  mem_iff seen := by
    rw [mem_values_add, summary.mem_iff, List.mem_append, List.mem_singleton, or_comm]

theorem summarises_nil : ({} : Sightings).Summarises [] := ⟨rfl, fun _ => Iff.rfl⟩

theorem occurrences_foldl_union (several : List Sightings) (s : Sightings) :
    (several.foldl union s).occurrences = s.occurrences + (several.map occurrences).sum := by
  induction several generalizing s with
  | nil => rfl
  | cons first rest ih =>
    rw [List.foldl_cons, ih, List.map_cons, List.sum_cons, ← Nat.add_assoc]
    rfl

theorem mem_values_foldl_union (several : List Sightings) (s : Sightings) {seen : String} :
    seen ∈ (several.foldl union s).values ↔ seen ∈ s.values ∨ ∃ t ∈ several, seen ∈ t.values := by
  induction several generalizing s with
  | nil => simp
  | cons first rest ih => simp [ih, mem_values_union, or_assoc]

/-- What may be found for a list of values: nothing if there is none, else their summary. -/
inductive Recorded : Option Sightings → List String → Prop where
  | nothing : Recorded none []
  | seen {s : Sightings} {values : List String} : values ≠ [] → s.Summarises values →
      Recorded (some s) values

theorem Recorded.getD {found : Option Sightings} {values : List String}
    (recorded : Recorded found values) : (found.getD {}).Summarises values := by
  cases recorded with
  | nothing => exact summarises_nil
  | seen _ summary => exact summary

theorem Recorded.eq_none_iff {found : Option Sightings} {values : List String}
    (recorded : Recorded found values) : found = none ↔ values = [] := by
  cases recorded with
  | nothing => simp
  | seen some_value _ => simp [some_value]

theorem Recorded.mem_iff {found : Option Sightings} {values : List String}
    (recorded : Recorded found values) {value : String} :
    value ∈ values ↔ ∃ s, found = some s ∧ value ∈ s.values := by
  cases recorded with
  | nothing => simp
  | seen _ summary => simp [summary.mem_iff]

theorem Recorded.add {found : Option Sightings} {values : List String}
    (recorded : Recorded found values) (value : String) :
    Recorded (some ((found.getD {}).add value)) (values ++ [value]) :=
  .seen (by simp) (recorded.getD.add value)

end Sightings

namespace ObservationTable

open Observation Sightings

theorem ofObservations_concat (observations : List Observation) (o : Observation) :
    ofObservations (observations ++ [o]) = (ofObservations observations).record o := by
  simp [ofObservations]

theorem get?_record (table : ObservationTable) (o : Observation) (key : ObservationKey) :
    (table.record o).entries.get? key =
      if key = o.key then some (((table.entries.get? key).getD {}).add o.value)
      else table.entries.get? key := by
  rw [record, Dict.get?_update]
  by_cases same : key = o.key
  · rw [if_pos same, if_pos (show key = ⟨o.site, o.branch, o.name⟩ from same), same]
    rfl
  · rw [if_neg same, if_neg (show ¬key = ⟨o.site, o.branch, o.name⟩ from same)]

theorem recorded_get? (observations : List Observation) (key : ObservationKey) :
    Recorded ((ofObservations observations).entries.get? key) (valuesAt observations key) := by
  induction observations using List.reverseRecOn with
  | nil => exact .nothing
  | append_singleton observations o ih =>
    rw [ofObservations_concat, get?_record, valuesAt_concat]
    split
    · exact ih.add o.value
    · exact ih

def tally (table : ObservationTable) (counts : ObservationKey → Bool) : Nat :=
  (table.entries.entries.map fun e => if counts e.1 then e.2.occurrences else 0).sum

theorem tally_record (table : ObservationTable) (o : Observation) (counts : ObservationKey → Bool) :
    (table.record o).tally counts = table.tally counts + if counts o.key then 1 else 0 := by
  have balance := Dict.sum_place
    (fun (key : ObservationKey) (seen : Sightings) => if counts key then seen.occurrences else 0)
    o.key (((table.entries.get? o.key).getD {}).add o.value) table.entries.ascending
  have placed : (table.record o).entries.entries =
      Dict.place o.key (((table.entries.get? o.key).getD {}).add o.value) table.entries.entries := rfl
  have found : Dict.find? o.key table.entries.entries = table.entries.get? o.key := rfl
  rw [found] at balance
  -- What is put in stands for one observation more than what stood there.
  have added : (if counts o.key then
        (((table.entries.get? o.key).getD {}).add o.value).occurrences else 0) =
      (table.entries.get? o.key).elim 0 (fun seen => if counts o.key then seen.occurrences else 0) +
        if counts o.key then 1 else 0 := by
    cases table.entries.get? o.key with
    | none => cases counts o.key <;> rfl
    | some seen => cases counts o.key <;> rfl
  rw [tally, tally, placed]
  omega

theorem tally_ofObservations (observations : List Observation) (counts : ObservationKey → Bool) :
    (ofObservations observations).tally counts =
      (observations.filter fun o => counts o.key).length := by
  induction observations using List.reverseRecOn with
  | nil => rfl
  | append_singleton observations o ih =>
    rw [ofObservations_concat, tally_record, ih, List.filter_append, List.length_append]
    by_cases counted : counts o.key <;> simp [counted]

/-- The sightings of a variable at a site among entries, one for each branch. -/
def branchesIn (entries : List (ObservationKey × Sightings)) (site : SiteKey) : List Sightings :=
  (entries.filter fun e => decide (e.1.atSite = site)).map Prod.snd

theorem branchesIn_concat (entries : List (ObservationKey × Sightings)) (key : ObservationKey)
    (seen : Sightings) (site : SiteKey) :
    branchesIn (entries ++ [(key, seen)]) site =
      if site = key.atSite then branchesIn entries site ++ [seen] else branchesIn entries site := by
  by_cases same : site = key.atSite
  · simp [branchesIn, same]
  · simp [branchesIn, same, Ne.symm same]

theorem get?_grouped (entries : List (ObservationKey × Sightings)) (site : SiteKey) :
    (entries.foldl
      (fun sites (key, seen) =>
        sites.update ⟨key.site, key.name⟩ fun before => (before.getD {}).union seen)
      (Dict.empty : Dict SiteKey Sightings)).get? site =
      if branchesIn entries site = [] then none
      else some ((branchesIn entries site).foldl union {}) := by
  -- A site gets the branches in the order of the entries, so the induction is from the last one.
  induction entries using List.reverseRecOn with
  | nil => rfl
  | append_singleton entries e ih =>
    obtain ⟨key, seen⟩ := e
    rw [List.foldl_append, List.foldl_cons, List.foldl_nil, Dict.get?_update, branchesIn_concat]
    by_cases same : site = key.atSite
    · have found := same ▸ ih
      rw [if_pos (show site = ⟨key.site, key.name⟩ from same), if_pos same, if_neg (by simp),
        List.foldl_append, same]
      change some (Sightings.union (Option.getD (Dict.get? _ key.atSite) {}) seen) = _
      rw [found]
      split
      · next none_before => rw [none_before]; rfl
      · rfl
    · rw [if_neg (show ¬site = ⟨key.site, key.name⟩ from same), if_neg same, ih]

theorem get?_perSite (table : ObservationTable) (site : SiteKey) :
    table.perSite.get? site =
      if branchesIn table.entries.entries site = [] then none
      else some ((branchesIn table.entries.entries site).foldl union {}) :=
  get?_grouped table.entries.entries site

theorem mem_branchesIn (table : ObservationTable) {site : SiteKey} {seen : Sightings} :
    seen ∈ branchesIn table.entries.entries site ↔
      ∃ key : ObservationKey, key.atSite = site ∧ table.entries.get? key = some seen := by
  simp only [branchesIn, List.mem_map, List.mem_filter, decide_eq_true_eq, Dict.get?_eq_some_iff]
  constructor
  · rintro ⟨⟨key, _⟩, ⟨member, atSite⟩, rfl⟩
    exact ⟨key, atSite, member⟩
  · rintro ⟨key, atSite, member⟩
    exact ⟨(key, seen), ⟨member, atSite⟩, rfl⟩

theorem sum_branchesIn (table : ObservationTable) (site : SiteKey) :
    ((branchesIn table.entries.entries site).map occurrences).sum =
      table.tally fun key => decide (key.atSite = site) := by
  unfold branchesIn tally
  induction table.entries.entries with
  | nil => rfl
  | cons e rest ih =>
    by_cases same : e.1.atSite = site
    · simpa [same] using ih
    · simpa [same] using ih

theorem recorded_perSite (observations : List Observation) (site : SiteKey) :
    Recorded ((ofObservations observations).perSite.get? site) (valuesOver observations site) := by
  let table := ofObservations observations
  have value_iff : ∀ value, value ∈ valuesOver observations site ↔
      ∃ seen ∈ branchesIn table.entries.entries site, value ∈ seen.values := by
    intro value
    simp only [mem_valuesOver, mem_branchesIn, (recorded_get? observations _).mem_iff]
    constructor
    · rintro ⟨key, atSite, seen, found, member⟩
      exact ⟨seen, ⟨key, atSite, found⟩, member⟩
    · rintro ⟨seen, ⟨key, atSite, found⟩, member⟩
      exact ⟨key, atSite, seen, found, member⟩
  have count : ((branchesIn table.entries.entries site).map occurrences).sum =
      (valuesOver observations site).length := by
    rw [sum_branchesIn, tally_ofObservations, valuesOver, List.length_map]
  rw [get?_perSite]
  split
  -- Without any branch there are no occurrences, and they are as many as the observations.
  · next none_seen =>
    rw [none_seen] at count
    rw [List.length_eq_zero_iff.1 count.symm]
    exact .nothing
  · next some_seen =>
    refine .seen (fun empty => ?_) ⟨?_, fun value => ?_⟩
    · obtain ⟨seen, member⟩ := List.exists_mem_of_ne_nil _ some_seen
      obtain ⟨key, atSite, found⟩ := (mem_branchesIn table).1 member
      have present : valuesAt observations key ≠ [] := fun absent => by
        have nothing := (recorded_get? observations key).eq_none_iff.2 absent
        exact absurd (nothing.symm.trans found) (by simp)
      obtain ⟨value, seenAt⟩ := List.exists_mem_of_ne_nil _ present
      exact List.not_mem_nil (empty ▸ mem_valuesOver.2 ⟨key, atSite, seenAt⟩)
    · rw [occurrences_foldl_union, count]
      exact Nat.zero_add _
    · rw [mem_values_foldl_union, value_iff]
      exact or_iff_right (fun inNone => nomatch inNone)

end ObservationTable

end GuidedExploration
