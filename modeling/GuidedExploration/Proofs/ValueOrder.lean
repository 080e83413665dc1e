import GuidedExploration.Proofs.Dict
import GuidedExploration.ValueMap.Entry
import Mathlib.Algebra.Order.Ring.Int
import Mathlib.Data.List.Dedup

/-!
The order of listed values. Sorting keeps every value, puts the values in the order that their
texts or their numbers have, and does not depend on the order in which they were given.
-/

set_option autoImplicit false

namespace GuidedExploration.Values

def rankOf (values : List String) : String → String → Ordering :=
  if values.all fun value => (number? value).isSome then rankNumbers else Ranked.rank

theorem sort_eq (values : List String) : sort values = sortBy (rankOf values) values := by
  unfold sort rankOf
  split <;> rfl

theorem insertBy_perm (rank : String → String → Ordering) (value : String) (values : List String) :
    (insertBy rank value values).Perm (value :: values) := by
  induction values with
  | nil => exact .refl _
  | cons head rest ih =>
    unfold insertBy
    split
    · exact (ih.cons head).trans (.swap value head rest)
    · exact .refl _

theorem sortBy_perm (rank : String → String → Ordering) (values : List String) :
    (sortBy rank values).Perm values := by
  induction values with
  | nil => exact .refl _
  | cons value rest ih => exact (insertBy_perm rank value _).trans (ih.cons value)

theorem sort_perm (values : List String) : (sort values).Perm values := by
  rw [sort_eq]
  exact sortBy_perm _ _

section

variable {γ : Type} [Ranked γ] (key : String → γ) {rank : String → String → Ordering}

def ComparesBy (rank : String → String → Ordering) (values : List String) : Prop :=
  ∀ a ∈ values, ∀ b ∈ values, rank a b = Ranked.rank (key a) (key b)

variable {key}

theorem pairwise_insertBy {value : String} {values : List String}
    (byKey : ComparesBy key rank (value :: values))
    (sorted : values.Pairwise fun a b => rank a b ≠ .gt) :
    (insertBy rank value values).Pairwise fun a b => rank a b ≠ .gt := by
  induction values with
  | nil => simp [insertBy]
  | cons head rest ih =>
    obtain ⟨first, later⟩ := List.pairwise_cons.1 sorted
    have atHead : rank value head = Ranked.rank (key value) (key head) :=
      byKey value (by simp) head (by simp)
    unfold insertBy
    split
    · next above =>
      refine List.pairwise_cons.2 ⟨fun b member => ?_, ih (fun a ha b hb => ?_) later⟩
      · rcases List.mem_cons.1 ((insertBy_perm rank value rest).mem_iff.1 member) with same | below
        · rw [same, byKey head (by simp) value (by simp), ← Ranked.swap_rank, ← atHead, above]
          decide
        · exact first b below
      · exact byKey a (by grind) b (by grind)
    · next notAbove =>
      refine List.pairwise_cons.2 ⟨fun b member => ?_, sorted⟩
      rcases List.mem_cons.1 member with same | below
      · exact same ▸ notAbove
      · have step := first b below
        rw [byKey head (by simp) b (by simp [below])] at step
        rw [byKey value (by simp) b (by simp [below])]
        rw [atHead] at notAbove
        exact Ranked.not_gt_trans notAbove step

theorem pairwise_sortBy {values : List String} (byKey : ComparesBy key rank values) :
    (sortBy rank values).Pairwise fun a b => rank a b ≠ .gt := by
  induction values with
  | nil => exact .nil
  | cons value rest ih =>
    have tail : ComparesBy key rank rest := fun a ha b hb => byKey a (by simp [ha]) b (by simp [hb])
    refine pairwise_insertBy (fun a ha b hb => byKey a ?_ b ?_) (ih tail)
    · exact ((sortBy_perm rank rest).cons value).mem_iff.1 ha
    · exact ((sortBy_perm rank rest).cons value).mem_iff.1 hb

end

theorem rankList_cons {α : Type} [Ranked α] (a b : α) (as bs : List α) :
    rankList (a :: as) (b :: bs) = (Ranked.rank a b).then (rankList as bs) := by
  rw [rankList]
  cases Ranked.rank a b <;> rfl

def numberKey (value : String) : List Nat :=
  ((number? value).getD 0 + 2 ^ 127).toNat :: value.toList.map Char.toNat

theorem number?_bound {value : String} {n : Int} (found : number? value = some n) : -2 ^ 127 ≤ n := by
  obtain ⟨m, -, fits⟩ := Option.bind_eq_some_iff.1 found
  split at fits
  · next inRange =>
    simp only [Text.fitsSigned, Bool.and_eq_true, decide_eq_true_eq] at inRange
    exact Option.some.inj fits ▸ inRange.1
  · simp at fits

theorem rankNumbers_eq {a b : String} {m n : Int} (left : number? a = some m)
    (right : number? b = some n) :
    rankNumbers a b = Ranked.rank (numberKey a) (numberKey b) := by
  -- Moved up by the whole range the numbers are natural ones, and keep their order.
  have low := number?_bound left
  have low' := number?_bound right
  have keys : Ranked.rank (numberKey a) (numberKey b) =
      (Ranked.rank (m + 2 ^ 127).toNat (n + 2 ^ 127).toNat).then (Ranked.rank a b) := by
    simp only [numberKey, left, right, Option.getD_some]
    exact rankList_cons _ _ _ _
  simp only [rankNumbers, left, right]
  rw [keys]
  by_cases below : m < n
  · rw [if_pos below, Ranked.nat_of_lt (by omega), Ordering.lt_then]
  · rw [if_neg below]
    by_cases above : n < m
    · rw [if_pos above, Ranked.nat_of_gt (by omega), Ordering.gt_then]
    · rw [if_neg above, show m = n by omega, Ranked.rank_self, Ordering.eq_then]

/-- Values that are all numbers compare by number, others by text; either way equal rank means
equal text. -/
theorem rankOf_lawful (values : List String) :
    ∃ key : String → List Nat, Function.Injective key ∧ ComparesBy key (rankOf values) values := by
  unfold rankOf
  split
  · next numeric =>
    refine ⟨numberKey, fun a b same => ?_, fun a ha b hb => ?_⟩
    · exact String.toList_inj.1
        ((List.map_inj_right fun _ _ h => Char.toNat_inj.1 h).1 (List.cons.inj same).2)
    · obtain ⟨m, left⟩ := Option.isSome_iff_exists.1 (List.all_eq_true.1 numeric a ha)
      obtain ⟨n, right⟩ := Option.isSome_iff_exists.1 (List.all_eq_true.1 numeric b hb)
      exact rankNumbers_eq left right
  · refine ⟨fun value => value.toList.map Char.toNat, fun a b same => ?_, fun _ _ _ _ => rfl⟩
    exact String.toList_inj.1 ((List.map_inj_right fun _ _ h => Char.toNat_inj.1 h).1 same)

theorem pairwise_sort (values : List String) :
    (sort values).Pairwise fun a b => rankOf values a b ≠ .gt := by
  obtain ⟨key, -, byKey⟩ := rankOf_lawful values
  rw [sort_eq]
  exact pairwise_sortBy byKey

theorem rankOf_eq_of_mem_iff {a b : List String} (same : ∀ value, value ∈ a ↔ value ∈ b) :
    rankOf a = rankOf b := by
  have numeric : (a.all fun value => (number? value).isSome) =
      b.all fun value => (number? value).isSome := by
    rw [Bool.eq_iff_iff, List.all_eq_true, List.all_eq_true]
    simp only [same]
  rw [rankOf, rankOf, numeric]

theorem sort_eq_of_perm {values values' : List String} (same : values'.Perm values) :
    sort values' = sort values := by
  obtain ⟨key, faithful, byKey⟩ := rankOf_lawful values
  have ranks : rankOf values' = rankOf values := rankOf_eq_of_mem_iff fun _ => same.mem_iff
  have sorted := pairwise_sort values'
  rw [ranks] at sorted
  refine List.Perm.eq_of_pairwise (fun a b ha hb notAfter notBefore => ?_) sorted
    (pairwise_sort values) ((sort_perm values').trans (same.trans (sort_perm values).symm))
  have inside := same.mem_iff.1 ((sort_perm values').mem_iff.1 ha)
  have inside' := (sort_perm values).mem_iff.1 hb
  rw [byKey a inside b inside'] at notAfter
  rw [byKey b inside' a inside] at notBefore
  cases order : Ranked.rank (key a) (key b) with
  | lt => exact absurd (Ranked.gt_iff.2 order) notBefore
  | eq => exact faithful (Ranked.eq_of_rank order)
  | gt => exact absurd order notAfter

theorem entries_eq_of_perm {values values' : List String} (same : values'.Perm values) :
    entries values' = entries values := by
  rw [entries, entries, sort_eq_of_perm same]

/-- What a value list says about the values that were seen: each of them is listed once, as a plain
value, and in the order of them all. -/
structure IsListing (seen : List String) (listed : List ValueEntry) : Prop where
  plain : ∀ entry ∈ listed, entry.kind = 0
  once : (listed.map ValueEntry.value).Nodup
  all : ∀ value, value ∈ listed.map ValueEntry.value ↔ value ∈ seen
  ascending : (listed.map ValueEntry.value).Pairwise fun a b => rankOf seen a b = .lt

@[simp] theorem map_value_entries (values : List String) :
    (entries values).map ValueEntry.value = sort values := by
  simp [entries, ValueEntry.plain, Function.comp_def]

theorem isListing_entries {values seen : List String} (nodup : values.Nodup)
    (same : ∀ value, value ∈ values ↔ value ∈ seen) : IsListing seen (entries values) where
  plain entry member := by
    obtain ⟨value, -, rfl⟩ := List.mem_map.1 member
    rfl
  once := by
    rw [map_value_entries]
    exact (sort_perm values).nodup_iff.2 nodup
  all value := by
    rw [map_value_entries, (sort_perm values).mem_iff, same]
  ascending := by
    obtain ⟨key, faithful, byKey⟩ := rankOf_lawful values
    have distinct : (sort values).Pairwise (· ≠ ·) := (sort_perm values).nodup_iff.2 nodup
    rw [map_value_entries, ← rankOf_eq_of_mem_iff same]
    refine (distinct.and (pairwise_sort values)).imp_of_mem fun {a b} ha hb both => ?_
    obtain ⟨apart, ordered⟩ := both
    have compared := byKey a ((sort_perm values).mem_iff.1 ha) b ((sort_perm values).mem_iff.1 hb)
    cases rank : rankOf values a b with
    | lt => rfl
    | eq => exact absurd (faithful (Ranked.eq_of_rank (compared.symm.trans rank))) apart
    | gt => exact absurd rank ordered

theorem IsListing.eq {seen : List String} {first second : List ValueEntry}
    (left : IsListing seen first) (right : IsListing seen second) : first = second := by
  have values : first.map ValueEntry.value = second.map ValueEntry.value := by
    refine List.Perm.eq_of_pairwise (fun a b ha hb before after => ?_) left.ascending
      right.ascending ((List.perm_ext_iff_of_nodup left.once right.once).2 fun value =>
        (left.all value).trans (right.all value).symm)
    obtain ⟨key, -, byKey⟩ := rankOf_lawful seen
    rw [byKey a ((left.all a).1 ha) b ((right.all b).1 hb)] at before
    rw [byKey b ((right.all b).1 hb) a ((left.all a).1 ha)] at after
    exact absurd (Ranked.lt_trans before after) (by simp [Ranked.rank_self])
  have entries_of_values : ∀ {listed : List ValueEntry}, (∀ entry ∈ listed, entry.kind = 0) →
      (listed.map ValueEntry.value).map ValueEntry.plain = listed := by
    intro listed plain
    rw [List.map_map]
    refine (List.map_congr_left fun entry member => ?_).trans (List.map_id listed)
    simp [ValueEntry.plain, ← plain entry member]
  rw [← entries_of_values left.plain, ← entries_of_values right.plain, values]

end GuidedExploration.Values
