import GuidedExploration.Dict
import Mathlib.Algebra.Order.Ring.Int
import Mathlib.Data.List.Basic
import Mathlib.Data.List.Induction

/-!
Dictionaries by their look-ups: an entry is what its key gives, the keys are distinct, and the
entries of any dictionary build it again.
-/

set_option autoImplicit false

namespace GuidedExploration

theorem Ranked.not_gt_trans {κ : Type} [Ranked κ] {a b c : κ} (first : Ranked.rank a b ≠ .gt)
    (second : Ranked.rank b c ≠ .gt) : Ranked.rank a c ≠ .gt := by
  cases left : Ranked.rank a b with
  | lt =>
    cases right : Ranked.rank b c with
    | lt => simp [Ranked.lt_trans left right]
    | eq => simp [← Ranked.eq_of_rank right, left]
    | gt => exact absurd right second
  | eq => exact Ranked.eq_of_rank left ▸ second
  | gt => exact absurd left first

theorem Ranked.nat_of_lt {a b : Nat} (below : a < b) : Ranked.rank a b = .lt := if_pos below

theorem Ranked.nat_of_gt {a b : Nat} (above : b < a) : Ranked.rank a b = .gt :=
  Ranked.gt_iff.2 (Ranked.nat_of_lt above)

theorem Ranked.nat_lt_iff {a b : Nat} : Ranked.rank a b = .lt ↔ a < b := by
  refine ⟨fun before => ?_, Ranked.nat_of_lt⟩
  by_contra above
  rcases Nat.lt_or_eq_of_le (Nat.le_of_not_lt above) with less | rfl
  · rw [Ranked.nat_of_gt less] at before
    cases before
  · rw [Ranked.rank_self] at before
    cases before

namespace Dict

variable {κ ν : Type} [Ranked κ]

theorem mem_keys_iff (d : Dict κ ν) {k : κ} : k ∈ d.keys ↔ ∃ v, d.get? k = some v := by
  simp [keys, get?_eq_some_iff]

/-- What comes first among the entries that give something is what no entry of a lesser key gives. -/
theorem findSome?_eq_some_iff (d : Dict κ ν) {β : Type} {f : κ × ν → Option β} {b : β} :
    d.entries.findSome? f = some b ↔ ∃ k v, d.get? k = some v ∧ f (k, v) = some b ∧
      ∀ k' v', Ranked.rank k' k = .lt → d.get? k' = some v' → f (k', v') = none := by
  simp only [get?_eq_some_iff]
  constructor
  -- The entries ascend, so those in front of one are just those of lesser keys.
  · intro found
    obtain ⟨front, ⟨k, v⟩, back, split, gives, earlier⟩ := List.findSome?_eq_some_iff.1 found
    have ascending := d.ascending
    rw [split, List.pairwise_append, List.pairwise_cons] at ascending
    refine ⟨k, v, by simp [split], gives, fun k' v' lesser inside => ?_⟩
    rw [split, List.mem_append, List.mem_cons] at inside
    rcases inside with inFront | same | inBack
    · exact earlier _ inFront
    · cases same
      simp [Ranked.rank_self] at lesser
    · have greater := ascending.2.1.1 _ inBack
      simp [Ranked.gt_iff.2 greater] at lesser
  · rintro ⟨k, v, inside, gives, earlier⟩
    obtain ⟨front, back, split⟩ := List.append_of_mem inside
    have ascending := d.ascending
    rw [split, List.pairwise_append] at ascending
    refine List.findSome?_eq_some_iff.2 ⟨front, (k, v), back, split, gives, fun e inFront => ?_⟩
    exact earlier e.1 e.2 (ascending.2.2 e inFront _ List.mem_cons_self)
      (split ▸ List.mem_append_left _ inFront)

theorem pairwise_keys (d : Dict κ ν) : d.keys.Pairwise fun a b => Ranked.rank a b = .lt :=
  List.pairwise_map.2 d.ascending

theorem nodup_keys (d : Dict κ ν) : d.keys.Nodup :=
  d.pairwise_keys.imp Ranked.ne_of_lt

theorem eq_of_entries {d d' : Dict κ ν} (same : d.entries = d'.entries) : d = d' := by
  cases d
  cases d'
  cases same
  rfl

theorem ext {d d' : Dict κ ν} (same : ∀ k, d.get? k = d'.get? k) : d = d' := by
  have members : ∀ e, e ∈ d.entries ↔ e ∈ d'.entries := by
    intro e
    rw [← d.get?_eq_some_iff, ← d'.get?_eq_some_iff, same]
  have distinct : ∀ d : Dict κ ν, d.entries.Nodup := fun d =>
    d.ascending.imp fun before equal => Ranked.ne_of_lt before (congrArg Prod.fst equal)
  apply eq_of_entries
  refine List.Perm.eq_of_pairwise (fun a b _ _ before after => ?_) d.ascending d'.ascending
    ((List.perm_ext_iff_of_nodup (distinct d) (distinct d')).2 members)
  exact absurd (Ranked.lt_trans before after) (by simp [Ranked.rank_self])

theorem isEmpty_eq_false_of_get? {d : Dict κ ν} {k : κ} {v : ν} (found : d.get? k = some v) :
    d.isEmpty = false := by
  have member := d.get?_eq_some_iff.1 found
  simpa [isEmpty] using List.ne_nil_of_mem member

theorem get?_insert_eq (d : Dict κ ν) [DecidableEq κ] (k k' : κ) (v : ν) :
    (d.insert k v).get? k' = if k' = k then some v else d.get? k' := by
  simp only [get?_insert, Ranked.rank_eq_iff]

theorem get?_update (d : Dict κ ν) [DecidableEq κ] (k k' : κ) (change : Option ν → ν) :
    (d.update k change).get? k' = if k' = k then some (change (d.get? k)) else d.get? k' :=
  d.get?_insert_eq k k' _

theorem insert_comm (d : Dict κ ν) {k k' : κ} (apart : k ≠ k') (v v' : ν) :
    (d.insert k v).insert k' v' = (d.insert k' v').insert k v := by
  apply ext
  intro other
  by_cases same : other = k
  · subst same
    rw [get?_insert_of_ne _ _ apart, get?_insert_self, get?_insert_self]
  · rw [get?_insert_of_ne _ v same, get?_insert _ k', get?_insert _ k', get?_insert_of_ne d v same]

theorem mem_keys_insert (d : Dict κ ν) {k k' : κ} {v : ν} :
    k' ∈ (d.insert k v).keys ↔ k' = k ∨ k' ∈ d.keys := by
  by_cases same : k' = k
  · simp [mem_keys_iff, same]
  · simp [mem_keys_iff, get?_insert_of_ne d v same, same]

theorem place_eq_concat {k : κ} {v : ν} {entries : List (κ × ν)}
    (last : ∀ e ∈ entries, Ranked.rank e.1 k = .lt) : place k v entries = entries ++ [(k, v)] := by
  induction entries with
  | nil => rfl
  | cons e rest ih =>
    have later : Ranked.rank k e.1 = .gt := Ranked.gt_iff.2 (last e List.mem_cons_self)
    have shape := ih fun f member => last f (List.mem_cons_of_mem e member)
    simp only [place, later, shape, List.cons_append]

theorem entries_foldl_insert (more : List (κ × ν)) (d : Dict κ ν)
    (ascending : (d.entries ++ more).Pairwise fun a b => Ranked.rank a.1 b.1 = .lt) :
    (more.foldl (fun d e => d.insert e.1 e.2) d).entries = d.entries ++ more := by
  induction more generalizing d with
  | nil => simp
  | cons e more ih =>
    have last : ∀ f ∈ d.entries, Ranked.rank f.1 e.1 = .lt := fun f member =>
      (List.pairwise_append.1 ascending).2.2 f member e List.mem_cons_self
    have placed : (d.insert e.1 e.2).entries = d.entries ++ [e] := place_eq_concat last
    rw [List.foldl_cons, ih (d.insert e.1 e.2) (by simpa [placed] using ascending), placed,
      List.append_assoc, List.cons_append, List.nil_append]

theorem ofList_entries (d : Dict κ ν) : ofList d.entries = d :=
  eq_of_entries (entries_foldl_insert d.entries empty (by simpa [empty] using d.ascending))

theorem ofList_concat (entries : List (κ × ν)) (e : κ × ν) :
    ofList (entries ++ [e]) = (ofList entries).insert e.1 e.2 := List.foldl_concat ..

theorem get?_ofList_eq_some_iff [DecidableEq κ] {entries : List (κ × ν)}
    (distinct : (entries.map Prod.fst).Nodup) {k : κ} {v : ν} :
    (ofList entries).get? k = some v ↔ (k, v) ∈ entries := by
  induction entries using List.reverseRecOn with
  | nil => exact iff_of_false nofun List.not_mem_nil
  | append_singleton entries e ih =>
    rw [List.map_append, List.map_singleton, List.nodup_append] at distinct
    obtain ⟨front, -, apart⟩ := distinct
    rw [ofList_concat, get?_insert_eq, List.mem_append, List.mem_singleton]
    split
    · next same =>
      subst same
      have absent : (e.1, v) ∉ entries := fun member =>
        apart e.1 (List.mem_map.2 ⟨(e.1, v), member, rfl⟩) e.1 List.mem_cons_self rfl
      simp only [absent, false_or, Prod.ext_iff, true_and, Option.some.injEq, eq_comm]
    · next other =>
      have different : (k, v) ≠ e := fun equal => other (congrArg Prod.fst equal)
      simp [ih front, different]

theorem ofList_of_perm [DecidableEq κ] {d : Dict κ ν} {entries : List (κ × ν)}
    (same : entries.Perm d.entries) : ofList entries = d := by
  have distinct : (entries.map Prod.fst).Nodup := (same.map Prod.fst).nodup_iff.2 d.nodup_keys
  apply ext
  intro k
  apply Option.ext
  intro v
  rw [get?_ofList_eq_some_iff distinct, get?_eq_some_iff, same.mem_iff]

theorem isEmpty_ofList (entries : List (κ × ν)) : (ofList entries).isEmpty = entries.isEmpty := by
  rcases List.eq_nil_or_concat entries with rfl | ⟨first, e, rfl⟩
  · rfl
  · rw [List.concat_eq_append, ofList_concat, isEmpty_eq_false_of_get? (get?_insert_self _ _ _)]
    simp

/-- A weight over all entries changes by what is put in, less what stood there. -/
theorem sum_place (weight : κ → ν → Nat) (k : κ) (v : ν) {entries : List (κ × ν)}
    (ascending : entries.Pairwise fun a b => Ranked.rank a.1 b.1 = .lt) :
    ((place k v entries).map fun e => weight e.1 e.2).sum + (find? k entries).elim 0 (weight k) =
      (entries.map fun e => weight e.1 e.2).sum + weight k v := by
  induction entries with
  | nil => simp [place, find?]
  | cons e rest ih =>
    have tail := ih (List.pairwise_cons.1 ascending).2
    cases order : Ranked.rank k e.1 with
    | lt =>
      have absent : find? k rest = none := by
        refine Option.eq_none_iff_forall_not_mem.2 fun v found => ?_
        have member := (find?_eq_some_iff (List.pairwise_cons.1 ascending).2).1 found
        exact Ranked.ne_of_lt (Ranked.lt_trans order ((List.pairwise_cons.1 ascending).1 _ member)) rfl
      simp [place, find?, order, absent, Nat.add_comm]
    | eq =>
      have same := Ranked.eq_of_rank order
      subst same
      simp [place, find?, order]
      omega
    | gt =>
      simp only [place, find?, order, List.map_cons, List.sum_cons]
      simp only [reduceCtorEq, if_false]
      omega

theorem size_insert_of_absent (d : Dict κ ν) {k : κ} (v : ν) (absent : d.get? k = none) :
    (d.insert k v).size = d.size + 1 := by
  have counted := sum_place (fun _ _ => 1) k v d.ascending
  rw [show find? k d.entries = none from absent] at counted
  simpa [size, insert] using counted

end Dict

end GuidedExploration
