/-!
Dictionaries: finite maps kept in ascending key order, with one value for each key. Two
dictionaries with the same look-ups are equal.
-/

set_option autoImplicit false

namespace GuidedExploration

class Ranked (κ : Type) where
  rank : κ → κ → Ordering
  eq_of_rank : ∀ {a b : κ}, rank a b = .eq → a = b
  rank_self : ∀ a : κ, rank a a = .eq
  swap_rank : ∀ a b : κ, (rank a b).swap = rank b a
  lt_trans : ∀ {a b c : κ}, rank a b = .lt → rank b c = .lt → rank a c = .lt

namespace Ranked

variable {κ : Type} [Ranked κ]

theorem rank_eq_iff {a b : κ} : rank a b = .eq ↔ a = b :=
  ⟨eq_of_rank, fun same => same ▸ rank_self a⟩

theorem gt_iff {a b : κ} : rank a b = .gt ↔ rank b a = .lt := by
  rw [← swap_rank a b]
  cases rank a b <;> decide

theorem ne_of_lt {a b : κ} (before : rank a b = .lt) : a ≠ b := by
  intro same
  rw [same, rank_self] at before
  exact absurd before (by decide)

end Ranked

instance : Ranked Nat where
  rank a b := if a < b then .lt else if b < a then .gt else .eq
  eq_of_rank {a b} same := by
    split at same
    · simp at same
    · split at same
      · simp at same
      · omega
  rank_self a := by simp
  swap_rank a b := by
    by_cases h : a < b
    · simp [h, show ¬b < a by omega]
    · by_cases h' : b < a
      · simp [h, h']
      · simp [h, h']
  lt_trans {a b c} first second := by
    have below : a < b := by
      by_cases h : a < b
      · exact h
      · by_cases h' : b < a <;> simp [h, h'] at first
    have above : b < c := by
      by_cases h : b < c
      · exact h
      · by_cases h' : c < b <;> simp [h, h'] at second
    simp [show a < c by omega]

def rankList {α : Type} [Ranked α] : List α → List α → Ordering
  | [], [] => .eq
  | [], _ :: _ => .lt
  | _ :: _, [] => .gt
  | a :: as, b :: bs =>
    match Ranked.rank a b with
    | .lt => .lt
    | .gt => .gt
    | .eq => rankList as bs

section

variable {α : Type} [Ranked α]

theorem rankList_self (a : List α) : rankList a a = .eq := by
  induction a with
  | nil => rfl
  | cons a as ih => simp [rankList, Ranked.rank_self, ih]

theorem eq_of_rankList {a b : List α} (same : rankList a b = .eq) : a = b := by
  induction a generalizing b with
  | nil => cases b <;> simp_all [rankList]
  | cons a as ih =>
    cases b with
    | nil => simp [rankList] at same
    | cons b bs =>
      unfold rankList at same
      split at same
      · simp at same
      · simp at same
      · next h => rw [Ranked.eq_of_rank h, ih same]

theorem swap_rankList (a b : List α) : (rankList a b).swap = rankList b a := by
  induction a generalizing b with
  | nil => cases b <;> rfl
  | cons a as ih =>
    cases b with
    | nil => rfl
    | cons b bs =>
      unfold rankList
      rw [← Ranked.swap_rank a b]
      cases Ranked.rank a b with
      | lt => rfl
      | eq => exact ih bs
      | gt => rfl

theorem rankList_lt_trans {a b c : List α} (first : rankList a b = .lt)
    (second : rankList b c = .lt) : rankList a c = .lt := by
  induction a generalizing b c with
  | nil => cases b <;> cases c <;> simp_all [rankList]
  | cons a as ih =>
    cases b with
    | nil => simp [rankList] at first
    | cons b bs =>
      cases c with
      | nil => simp [rankList] at second
      | cons c cs =>
        unfold rankList at first second ⊢
        split at first
        · next h =>
          split at second
          · next h' => simp [Ranked.lt_trans h h']
          · simp at second
          · next h' => simp [Ranked.eq_of_rank h' ▸ h]
        · simp at first
        · next h =>
          rw [Ranked.eq_of_rank h]
          split at second
          · next h' => simp
          · simp at second
          · next h' => simpa [h'] using ih first second

end

instance {α : Type} [Ranked α] : Ranked (List α) where
  rank := rankList
  eq_of_rank := eq_of_rankList
  rank_self := rankList_self
  swap_rank := swap_rankList
  lt_trans := rankList_lt_trans

@[reducible] def Ranked.byKey {κ γ : Type} [Ranked γ] (key : κ → γ)
    (faithful : ∀ a b : κ, key a = key b → a = b) : Ranked κ where
  rank a b := Ranked.rank (key a) (key b)
  eq_of_rank same := faithful _ _ (Ranked.eq_of_rank same)
  rank_self _ := Ranked.rank_self _
  swap_rank _ _ := Ranked.swap_rank _ _
  lt_trans first second := Ranked.lt_trans first second

/-- The order of texts: by code points, which is also the order of their UTF-8 bytes. -/
instance : Ranked String := .byKey (fun s => s.toList.map Char.toNat) fun _ _ same =>
  String.toList_inj.1 ((List.map_inj_right fun _ _ h => Char.toNat_inj.1 h).1 same)

structure Dict (κ ν : Type) [Ranked κ] where
  entries : List (κ × ν)
  ascending : entries.Pairwise fun a b => Ranked.rank a.1 b.1 = .lt

namespace Dict

variable {κ ν : Type} [Ranked κ]

instance [DecidableEq κ] [DecidableEq ν] : DecidableEq (Dict κ ν) := fun a b =>
  if same : a.entries = b.entries then
    isTrue (by cases a; cases b; simp_all)
  else isFalse fun h => same (congrArg entries h)

def empty : Dict κ ν := ⟨[], .nil⟩

instance : Inhabited (Dict κ ν) := ⟨empty⟩

def size (d : Dict κ ν) : Nat := d.entries.length

def isEmpty (d : Dict κ ν) : Bool := d.entries.isEmpty

def keys (d : Dict κ ν) : List κ := d.entries.map (·.1)

def values (d : Dict κ ν) : List ν := d.entries.map (·.2)

/-- Puts an entry at its place, in place of the entry with the same key. -/
def place (k : κ) (v : ν) : List (κ × ν) → List (κ × ν)
  | [] => [(k, v)]
  | e :: rest =>
    match Ranked.rank k e.1 with
    | .lt => (k, v) :: e :: rest
    | .eq => (k, v) :: rest
    | .gt => e :: place k v rest

theorem mem_place {k : κ} {v : ν} {e : κ × ν} {entries : List (κ × ν)}
    (inside : e ∈ place k v entries) : e = (k, v) ∨ e ∈ entries := by
  induction entries with
  | nil => exact Or.inl (by simpa [place] using inside)
  | cons head rest ih =>
    unfold place at inside
    split at inside
    · simpa using inside
    · rcases List.mem_cons.1 inside with h | h
      · exact Or.inl h
      · exact Or.inr (List.mem_cons_of_mem _ h)
    · rcases List.mem_cons.1 inside with h | h
      · exact Or.inr (h ▸ List.mem_cons_self)
      · rcases ih h with h | h
        · exact Or.inl h
        · exact Or.inr (List.mem_cons_of_mem _ h)

theorem ascending_place {k : κ} {v : ν} {entries : List (κ × ν)}
    (ascending : entries.Pairwise fun a b => Ranked.rank a.1 b.1 = .lt) :
    (place k v entries).Pairwise fun a b => Ranked.rank a.1 b.1 = .lt := by
  induction entries with
  | nil => simp [place]
  | cons head rest ih =>
    obtain ⟨first, later⟩ := List.pairwise_cons.1 ascending
    unfold place
    split
    · next h =>
      refine List.pairwise_cons.2 ⟨fun e inside => ?_, ascending⟩
      rcases List.mem_cons.1 inside with same | inside
      · exact same ▸ h
      · exact Ranked.lt_trans h (first e inside)
    · next h =>
      refine List.pairwise_cons.2 ⟨fun e inside => ?_, later⟩
      rw [Ranked.eq_of_rank h]
      exact first e inside
    · next h =>
      refine List.pairwise_cons.2 ⟨fun e inside => ?_, ih later⟩
      rcases mem_place inside with same | inside
      · exact same ▸ Ranked.gt_iff.1 h
      · exact first e inside

def insert (d : Dict κ ν) (k : κ) (v : ν) : Dict κ ν :=
  ⟨place k v d.entries, ascending_place d.ascending⟩

def find? (k : κ) : List (κ × ν) → Option ν
  | [] => none
  | e :: rest => if Ranked.rank k e.1 = .eq then some e.2 else find? k rest

def get? (d : Dict κ ν) (k : κ) : Option ν := find? k d.entries

def filter (d : Dict κ ν) (test : κ → ν → Bool) : Dict κ ν :=
  ⟨d.entries.filter fun e => test e.1 e.2, d.ascending.filter _⟩

/-- The entries in order, a later one in place of an earlier one with the same key. -/
def ofList (entries : List (κ × ν)) : Dict κ ν :=
  entries.foldl (fun d e => d.insert e.1 e.2) empty

/-- Changes the value at a key; `change none` is what an absent key gets. -/
def update (d : Dict κ ν) (k : κ) (change : Option ν → ν) : Dict κ ν :=
  d.insert k (change (d.get? k))

@[simp] theorem get?_empty (k : κ) : (empty : Dict κ ν).get? k = none := rfl

theorem find?_place (k k' : κ) (v : ν) (entries : List (κ × ν)) :
    find? k' (place k v entries) = if Ranked.rank k' k = .eq then some v else find? k' entries := by
  induction entries with
  | nil => simp [place, find?]
  | cons head rest ih =>
    unfold place
    split
    · simp [find?]
    · next h =>
      rw [Ranked.eq_of_rank h]
      unfold find?
      by_cases same : Ranked.rank k' head.1 = .eq <;> simp [same]
    · next h =>
      unfold find?
      rw [ih]
      by_cases same : Ranked.rank k' head.1 = .eq
      · have apart : Ranked.rank k' k ≠ .eq := by
          intro same'
          rw [← Ranked.eq_of_rank same, Ranked.eq_of_rank same', Ranked.rank_self] at h
          exact absurd h (by decide)
        simp [same, apart]
      · simp [same]

theorem get?_insert (d : Dict κ ν) (k k' : κ) (v : ν) :
    (d.insert k v).get? k' = if Ranked.rank k' k = .eq then some v else d.get? k' :=
  find?_place k k' v d.entries

@[simp] theorem get?_insert_self (d : Dict κ ν) (k : κ) (v : ν) :
    (d.insert k v).get? k = some v := by
  simp [get?_insert, Ranked.rank_self]

theorem get?_insert_of_ne (d : Dict κ ν) {k k' : κ} (v : ν) (apart : k' ≠ k) :
    (d.insert k v).get? k' = d.get? k' := by
  simp [get?_insert, Ranked.rank_eq_iff, apart]

theorem ne_of_ascending {e : κ × ν} {rest : List (κ × ν)}
    (ascending : (e :: rest).Pairwise fun a b => Ranked.rank a.1 b.1 = .lt)
    {f : κ × ν} (member : f ∈ rest) : f.1 ≠ e.1 :=
  (Ranked.ne_of_lt ((List.pairwise_cons.1 ascending).1 f member)).symm

theorem find?_eq_some_iff {entries : List (κ × ν)}
    (ascending : entries.Pairwise fun a b => Ranked.rank a.1 b.1 = .lt) {k : κ} {v : ν} :
    find? k entries = some v ↔ (k, v) ∈ entries := by
  induction entries with
  | nil => simp [find?]
  | cons e rest ih =>
    have later := ih (List.pairwise_cons.1 ascending).2
    by_cases same : k = e.1
    · have absent : (k, v) ∉ rest := fun member => ne_of_ascending ascending member same
      simp [find?, same, Ranked.rank_self, Prod.ext_iff, eq_comm] at absent ⊢
      simp [absent]
    · have apart : (k, v) ≠ e := fun equal => same (congrArg Prod.fst equal)
      simp [find?, Ranked.rank_eq_iff, same, later, apart]

theorem find?_eq_none_of_ascending {e : κ × ν} {rest : List (κ × ν)}
    (ascending : (e :: rest).Pairwise fun a b => Ranked.rank a.1 b.1 = .lt) :
    find? e.1 rest = none :=
  Option.eq_none_iff_forall_ne_some.2 fun _ found =>
    ne_of_ascending ascending ((find?_eq_some_iff (List.pairwise_cons.1 ascending).2).1 found) rfl

theorem get?_eq_some_iff (d : Dict κ ν) {k : κ} {v : ν} :
    d.get? k = some v ↔ (k, v) ∈ d.entries :=
  find?_eq_some_iff d.ascending

theorem get?_filter (d : Dict κ ν) (test : κ → ν → Bool) (k : κ) :
    (d.filter test).get? k = (d.get? k).filter (test k) := by
  apply Option.ext
  intro v
  rw [get?_eq_some_iff, Option.filter_eq_some_iff, get?_eq_some_iff]
  exact List.mem_filter

end Dict

end GuidedExploration
