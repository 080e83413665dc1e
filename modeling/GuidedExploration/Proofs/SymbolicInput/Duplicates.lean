import GuidedExploration.Proofs.SymbolicInput.Defaults
import Mathlib.Data.List.Forall2
import Mathlib.Data.List.Induction

/-!
What becomes of a list of defaults. Of every program the first entry is kept and every later one is
reported in its turn, so that each entry is either in the table or in the report.
-/

set_option autoImplicit false

namespace GuidedExploration.DefaultsTable

def IsFirst (entries : List (String × String)) (program input : String) : Prop :=
  ∃ before after, entries = before ++ (program, input) :: after ∧ program ∉ before.map Prod.fst

def Repeated (entries : List (String × String)) (place : Nat) : Prop :=
  ∃ program input, entries[place]? = some (program, input) ∧
    program ∈ (entries.take place).map Prod.fst

/-- What is to be said of the entry at a place: its own input, and the one that is kept instead. -/
structure Tells (entries : List (String × String)) (place : Nat) (d : DuplicateDefault) : Prop where
  rejected : entries[place]? = some (d.program, d.rejected)
  kept : IsFirst entries d.program d.kept

/-- A report on just the places that are repeated, in their order. -/
structure Account (entries : List (String × String)) (places : List Nat)
    (duplicates : List DuplicateDefault) : Prop where
  ascending : places.Pairwise (· < ·)
  complete : ∀ place, place ∈ places ↔ Repeated entries place
  told : List.Forall₂ (Tells entries) places duplicates

section

variable {entries : List (String × String)} {program input kept : String}

theorem get?_firsts_eq_some_iff :
    (firsts entries).get? program = some input ↔ IsFirst entries program input := by
  rw [get?_firsts, List.lookup_eq_some_iff, IsFirst]
  simp only [bne_iff_ne, List.mem_map, not_exists, not_and, ne_comm]

theorem get?_firsts_eq_none_iff :
    (firsts entries).get? program = none ↔ program ∉ entries.map Prod.fst := by
  rw [get?_firsts, List.lookup_eq_none_iff]
  simp only [bne_iff_ne, List.mem_map, not_exists, not_and, ne_comm]

theorem mem_of_get?_firsts (found : (firsts entries).get? program = some kept) :
    program ∈ entries.map Prod.fst := by
  by_contra absent
  rw [get?_firsts_eq_none_iff.2 absent] at found
  cases found

/-! ## One entry more -/

theorem extend_append (table : DefaultsTable) (front back : List (String × String)) :
    table.extend (front ++ back) =
      (((table.extend front).1.extend back).1,
        (table.extend front).2 ++ ((table.extend front).1.extend back).2) := by
  induction front generalizing table with
  | nil => rfl
  | cons entry front ih =>
    obtain ⟨program, input⟩ := entry
    rw [List.cons_append]
    cases found : table.get? program with
    | some kept => rw [extend_of_listed found, extend_of_listed found, ih, List.cons_append]
    | none => rw [extend_of_new found, extend_of_new found, ih]

theorem build_concat_listed (found : (firsts entries).get? program = some kept) (input : String) :
    build (entries ++ [(program, input)]) =
      (firsts entries, (build entries).2 ++ [⟨program, kept, input⟩]) := by
  rw [build, extend_append]
  exact congrArg (fun r => (r.1, (build entries).2 ++ r.2)) (extend_of_listed found input [])

theorem build_concat_new (absent : (firsts entries).get? program = none) (input : String) :
    build (entries ++ [(program, input)]) =
      (⟨(firsts entries).inputs.insert program input⟩, (build entries).2) := by
  rw [build, extend_append]
  refine (congrArg (fun r => (r.1, (build entries).2 ++ r.2)) (extend_of_new absent input [])).trans ?_
  exact congrArg (Prod.mk _) (List.append_nil _)

theorem IsFirst.concat (first : IsFirst entries program input) (entry : String × String) :
    IsFirst (entries ++ [entry]) program input := by
  obtain ⟨before, after, rfl, new⟩ := first
  exact ⟨before, after ++ [entry], by simp, new⟩

theorem Repeated.lt_length {place : Nat} (repeated : Repeated entries place) :
    place < entries.length := by
  obtain ⟨_, _, own, -⟩ := repeated
  exact (List.getElem?_eq_some_iff.1 own).1

theorem Tells.concat {place : Nat} {d : DuplicateDefault} (tells : Tells entries place d)
    (entry : String × String) : Tells (entries ++ [entry]) place d where
  rejected := by
    have inside := (List.getElem?_eq_some_iff.1 tells.rejected).1
    rw [List.getElem?_append_left inside, tells.rejected]
  kept := tells.kept.concat entry

theorem repeated_concat_iff {place : Nat} :
    Repeated (entries ++ [(program, input)]) place ↔
      Repeated entries place ∨ place = entries.length ∧ program ∈ entries.map Prod.fst := by
  rcases Nat.lt_trichotomy place entries.length with before | rfl | behind
  · simp [Repeated, List.getElem?_append_left before, List.take_append_of_le_length before.le,
      before.ne]
  · have none : ¬Repeated entries entries.length := fun repeated =>
      (Nat.lt_irrefl _ repeated.lt_length).elim
    simp only [none, false_or, true_and]
    simp [Repeated]
  · have none : ¬Repeated entries place := fun repeated =>
      (Nat.lt_asymm behind repeated.lt_length).elim
    have none' : ¬Repeated (entries ++ [(program, input)]) place := fun repeated => by
      have inside := repeated.lt_length
      rw [List.length_append, List.length_singleton] at inside
      omega
    simp [none, none', behind.ne']

theorem Account.concat_new {places : List Nat} {duplicates : List DuplicateDefault}
    (account : Account entries places duplicates) (absent : program ∉ entries.map Prod.fst) :
    Account (entries ++ [(program, input)]) places duplicates where
  ascending := account.ascending
  complete place := by
    rw [account.complete, repeated_concat_iff]
    exact (or_iff_left fun last => absent last.2).symm
  told := account.told.imp fun _ _ tells => tells.concat _

theorem Account.concat_listed {places : List Nat} {duplicates : List DuplicateDefault}
    (account : Account entries places duplicates) (first : IsFirst entries program kept)
    (listed : program ∈ entries.map Prod.fst) :
    Account (entries ++ [(program, input)]) (places ++ [entries.length])
      (duplicates ++ [⟨program, kept, input⟩]) where
  ascending := by
    refine List.pairwise_append.2 ⟨account.ascending, List.pairwise_singleton _ _, ?_⟩
    intro place member last here
    rw [List.mem_singleton.1 here]
    exact ((account.complete place).1 member).lt_length
  complete place := by
    rw [List.mem_append, List.mem_singleton, account.complete, repeated_concat_iff,
      and_iff_left listed]
  told := by
    have own : Tells (entries ++ [(program, input)]) entries.length ⟨program, kept, input⟩ :=
      ⟨by simp, first.concat _⟩
    exact List.rel_append (account.told.imp fun _ _ tells => tells.concat _) (.cons own .nil)

end

/-! ## All entries -/

theorem exists_account (entries : List (String × String)) :
    ∃ places, Account entries places (build entries).2 := by
  induction entries using List.reverseRecOn with
  | nil => exact ⟨[], .nil, by simp [Repeated], .nil⟩
  | append_singleton entries entry ih =>
    obtain ⟨places, account⟩ := ih
    obtain ⟨program, input⟩ := entry
    cases found : (firsts entries).get? program with
    | some kept =>
      rw [build_concat_listed found]
      exact ⟨_, account.concat_listed (get?_firsts_eq_some_iff.1 found) (mem_of_get?_firsts found)⟩
    | none =>
      rw [build_concat_new found]
      exact ⟨places, account.concat_new (get?_firsts_eq_none_iff.1 found)⟩

theorem size_build (entries : List (String × String)) :
    (build entries).1.size + (build entries).2.length = entries.length := by
  induction entries using List.reverseRecOn with
  | nil => rfl
  | append_singleton entries entry ih =>
    obtain ⟨program, input⟩ := entry
    rw [List.length_append, List.length_singleton, ← ih]
    cases found : (firsts entries).get? program with
    | some kept =>
      rw [build_concat_listed found, List.length_append, List.length_singleton, ← Nat.add_assoc]
      rfl
    | none =>
      have larger : size ⟨(firsts entries).inputs.insert program input⟩ = (firsts entries).size + 1 :=
        (firsts entries).inputs.size_insert_of_absent input found
      rw [build_concat_new found, larger, Nat.add_right_comm]
      rfl

/-- A table has for each program its first entry. The later ones are reported, each with the entry
that is kept, in the order in which they are listed, and nothing else is; an entry is in the table
or in the report. -/
theorem build_shadows_nothing (entries : List (String × String)) :
    (∀ program input, (build entries).1.get? program = some input ↔
      IsFirst entries program input) ∧
    (∀ program, (build entries).1.get? program = none ↔ program ∉ entries.map Prod.fst) ∧
    (∃ places, Account entries places (build entries).2) ∧
    (build entries).1.size + (build entries).2.length = entries.length :=
  ⟨fun _ _ => get?_firsts_eq_some_iff, fun _ => get?_firsts_eq_none_iff, exists_account entries,
    size_build entries⟩

example : (build [("du", "a"), ("ls", "b"), ("du", "c"), ("du", "a")]).2 =
    [⟨"du", "a", "c"⟩, ⟨"du", "a", "a"⟩] := by
  decide +kernel

end GuidedExploration.DefaultsTable
