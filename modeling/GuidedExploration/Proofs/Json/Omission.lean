import GuidedExploration.Proofs.Json.Schema
import Mathlib.Data.List.Forall2

/-!
Records with members left out. A field that has its usual value need not be written, at any level
of a record, and a reader that takes the usual value for it reads the same.
-/

set_option autoImplicit false

namespace GuidedExploration.Json

structure Field where
  name : String
  usual : Json
  /-- What may be written for a value: the value itself, or a record with members left out. -/
  Shortens : Json → Json → Prop := Eq

inductive Shortened : List Field → List (String × Json) → List (String × Json) → Prop where
  | nil : Shortened [] [] []
  | kept {f : Field} {fields : List Field} {j j' : Json} {members written : List (String × Json)} :
      f.Shortens j j' → Shortened fields members written →
      Shortened (f :: fields) ((f.name, j) :: members) ((f.name, j') :: written)
  | omitted {f : Field} {fields : List Field} {members written : List (String × Json)} :
      Shortened fields members written →
      Shortened (f :: fields) ((f.name, f.usual) :: members) written

inductive ShortenedRecord (fields : List Field) : Json → Json → Prop where
  | mk {members written : List (String × Json)} : Shortened fields members written →
      ShortenedRecord fields (record members) (record written)

namespace Shortened

variable {fields : List Field} {members written : List (String × Json)}

theorem map_fst_members (shortened : Shortened fields members written) :
    members.map Prod.fst = fields.map Field.name := by
  induction shortened with
  | nil => rfl
  | kept _ _ ih => rw [List.map_cons, List.map_cons, ih]
  | omitted _ ih => rw [List.map_cons, List.map_cons, ih]

theorem map_fst_written (shortened : Shortened fields members written) :
    (written.map Prod.fst).Sublist (fields.map Field.name) := by
  induction shortened with
  | nil => exact .slnil
  | kept _ _ ih => exact ih.cons_cons _
  | omitted _ ih => exact ih.cons _

theorem fields?_members (shortened : Shortened fields members written)
    (distinct : (fields.map Field.name).Nodup) :
    (record members).fields? (fields.map Field.name) = some members :=
  fields?_record shortened.map_fst_members distinct

theorem fields?_written (shortened : Shortened fields members written)
    (distinct : (fields.map Field.name).Nodup) :
    (record written).fields? (fields.map Field.name) = some written :=
  fields?_record_of_subset
    (fun _ inside => shortened.map_fst_written.subset (List.mem_map_of_mem inside))
    (distinct.sublist shortened.map_fst_written)

theorem default?_of_absent {α : Type} {name : String} (absent : name ∉ written.map Prod.fst)
    (usual : α) (decode : Json → Option α) : default? written name usual decode = some usual := by
  induction written with
  | nil => rfl
  | cons member written ih =>
    rw [List.map_cons, List.mem_cons, not_or] at absent
    rw [default?_tail member.2 written absent.1, ih absent.2]

/-- A field is read as it would be from the whole record, provided that its reader takes the usual
value when there is none and does not mind what is left out of the value. -/
theorem default?_written (shortened : Shortened fields members written)
    (distinct : (fields.map Field.name).Nodup) (name : String) (usual : Json)
    {Shortens : Json → Json → Prop} (inside : Field.mk name usual Shortens ∈ fields) {α : Type}
    (absent : α) (decode : Json → Option α) (taken : decode usual = some absent)
    (same : ∀ {j j' : Json}, Shortens j j' → decode j' = decode j) :
    default? written name absent decode = default? members name absent decode := by
  -- Names are distinct: a member is the field that is read, or has nothing to do with it.
  induction shortened with
  | nil => cases inside
  | @kept g fields j j' members written shortens rest ih =>
    obtain ⟨apart, distinct⟩ := List.nodup_cons.1 distinct
    rcases List.mem_cons.1 inside with rfl | inside
    · rw [default?_head, default?_head, same shortens]
    · have other : name ≠ g.name := fun equal =>
        apart (equal ▸ List.mem_map_of_mem inside)
      rw [default?_tail _ _ other, default?_tail _ _ other, ih distinct inside]
  | @omitted g fields members written rest ih =>
    obtain ⟨apart, distinct⟩ := List.nodup_cons.1 distinct
    rcases List.mem_cons.1 inside with rfl | inside
    · have gone : name ∉ written.map Prod.fst := fun left =>
        apart (rest.map_fst_written.subset left)
      rw [default?_head, taken, default?_of_absent gone]
    · have other : name ≠ g.name := fun equal =>
        apart (equal ▸ List.mem_map_of_mem inside)
      rw [default?_tail _ _ other, ih distinct inside]

theorem default?_plain (shortened : Shortened fields members written)
    (distinct : (fields.map Field.name).Nodup) (name : String) (usual : Json)
    (inside : Field.mk name usual Eq ∈ fields) {α : Type} (absent : α) (decode : Json → Option α)
    (taken : decode usual = some absent) :
    default? written name absent decode = default? members name absent decode :=
  shortened.default?_written distinct name usual inside absent decode taken
    fun same => congrArg decode same.symm

end Shortened

theorem dict?_congr {κ ν : Type} [Ranked κ] {key? : String → Option κ} {value? : Json → Option ν}
    {members written : List (String × Json)}
    (same : List.Forall₂ (fun member member' => member'.1 = member.1 ∧
      value? member'.2 = value? member.2) members written) :
    dict? key? value? (record written) = dict? key? value? (record members) := by
  simp only [record, dict?, List.mapM_map]
  congr 1
  induction same with
  | nil => rfl
  | cons first _ ih =>
    obtain ⟨name, value⟩ := first
    simp only [List.mapM_cons, Function.comp_apply, name, value, ih]

end GuidedExploration.Json
