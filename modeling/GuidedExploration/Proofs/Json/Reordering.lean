import GuidedExploration.Proofs.Json.Schema

/-!
Records with their members in another order. As long as no name is written twice, a field is found
wherever it stands, and what is asked of a record as a whole does not depend on the order either.
-/

set_option autoImplicit false

namespace GuidedExploration.Json

variable {members written : List (String × Json)}

/-! ## Fields -/

theorem field?_perm (distinct : (members.map Prod.fst).Nodup) (same : written.Perm members)
    (name : String) : field? written name = field? members name := by
  induction same with
  | nil => rfl
  | cons member _ ih =>
    have later := ih (List.nodup_cons.1 distinct).2
    by_cases here : name = member.1
    · rw [here, field?_head, field?_head]
    · rw [field?_tail _ _ here, field?_tail _ _ here, later]
  | swap first second rest =>
    -- With one name for both it would matter which of the two comes first.
    have apart : first.1 ≠ second.1 := fun equal =>
      (List.nodup_cons.1 distinct).1 (equal ▸ List.mem_cons_self)
    by_cases here : name = first.1
    · rw [here, field?_tail _ _ apart, field?_head, field?_head]
    · rw [field?_tail first.2 (second :: rest) here]
      by_cases there : name = second.1
      · rw [there, field?_head, field?_head]
      · rw [field?_tail _ _ there, field?_tail _ _ here, field?_tail _ _ there]
  | trans before after ih ih' =>
    have between := (after.map Prod.fst).nodup_iff.2 distinct
    rw [ih between, ih' distinct]

theorem required?_perm {α : Type} (distinct : (members.map Prod.fst).Nodup)
    (same : written.Perm members) (name : String) (decode : Json → Option α) :
    required? written name decode = required? members name decode := by
  rw [required?, required?, field?_perm distinct same]

theorem default?_perm {α : Type} (distinct : (members.map Prod.fst).Nodup)
    (same : written.Perm members) (name : String) (absent : α) (decode : Json → Option α) :
    default? written name absent decode = default? members name absent decode := by
  rw [default?, default?, field?_perm distinct same]

theorem nodup_filter (distinct : (members.map Prod.fst).Nodup) (asked : String × Json → Bool) :
    ((members.filter asked).map Prod.fst).Nodup :=
  distinct.sublist (List.filter_sublist.map Prod.fst)

theorem known?_perm (fields : List String) (distinct : (members.map Prod.fst).Nodup)
    (same : written.Perm members) :
    ∃ known known', known? fields (members.map fun (name, value) => (some name, value)) = some known ∧
      known? fields (written.map fun (name, value) => (some name, value)) = some known' ∧
      known'.Perm known ∧ (known.map Prod.fst).Nodup :=
  ⟨_, _, known?_record fields distinct,
    known?_record fields ((same.map Prod.fst).nodup_iff.2 distinct), same.filter _,
    nodup_filter distinct _⟩

/-! ## Records as a whole -/

theorem isSound_perm (same : written.Perm members) :
    (record written).isSound = (record members).isSound := by
  rw [isSound_record, isSound_record, same.all_eq]

theorem depthOfMembers_perm {members written : List (Option String × Json)}
    (same : written.Perm members) : depthOfMembers written = depthOfMembers members := by
  induction same with
  | nil => rfl
  | cons member _ ih => simp only [depthOfMembers, ih]
  | swap first second rest => exact Nat.max_left_comm _ _ _
  | trans _ _ ih ih' => rw [ih, ih']

theorem depth_perm (same : written.Perm members) : (record written).depth = (record members).depth := by
  rw [record, record, depth, depth, depthOfMembers_perm (same.map _)]

end GuidedExploration.Json
