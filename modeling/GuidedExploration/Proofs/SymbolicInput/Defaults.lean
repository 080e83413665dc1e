import GuidedExploration.Proofs.Dict
import GuidedExploration.SymbolicInput.Defaults

/-!
Tables of defaults by their look-ups: what is found for a program is its first entry.
-/

set_option autoImplicit false

namespace GuidedExploration.DefaultsTable

theorem get?_insert (table : DefaultsTable) (listed input program : String) :
    get? ⟨table.inputs.insert listed input⟩ program =
      if program = listed then some input else table.get? program :=
  table.inputs.get?_insert_eq listed program input

theorem extend_of_listed {table : DefaultsTable} {program kept : String}
    (found : table.get? program = some kept) (input : String) (entries : List (String × String)) :
    table.extend ((program, input) :: entries) =
      ((table.extend entries).1, ⟨program, kept, input⟩ :: (table.extend entries).2) := by
  simp only [extend, found]

theorem extend_of_new {table : DefaultsTable} {program : String}
    (absent : table.get? program = none) (input : String) (entries : List (String × String)) :
    table.extend ((program, input) :: entries) =
      extend ⟨table.inputs.insert program input⟩ entries := by
  simp only [extend, absent]

/-- What a table has stays, and for a program that it does not have the first entry is added. -/
theorem get?_extend (table : DefaultsTable) (entries : List (String × String)) (program : String) :
    (table.extend entries).1.get? program = (table.get? program).or (entries.lookup program) := by
  induction entries generalizing table with
  | nil => simp [extend]
  | cons entry entries ih =>
    obtain ⟨listed, input⟩ := entry
    rw [List.lookup_cons]
    cases found : table.get? listed with
    | some kept =>
      rw [extend_of_listed found, ih]
      by_cases same : program = listed
      · simp [same, found]
      · simp [beq_eq_false_iff_ne.2 same]
    | none =>
      rw [extend_of_new found, ih, get?_insert]
      by_cases same : program = listed
      · simp [same, found]
      · simp [same, beq_eq_false_iff_ne.2 same]

def firsts (entries : List (String × String)) : DefaultsTable := (build entries).1

theorem get?_firsts (entries : List (String × String)) (program : String) :
    (firsts entries).get? program = entries.lookup program :=
  get?_extend empty entries program

end GuidedExploration.DefaultsTable
