import GuidedExploration.Proofs.SymbolicInput.Defaults
import GuidedExploration.Proofs.Text.Words
import GuidedExploration.SymbolicInput.Resolution

/-!
Which symbolic input a program gets, and the arguments that it comes to. Of a configuration only the
one entry for the program in its category counts; the arguments are the runs of that text.
-/

set_option autoImplicit false

namespace GuidedExploration

def Configuration.override? (c : Configuration) (category program : String) : Option String :=
  (c.category? category).bind fun category => category.engine.symbolicInputs.get? program

namespace SymbolicInput

/-- What a program gets without a configuration: its first built-in entry, or else what all get. -/
def usual (program : String) : String := (builtinEntries.lookup program).getD fallback

-- Both sides come to the same table being built; it is not computed, which would take long.
theorem builtin_eq : builtin = .firsts builtinEntries := rfl

theorem getD_builtin (program : String) : (builtin.get? program).getD fallback = usual program := by
  rw [builtin_eq, DefaultsTable.get?_firsts, usual]

theorem configured?_given (program category : String) (configuration : Configuration) :
    configured? program (some category) (some configuration) =
      configuration.override? category program := by
  simp only [configured?, optionsOf?, Configuration.override?, Option.bind_eq_bind, Option.bind_some]
  cases configuration.category? category <;> rfl

theorem resolve_eq (program : String) (category : Option String)
    (configuration : Option Configuration) :
    resolve program category configuration =
      (configured? program category configuration).getD (usual program) := by
  unfold resolve
  cases configured? program category configuration with
  | none => exact getD_builtin program
  | some input => rfl

theorem resolve_congr (program : String) {category : Option String} {c c' : Configuration}
    (agree : ∀ name, category = some name → c.override? name program = c'.override? name program) :
    resolve program category (some c) = resolve program category (some c') := by
  cases category with
  | none => rfl
  | some name =>
    rw [resolve_eq, resolve_eq, configured?_given, configured?_given, agree name rfl]

theorem map_toList_arguments (program : String) (category : Option String)
    (configuration : Option Configuration) :
    (arguments program category configuration).map String.toList =
      Text.words (resolve program category configuration).toList := by
  simp [arguments]

theorem isRun_of_mem_arguments {program : String} {category : Option String}
    {configuration : Option Configuration} {argument : String}
    (member : argument ∈ arguments program category configuration) : Text.IsRun argument.toList := by
  apply Text.isRun_of_mem_words (s := (resolve program category configuration).toList)
  rw [← map_toList_arguments]
  exact List.mem_map_of_mem member

theorem words_joined_arguments (program : String) (category : Option String)
    (configuration : Option Configuration) :
    (Text.words (" ".intercalate (arguments program category configuration)).toList).map
      String.ofList = arguments program category configuration := by
  rw [String.toList_intercalate, map_toList_arguments]
  exact congrArg (List.map String.ofList) (Text.words_intercalate fun _ => Text.isRun_of_mem_words)

/-- A program gets what is configured for it in its category, if both are given and it is, and its
first built-in entry or the input of all programs otherwise; nothing else in a configuration counts.
Its arguments are the runs of that text, and they are the same when they are joined and taken apart
again. -/
theorem arguments_of_resolve (program : String) (category : Option String)
    (configuration : Option Configuration) :
    (resolve program category configuration =
      match category, configuration with
      | some name, some c => (c.override? name program).getD (usual program)
      | _, _ => usual program) ∧
    (∀ c c' : Configuration,
      (∀ name, category = some name → c.override? name program = c'.override? name program) →
      resolve program category (some c) = resolve program category (some c')) ∧
    (∀ runs, Text.Runs runs (resolve program category configuration).toList ↔
      runs = (arguments program category configuration).map String.toList) ∧
    (∀ argument ∈ arguments program category configuration,
      argument ≠ "" ∧ ∀ c ∈ argument.toList, Text.isBlank c = false) ∧
    (Text.words (" ".intercalate (arguments program category configuration)).toList).map
      String.ofList = arguments program category configuration := by
  refine ⟨?_, fun c c' agree => resolve_congr program agree, fun runs => ?_,
    fun argument member => ?_, words_joined_arguments program category configuration⟩
  · rw [resolve_eq]
    cases category with
    | none => rfl
    | some name =>
      cases configuration with
      | none => rfl
      | some c => rw [configured?_given]
  · rw [Text.runs_iff, map_toList_arguments, eq_comm]
  · have run := isRun_of_mem_arguments member
    refine ⟨?_, run.solid⟩
    rintro rfl
    exact run.filled rfl

def silenced : Configuration :=
  .insert .empty "coreutils" { engine := { symbolicInputs := .ofList [("ls", " \t\u3000")] } }

def silencedElsewhere : Configuration :=
  (silenced.insert "coreutils" {
    kind := .library
    engine := { symbolicInputs := .ofList [("cp", "--sym-args 1"), ("ls", " \t\u3000")] } }).insert
      "libs" { engine := { symbolicInputs := .ofList [("ls", "--sym-files 1 8")] } }

theorem arguments_of_blank_override :
    silenced.override? "coreutils" "ls" = some " \t\u3000" ∧
      resolve "ls" (some "coreutils") (some silenced) = " \t\u3000" ∧
      arguments "ls" (some "coreutils") (some silenced) = [] ∧
      resolve "ls" (some "coreutils") (some silencedElsewhere) = " \t\u3000" := by
  have blank : silenced.override? "coreutils" "ls" = some " \t\u3000" := by decide +kernel
  obtain ⟨resolved, agree, runs, -, -⟩ :=
    arguments_of_resolve "ls" (some "coreutils") (some silenced)
  have found : resolve "ls" (some "coreutils") (some silenced) = " \t\u3000" := by
    rw [resolved]
    simp [blank]
  refine ⟨blank, found, ?_, ?_⟩
  · rw [found] at runs
    have none := (runs []).1 (.blank (by decide) (.blank (by decide) (.blank (by decide) .nil)))
    exact List.map_eq_nil_iff.1 none.symm
  · rw [← found]
    refine (agree silenced silencedElsewhere fun name given => ?_).symm
    cases given
    decide +kernel

end SymbolicInput

end GuidedExploration
