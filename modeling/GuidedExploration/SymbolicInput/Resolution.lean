import GuidedExploration.Configuration.Basic
import GuidedExploration.SymbolicInput.Builtin
import GuidedExploration.Text.Blank

/-!
Which arguments make a program's input symbolic: those configured for it in its category, or else
the built-in ones, or else the same for every program.
-/

set_option autoImplicit false

namespace GuidedExploration.SymbolicInput

/-- What programs get that are neither configured nor built in. -/
def fallback : String := "--sym-args 0 2 8 --sym-files 1 16"

/-- The settings of a category, when both it and a configuration are given. -/
def optionsOf? (category : Option String) (configuration : Option Configuration) :
    Option EngineOptions := do
  let name ← category
  let configuration ← configuration
  let category ← configuration.category? name
  return category.engine

def configured? (program : String) (category : Option String)
    (configuration : Option Configuration) : Option String :=
  (optionsOf? category configuration).bind fun options => options.symbolicInputs.get? program

def resolve (program : String) (category : Option String)
    (configuration : Option Configuration) : String :=
  match configured? program category configuration with
  | some input => input
  | none => (builtin.get? program).getD fallback

def arguments (program : String) (category : Option String)
    (configuration : Option Configuration) : List String :=
  (Text.words (resolve program category configuration).toList).map String.ofList

end GuidedExploration.SymbolicInput
