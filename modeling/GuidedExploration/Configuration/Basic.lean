import GuidedExploration.Configuration.Category
import GuidedExploration.FileSystem.Operation

/-!
The configuration: categories by name, read from a file and checked.
-/

set_option autoImplicit false

namespace GuidedExploration

structure Configuration where
  categories : Dict String Category
  deriving DecidableEq

inductive CategoryFlaw where
  | noValuesAllowed
  | emptyProfileCommand
  deriving DecidableEq, Repr

namespace CategoryFlaw

def phrase : CategoryFlaw → String
  | noValuesAllowed => "max_values must be at least 1"
  | emptyProfileCommand => "profile_cmd is empty"

def fault (flaw : CategoryFlaw) (category : String) : Fault :=
  .configuration s!"category '{category}': {flaw.phrase}"

end CategoryFlaw

def Category.flaw? (c : Category) : Option CategoryFlaw :=
  if c.thresholds.maxValues = 0 then some .noValuesAllowed
  else if c.profileCommand = some [] then some .emptyProfileCommand
  else none

namespace Configuration

def empty : Configuration := ⟨.empty⟩

def category? (c : Configuration) (name : String) : Option Category := c.categories.get? name

def names (c : Configuration) : List String := c.categories.keys

def insert (c : Configuration) (name : String) (category : Category) : Configuration :=
  ⟨c.categories.insert name category⟩

def toJson (c : Configuration) : Json := .ofDict id Category.toJson c.categories

def ofJson? (j : Json) : Option Configuration :=
  (Json.dict? some Category.ofJson? j).map Configuration.mk

/-- The first category in name order that has a flaw. -/
def flaw? (c : Configuration) : Option (String × CategoryFlaw) :=
  c.categories.entries.findSome? fun (name, category) =>
    category.flaw?.map fun flaw => (name, flaw)

def load (fs : FileSystem) (p : Path) : Except Fault Configuration :=
  match FileSystem.readJson fs p ofJson? with
  | .error fault => .error fault
  | .ok configuration =>
    match configuration.flaw? with
    | some (name, flaw) => .error (flaw.fault name)
    | none => .ok configuration

end Configuration

end GuidedExploration
