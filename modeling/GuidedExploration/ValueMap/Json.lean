import GuidedExploration.Json.Schema
import GuidedExploration.ValueMap.Basic

/-!
Value maps as JSON: an object from keys to objects from variables to their values.
-/

set_option autoImplicit false

namespace GuidedExploration

namespace ValueEntry

def fields : List String := ["type", "value"]

def toJson (e : ValueEntry) : Json :=
  .record [("type", .natural e.kind.toNat), ("value", .text e.value)]

def ofJson? (j : Json) : Option ValueEntry := do
  let written ← j.fields? fields
  let kind ← Json.required? written "type" Json.uint32?
  let value ← Json.required? written "value" Json.text?
  return { kind, value }

end ValueEntry

namespace MapKey

def toJson (key : MapKey) : Json := .text key.text

def ofJson? (j : Json) : Option MapKey := j.text?.bind ofText?

end MapKey

namespace VariableValues

def toJson (listed : VariableValues) : Json :=
  .ofDict id (fun values => .array (values.map ValueEntry.toJson)) listed

def ofJson? : Json → Option VariableValues := Json.dict? some (Json.list? ValueEntry.ofJson?)

end VariableValues

namespace ValueMap

def toJson (map : ValueMap) : Json := .ofDict MapKey.text VariableValues.toJson map.entries

def ofJson? (j : Json) : Option ValueMap :=
  (Json.dict? MapKey.ofText? VariableValues.ofJson? j).map ValueMap.mk

end ValueMap

end GuidedExploration
