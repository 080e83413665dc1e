import GuidedExploration.Dict
import GuidedExploration.Json.Float

/-!
Reading JSON values as values of a type.

A record is an object with its fields as members, or an array of its fields in order. Members of
other names are passed over, but a field is written only once. A dictionary is an object; of two
members with equal keys the later one counts.
-/

set_option autoImplicit false

namespace GuidedExploration.Json

def text? : Json → Option String
  | .string text => text
  | _ => none

def bool? : Json → Option Bool
  | .bool value => some value
  | _ => none

def int? : Json → Option Int
  | .number n => n.toInt?
  | _ => none

def float? : Json → Option Float
  | .number n => n.toFloat?
  | _ => none

def uint64? (j : Json) : Option UInt64 :=
  j.int?.bind fun n =>
    if 0 ≤ n ∧ n < 18446744073709551616 then some (UInt64.ofNat n.toNat) else none

def uint32? (j : Json) : Option UInt32 :=
  j.int?.bind fun n => if 0 ≤ n ∧ n < 4294967296 then some (UInt32.ofNat n.toNat) else none

def int32? (j : Json) : Option Int32 :=
  j.int?.bind fun n => if -2147483648 ≤ n ∧ n < 2147483648 then some (Int32.ofInt n) else none

def list? {α : Type} (item? : Json → Option α) : Json → Option (List α)
  | .array items => items.mapM item?
  | _ => none

def dict? {κ ν : Type} [Ranked κ] (key? : String → Option κ) (value? : Json → Option ν) :
    Json → Option (Dict κ ν)
  | .object members =>
    (members.mapM fun (member : Option String × Json) => do
      let key ← member.1.bind key?
      let value ← value? member.2
      return (key, value)).map Dict.ofList
  | _ => none

/-- A name that stands alone, or as the only member of an object, with nothing in it. -/
def symbol? : Json → Option String
  | .string text => text
  | .object [(name, .null)] => name
  | _ => none

/-- The members that have one of the given names, in order. A name that spells no text and a
repeated field are errors. -/
def known? (fields : List String) :
    List (Option String × Json) → Option (List (String × Json))
  | [] => some []
  | (none, _) :: _ => none
  | (some name, value) :: members => do
    let rest ← known? fields members
    if fields.contains name then
      if rest.any fun (other, _) => other == name then none else return (name, value) :: rest
    else return rest

def fields? (fields : List String) : Json → Option (List (String × Json))
  | .object members => known? fields members
  | .array items => if items.length ≤ fields.length then some (fields.zip items) else none
  | _ => none

def field? (written : List (String × Json)) (name : String) : Option Json := written.lookup name

def required? {α : Type} (written : List (String × Json)) (name : String)
    (value? : Json → Option α) : Option α :=
  (field? written name).bind value?

def default? {α : Type} (written : List (String × Json)) (name : String) (absent : α)
    (value? : Json → Option α) : Option α :=
  match field? written name with
  | none => some absent
  | some j => value? j

def optional? {α : Type} (value? : Json → Option α) : Json → Option (Option α)
  | .null => some none
  | j => (value? j).map some

def ofOption {α : Type} (encode : α → Json) : Option α → Json
  | none => .null
  | some a => encode a

def ofDict {κ ν : Type} [Ranked κ] (key : κ → String) (value : ν → Json) (d : Dict κ ν) : Json :=
  record (d.entries.map fun (k, v) => (key k, value v))

/-- A finite number; an infinity is written as null. -/
def ofFloat (x : Float) : Json := if x.isFinite then .number (.ofFloat x) else .null

mutual

/-- Whether every string in a value spells a text and every number is in range. -/
def isSound : Json → Bool
  | .null | .bool _ => true
  | .number n => n.toFloat?.isSome
  | .string text => text.isSome
  | .array items => areSound items
  | .object members => areSoundMembers members

def areSound : List Json → Bool
  | [] => true
  | item :: items => isSound item && areSound items

def areSoundMembers : List (Option String × Json) → Bool
  | [] => true
  | (name, value) :: members => name.isSome && isSound value && areSoundMembers members

end

end GuidedExploration.Json
