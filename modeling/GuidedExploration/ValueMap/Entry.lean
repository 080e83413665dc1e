import GuidedExploration.Dict
import GuidedExploration.Text.Numeral

/-!
The values listed for one variable, and their order: by number when every one of them is a
number, by text otherwise.
-/

set_option autoImplicit false

namespace GuidedExploration

/-- One value; kind 0 is a plain value, and no other kind is produced. -/
structure ValueEntry where
  kind : UInt32
  value : String
  deriving DecidableEq, Repr

namespace ValueEntry

def plain (value : String) : ValueEntry := ⟨0, value⟩

end ValueEntry

namespace Values

/-- The number a value is, in the signed 128-bit range. -/
def number? (value : String) : Option Int :=
  (Text.signedInteger? value.toList).bind fun n => if Text.fitsSigned 128 n then some n else none

/-- Equal numbers are ordered by their text. -/
def rankNumbers (a b : String) : Ordering :=
  match number? a, number? b with
  | some m, some n => if m < n then .lt else if n < m then .gt else Ranked.rank a b
  | _, _ => Ranked.rank a b

def insertBy (rank : String → String → Ordering) (value : String) : List String → List String
  | [] => [value]
  | head :: rest =>
    match rank value head with
    | .gt => head :: insertBy rank value rest
    | _ => value :: head :: rest

def sortBy (rank : String → String → Ordering) (values : List String) : List String :=
  values.foldr (insertBy rank) []

def sort (values : List String) : List String :=
  if values.all fun value => (number? value).isSome then sortBy rankNumbers values
  else sortBy Ranked.rank values

def entries (values : List String) : List ValueEntry := (sort values).map ValueEntry.plain

end Values

end GuidedExploration
