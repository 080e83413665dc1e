import GuidedExploration.Decimal.Reading
import GuidedExploration.Engine.Statistics
import GuidedExploration.Json.Schema

/-!
How one metric compares between the baseline run and the profile-guided run.
-/

set_option autoImplicit false

namespace GuidedExploration

inductive MetricOutcome where
  /-- The part of the baseline that was saved, in percent; negative for a slowdown. -/
  | improvement (baseline profileGuided percent : Float)
  /-- The baseline is not positive, so there is no percentage. -/
  | notApplicable (baseline profileGuided : Float)
  /-- One side is not a number at least; both are kept as they are. -/
  | nonNumeric (baseline profileGuided : String)
  | baselineOnly (value : String)
  | profileGuidedOnly (value : String)
  | missing
  deriving BEq

inductive MetricKind where
  | improvement
  | notApplicable
  | nonNumeric
  | baselineOnly
  | profileGuidedOnly
  | missing
  deriving DecidableEq, Repr

namespace MetricKind

def all : List MetricKind :=
  [improvement, notApplicable, nonNumeric, baselineOnly, profileGuidedOnly, missing]

def name : MetricKind → String
  | improvement => "improvement"
  | notApplicable => "not-applicable"
  | nonNumeric => "non-numeric"
  | baselineOnly => "baseline-only"
  | profileGuidedOnly => "profile-guided-only"
  | missing => "missing"

def ofName? (name : String) : Option MetricKind := all.find? (·.name == name)

def fields : MetricKind → List String
  | improvement => ["baseline", "profileGuided", "percent"]
  | notApplicable | nonNumeric => ["baseline", "profileGuided"]
  | baselineOnly | profileGuidedOnly => ["value"]
  | missing => []

end MetricKind

namespace MetricOutcome

/-- The number that a statistic is, blanks around it aside. -/
def number? (text : String) : Option Float := Decimal.finite? (Text.trim text.toList)

def ofValues (baseline profileGuided : String) : MetricOutcome :=
  match number? baseline, number? profileGuided with
  | some b, some p =>
    if 0.0 < b then improvement b p ((b - p) / b * 100.0) else notApplicable b p
  | _, _ => nonNumeric baseline profileGuided

def compare (metric : String) (baseline profileGuided : Statistics) : MetricOutcome :=
  match baseline.get? metric, profileGuided.get? metric with
  | some b, some p => ofValues b p
  | some b, none => baselineOnly b
  | none, some p => profileGuidedOnly p
  | none, none => missing

def percent? : MetricOutcome → Option Float
  | improvement _ _ percent => some percent
  | _ => none

def kind : MetricOutcome → MetricKind
  | improvement _ _ _ => .improvement
  | notApplicable _ _ => .notApplicable
  | nonNumeric _ _ => .nonNumeric
  | baselineOnly _ => .baselineOnly
  | profileGuidedOnly _ => .profileGuidedOnly
  | missing => .missing

def values : MetricOutcome → List (String × Json)
  | improvement b p percent =>
    [("baseline", .ofFloat b), ("profileGuided", .ofFloat p), ("percent", .ofFloat percent)]
  | notApplicable b p => [("baseline", .ofFloat b), ("profileGuided", .ofFloat p)]
  | nonNumeric b p => [("baseline", .text b), ("profileGuided", .text p)]
  | baselineOnly value | profileGuidedOnly value => [("value", .text value)]
  | missing => []

def members (o : MetricOutcome) : List (String × Json) := ("kind", .text o.kind.name) :: o.values

def toJson (o : MetricOutcome) : Json := .record o.members

/-- Reads an outcome of a kind; of the members only its own fields count, each written once. -/
def ofMembers? (kind : MetricKind) (members : List (Option String × Json)) :
    Option MetricOutcome := do
  let written ← Json.known? kind.fields members
  match kind with
  | .improvement =>
    let b ← Json.required? written "baseline" Json.float?
    let p ← Json.required? written "profileGuided" Json.float?
    let percent ← Json.required? written "percent" Json.float?
    return improvement b p percent
  | .notApplicable =>
    let b ← Json.required? written "baseline" Json.float?
    let p ← Json.required? written "profileGuided" Json.float?
    return notApplicable b p
  | .nonNumeric =>
    let b ← Json.required? written "baseline" Json.text?
    let p ← Json.required? written "profileGuided" Json.text?
    return nonNumeric b p
  | .baselineOnly => (Json.required? written "value" Json.text?).map baselineOnly
  | .profileGuidedOnly => (Json.required? written "value" Json.text?).map profileGuidedOnly
  | .missing => return missing

/-- How deep a text may be nested around and inside an outcome. -/
def depthLimit : Nat := 127

/-- Whether the text of an outcome inside `outer` arrays and objects can be read. All of it is read
in full, also members that do not count, so each must be sound and not too deep. -/
def isReadable (outer : Nat) (j : Json) : Bool :=
  j.isSound && decide (outer + j.depth ≤ depthLimit)

def ofFields? (kind : MetricKind) (values : List Json) : Option MetricOutcome :=
  if values.length = kind.fields.length then ofMembers? kind ((kind.fields.map some).zip values)
  else none

/-- Reads an outcome. Its kind may stand anywhere among its members, or first in an array. -/
def ofJson? (j : Json) : Option MetricOutcome :=
  if isReadable 0 j then
    match j with
    | .object members => do
      let written ← Json.known? ["kind"] members
      let kind ← Json.required? written "kind" fun j => j.text?.bind MetricKind.ofName?
      ofMembers? kind members
    | .array (kind :: values) => do
      let kind ← kind.text?.bind MetricKind.ofName?
      ofFields? kind values
    | _ => none
  else none

end MetricOutcome

structure MetricComparison where
  metric : String
  outcome : MetricOutcome
  deriving BEq

namespace MetricComparison

/-- The name of the metric stands before the members of its outcome. -/
def toJson (c : MetricComparison) : Json :=
  .record (("metric", .text c.metric) :: c.outcome.members)

/-- A kind, by its name or by its place in the list of kinds. -/
def kind? (j : Json) : Option MetricKind :=
  match j with
  | .string _ => j.text?.bind MetricKind.ofName?
  | _ => j.uint64?.bind fun place => MetricKind.all[place.toNat]?

def ofJson? (outer : Nat) (j : Json) : Option MetricComparison :=
  if MetricOutcome.isReadable outer j then
    match j with
    | .object members => do
      let written ← Json.known? ["metric", "kind"] members
      let metric ← Json.required? written "metric" Json.text?
      let kind ← Json.required? written "kind" kind?
      let outcome ← MetricOutcome.ofMembers? kind members
      return { metric, outcome }
    | _ => none
  else none

end MetricComparison

end GuidedExploration
