import GuidedExploration.Thresholds
import GuidedExploration.Trace.Line
import GuidedExploration.ValueMap.Basic

/-!
The table of observations: how often each variable was seen at each branch of each site, and with
which values. A value map lists the variables that thresholds admit, once per branch and once per
site over all its branches; the two views are judged apart.
-/

set_option autoImplicit false

namespace GuidedExploration

structure ObservationKey where
  site : Int64
  branch : Int64
  name : String
  deriving DecidableEq, Repr

instance : Ranked ObservationKey :=
  .byKey (fun key => placeOf key.site :: placeOf key.branch :: key.name.toList.map Char.toNat)
    fun a b same => by
      obtain ⟨site, branch, name⟩ := a
      obtain ⟨site', branch', name'⟩ := b
      obtain ⟨first, rest⟩ := List.cons.inj same
      obtain ⟨second, letters⟩ := List.cons.inj rest
      cases placeOf_inj first
      cases placeOf_inj second
      cases String.toList_inj.1 ((List.map_inj_right fun _ _ h => Char.toNat_inj.1 h).1 letters)
      rfl

structure SiteKey where
  site : Int64
  name : String
  deriving DecidableEq, Repr

instance : Ranked SiteKey :=
  .byKey (fun key => placeOf key.site :: key.name.toList.map Char.toNat) fun a b same => by
    obtain ⟨site, name⟩ := a
    obtain ⟨site', name'⟩ := b
    obtain ⟨first, letters⟩ := List.cons.inj same
    cases placeOf_inj first
    cases String.toList_inj.1 ((List.map_inj_right fun _ _ h => Char.toNat_inj.1 h).1 letters)
    rfl

/-- The distinct values seen under one key, and the number of observations, repeats included. -/
structure Sightings where
  distinct : Dict String Unit := .empty
  occurrences : Nat := 0
  deriving DecidableEq

namespace Sightings

def values (s : Sightings) : List String := s.distinct.keys

def cardinality (s : Sightings) : Nat := s.distinct.size

def add (s : Sightings) (value : String) : Sightings :=
  ⟨s.distinct.insert value (), s.occurrences + 1⟩

def union (s t : Sightings) : Sightings :=
  ⟨t.values.foldl (fun distinct value => distinct.insert value ()) s.distinct,
    s.occurrences + t.occurrences⟩

end Sightings

def Thresholds.admits (t : Thresholds) (s : Sightings) : Bool :=
  decide (t.minOccurrence.toNat ≤ s.occurrences) && decide (s.cardinality ≤ t.maxValues.toNat)

structure ObservationTable where
  entries : Dict ObservationKey Sightings
  deriving DecidableEq

namespace ObservationTable

def empty : ObservationTable := ⟨.empty⟩

def size (table : ObservationTable) : Nat := table.entries.size

def isEmpty (table : ObservationTable) : Bool := table.entries.isEmpty

def get? (table : ObservationTable) (site branch : Int64) (name : String) : Option Sightings :=
  table.entries.get? ⟨site, branch, name⟩

def record (table : ObservationTable) (o : Observation) : ObservationTable :=
  ⟨table.entries.update ⟨o.site, o.branch, o.name⟩ fun seen => (seen.getD {}).add o.value⟩

def ofObservations (observations : List Observation) : ObservationTable :=
  observations.foldl record empty

def perSite (table : ObservationTable) : Dict SiteKey Sightings :=
  table.entries.entries.foldl
    (fun sites (key, seen) =>
      sites.update ⟨key.site, key.name⟩ fun before => (before.getD {}).union seen)
    .empty

/-- Enters a key, and under it a variable if the thresholds admit it. -/
def enter (thresholds : Thresholds) (found : Dict MapKey VariableValues) (key : MapKey)
    (name : String) (seen : Sightings) : Dict MapKey VariableValues :=
  found.update key fun before =>
    let listed := before.getD .empty
    if thresholds.admits seen then listed.insert name (Values.entries seen.values) else listed

/-- The variables to list at each branch. There may be none. -/
def byBranch (table : ObservationTable) (thresholds : Thresholds) : Dict MapKey VariableValues :=
  table.entries.entries.foldl
    (fun found (key, seen) => enter thresholds found (.ofBranch key.site key.branch) key.name seen)
    .empty

@[inherit_doc byBranch]
def bySite (table : ObservationTable) (thresholds : Thresholds) : Dict MapKey VariableValues :=
  table.perSite.entries.foldl
    (fun found (key, seen) => enter thresholds found (.ofSite key.site) key.name seen)
    .empty

def buildMap (table : ObservationTable) (thresholds : Thresholds) : ValueMap :=
  let branches := ValueMap.empty.insertAll (table.byBranch thresholds)
  if thresholds.includeBranchless then branches.insertAll (table.bySite thresholds) else branches

end ObservationTable

end GuidedExploration
