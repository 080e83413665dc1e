import GuidedExploration.Proofs.Aggregation.Listing
import GuidedExploration.Proofs.FileSystem.Reading
import GuidedExploration.Proofs.ValueMap.Stored

/-!
Keys without variables. No map that is put together key by key has one; a map that is loaded has one
for every key whose last member in the file is an empty object.
-/

set_option autoImplicit false

namespace GuidedExploration.ValueMap

open FileSystem

theorem get?_of_ofJson? {members : List (Option String × Json)} {map : ValueMap}
    (read : ofJson? (.object members) = some map) (key : MapKey) :
    map.get? key = (Json.lastMember? MapKey.ofText? members key).bind VariableValues.ofJson? := by
  obtain ⟨entries, found, rfl⟩ := Option.map_eq_some_iff.1 read
  exact Json.get?_of_dict? found key

theorem hasVariables_iff_of_ofJson? {members : List (Option String × Json)} {map : ValueMap}
    (read : ofJson? (.object members) = some map) :
    map.HasVariables ↔
      ∀ key, Json.lastMember? MapKey.ofText? members key ≠ some (.object []) := by
  constructor
  · intro full key bare
    have found := get?_of_ofJson? read key
    rw [bare] at found
    cases full key _ found
  · intro filled key listed found
    rw [get?_of_ofJson? read key, Option.bind_eq_some_iff] at found
    obtain ⟨j, last, listing⟩ := found
    rw [← Bool.not_eq_true, Json.isEmpty_of_dict? listing]
    rintro rfl
    exact filled key last

theorem exists_members_of_load {fs : FileSystem} {p : Path} {map : ValueMap}
    (loaded : load fs p = .ok map) :
    ∃ text members, fs.text p = .ok text ∧ Json.ofText? text = some (.object members) ∧
      ofJson? (.object members) = some map := by
  obtain ⟨text, found, read⟩ := readJson_eq_ok_iff.1 loaded
  obtain ⟨j, parsed, read⟩ := Option.bind_eq_some_iff.1 read
  cases j with
  | object members => exact ⟨text, members, found, parsed, read⟩
  | _ => cases read

inductive Origin where
  | empty
  | built (table : ObservationTable) (t : Thresholds)
  | loaded (fs : FileSystem) (p : Path)

inductive Origin.Gives : Origin → ValueMap → Prop where
  | empty : Gives .empty .empty
  | built (table : ObservationTable) (t : Thresholds) : Gives (.built table t) (table.buildMap t)
  | loaded {fs : FileSystem} {p : Path} {map : ValueMap} :
      load fs p = .ok map → Gives (.loaded fs p) map

/-- A file that says of a key that it has no variables, and does not take it back. -/
inductive Origin.HasBareKey : Origin → Prop where
  | mk {fs : FileSystem} {p : Path} {text : String} {members : List (Option String × Json)}
      {key : MapKey} : fs.text p = .ok text → Json.ofText? text = some (.object members) →
      Json.lastMember? MapKey.ofText? members key = some (.object []) → HasBareKey (.loaded fs p)

/-- A new map and one that is built list variables under every key. A file may say of a key that it
has none, and then so does the map. Adding to a map keeps it without such keys. -/
theorem hasVariables_iff_of_origin {origin : Origin} {map : ValueMap} (given : origin.Gives map) :
    (map.HasVariables ↔ ¬origin.HasBareKey) ∧
      (map.HasVariables → ∀ key listed, (map.insert key listed).HasVariables) := by
  refine ⟨?_, fun full => full.insert⟩
  cases given with
  | empty => exact iff_of_true hasVariables_empty nofun
  | built table t => exact iff_of_true (ObservationTable.hasVariables_buildMap table t) nofun
  | @loaded fs p _ loaded =>
    obtain ⟨text, members, found, parsed, read⟩ := exists_members_of_load loaded
    rw [hasVariables_iff_of_ofJson? read]
    constructor
    · rintro filled ⟨found', parsed', bare⟩
      cases found.symm.trans found'
      cases parsed.symm.trans parsed'
      exact filled _ bare
    · exact fun refused key bare => refused ⟨found, parsed, bare⟩

def filledMembers : List (Option String × Json) :=
  [(some "loc:1", .object []), (some "loc:+01", .object [(some "x", .array [])])]

def bareAndFilled : FileSystem where
  nodes := .ofList
    [(["bare.json"], .file "\x7b\"loc:1\": \x7b\x7d\x7d".toUTF8 false),
      (["filled.json"], .file (Json.object filledMembers).pretty.toUTF8 false)]
  origin := []

theorem hasVariables_of_filled :
    ∃ map, load bareAndFilled ⟨"filled.json"⟩ = .ok map ∧ map.HasVariables := by
  have written : bareAndFilled.text ⟨"filled.json"⟩ = .ok (Json.object filledMembers).pretty :=
    text_eq_ok_iff.2 ⟨_, rfl, fromUTF8?_toUTF8 _⟩
  have loaded : load bareAndFilled ⟨"filled.json"⟩ =
      .ok ⟨.ofList [(.ofSite 1, .ofList [("x", [])])]⟩ := by decide +kernel
  refine ⟨_, loaded, (hasVariables_iff_of_origin (.loaded loaded)).1.2 ?_⟩
  rintro @⟨_, _, text, members, key, found, parsed, bare⟩
  cases found.symm.trans written
  cases parsed.symm.trans (Json.ofText?_pretty _)
  have plain : MapKey.ofText? "loc:1" = some (.ofSite 1) := by decide +kernel
  have signed : MapKey.ofText? "loc:+01" = some (.ofSite 1) := by decide +kernel
  by_cases same : MapKey.ofSite 1 = key
  · simp [Json.lastMember?, filledMembers, signed, same] at bare
  · simp [Json.lastMember?, filledMembers, plain, signed, same] at bare

theorem loaded_without_variables :
    load bareAndFilled ⟨"bare.json"⟩ = .ok ⟨.ofList [(.ofSite 1, .empty)]⟩ ∧
      ¬∀ (origin : Origin) (map : ValueMap), origin.Gives map → map.HasVariables := by
  have loaded : load bareAndFilled ⟨"bare.json"⟩ = .ok ⟨.ofList [(.ofSite 1, .empty)]⟩ := by
    decide +kernel
  refine ⟨loaded, fun full => ?_⟩
  cases full _ _ (.loaded loaded) (.ofSite 1) .empty rfl

end GuidedExploration.ValueMap
