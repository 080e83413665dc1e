import GuidedExploration.Proofs.Report.Records
import GuidedExploration.Proofs.ValueMap.Key
import GuidedExploration.ValueMap.File

/-!
Value maps in files. Entries, the variables of a key and whole maps are read back from their JSON,
and so a map that was saved is loaded again as it was.
-/

set_option autoImplicit false

namespace GuidedExploration

theorem ValueEntry.ofJson?_toJson (e : ValueEntry) : ofJson? e.toJson = some e := by
  have written : e.toJson.fields? fields =
      some [("type", .natural e.kind.toNat), ("value", .text e.value)] :=
    Json.fields?_record rfl (by decide)
  unfold ofJson?
  rw [written, Option.bind_eq_bind, Option.bind_some]
  simp

theorem VariableValues.ofJson?_toJson (listed : VariableValues) :
    ofJson? (toJson listed) = some listed := by
  apply Json.dict?_ofDict_of_inverse
  · intro name
    rfl
  · intro values
    exact Json.list?_array_of_inverse ValueEntry.ofJson?_toJson values

namespace ValueMap

open FileSystem

theorem ofJson?_toJson (map : ValueMap) : ofJson? map.toJson = some map := by
  have entries := Json.dict?_ofDict_of_inverse MapKey.ofText?_text VariableValues.ofJson?_toJson
    map.entries
  rw [ofJson?, toJson, entries]
  rfl

theorem ofText?_pretty_toJson (map : ValueMap) :
    (Json.ofText? map.toJson.pretty).bind ofJson? = some map := by
  rw [Json.ofText?_pretty, Option.bind_some, ofJson?_toJson]

theorem load_of_text {fs : FileSystem} {p : Path} {map : ValueMap}
    (found : fs.text p = .ok map.toJson.pretty) : load fs p = .ok map := by
  unfold load readJson
  rw [found]
  dsimp only
  rw [ofText?_pretty_toJson]

/-- A file that a map was saved in loads as the same map, and it is written wherever a file can
be. -/
theorem load_save (map : ValueMap) (fs : FileSystem) (p : Path) :
    (∀ after, (map.save p).on fs = (.ok (), after) → load after p = .ok map) ∧
      (Writable fs p → ∃ after, (map.save p).on fs = (.ok (), after)) := by
  constructor
  · intro after saved
    apply load_of_text
    exact (Records.writeJson_ok saved).1
  · intro ready
    exact on_writeText ready map.toJson.pretty

def extremes : ValueMap :=
  empty.insertAll (.ofList
    [(.ofSite (-9223372036854775808),
        .ofList [("\"quoted\"\\", [⟨0, "a\u0001\n"⟩, ⟨7, ""⟩])]),
      (.ofBranch 9223372036854775807 (-9223372036854775808),
        .ofList [("né", [⟨4294967295, "\t\u001b"⟩])]),
      (.ofBranch (-1) 0, .ofList [("", [])])])

theorem load_save_extremes :
    ∃ after, (extremes.save ⟨"map.json"⟩).on .empty = (.ok (), after) ∧
      load after ⟨"map.json"⟩ = .ok extremes := by
  have ready : Writable .empty ⟨"map.json"⟩ :=
    ⟨by rw [Action.NamesFile]; decide, by decide, ["map.json"], rfl, by decide⟩
  obtain ⟨after, saved⟩ := (load_save extremes .empty ⟨"map.json"⟩).2 ready
  exact ⟨after, saved, (load_save extremes .empty ⟨"map.json"⟩).1 after saved⟩

end ValueMap

end GuidedExploration
