import GuidedExploration.Proofs.FileSystem.Actions
import GuidedExploration.Proofs.FileSystem.Directories
import Mathlib.Data.List.Nodup

/-!
What a directory lists: the name of everything that lies directly in it, once each.
-/

set_option autoImplicit false

namespace GuidedExploration.FileSystem

def childName? (location inner : Location) : Option String :=
  if isBelow location inner then
    match inner.drop location.length with
    | [name] => some name
    | _ => none
  else none

theorem childName?_eq_some_iff {location inner : Location} {name : String} :
    childName? location inner = some name ↔ inner = location ++ [name] := by
  unfold childName?
  constructor
  · intro found
    split at found
    · next beneath =>
      obtain ⟨further, rfl⟩ := (isBelow_iff.1 beneath).1
      rw [List.drop_left] at found
      split at found
      · cases found
        rfl
      · cases found
    · cases found
  · rintro rfl
    have beneath : isBelow location (location ++ [name]) = true :=
      isBelow_iff.2 ⟨List.prefix_append _ _, by simp⟩
    rw [if_pos beneath, List.drop_left]

theorem names_eq (fs : FileSystem) (location : Location) :
    fs.names location = fs.nodes.keys.filterMap (childName? location) := by
  rw [names, below, Dict.keys, List.filterMap_map, List.filterMap_filterMap]
  congr 1
  funext entry
  simp only [Function.comp_apply, childName?]
  split <;> rfl

theorem mem_names_iff {fs : FileSystem} {location : Location} {name : String} :
    name ∈ fs.names location ↔ ∃ node, fs.node? (location ++ [name]) = some node := by
  simp only [names_eq, List.mem_filterMap, childName?_eq_some_iff, exists_eq_right,
    Dict.mem_keys_iff, node?]
  simp

theorem nodup_names (fs : FileSystem) (location : Location) : (fs.names location).Nodup := by
  rw [names_eq]
  refine List.Nodup.filterMap (fun inner inner' name found found' => ?_) fs.nodes.nodup_keys
  rw [childName?_eq_some_iff.1 found, childName?_eq_some_iff.1 found']

theorem list_of_directory {fs : FileSystem} {p : Path} {location : Location}
    (located : fs.locate p = .ok location) (there : fs.node? location = some .directory) :
    fs.list p = .ok (fs.names location) := by
  simp only [list, lookup, located, there, bind, Except.bind]

theorem list_of_not_directory {fs : FileSystem} {p : Path}
    (other : Action.isDirectory fs p = false) : ∃ cause, fs.list p = .error cause := by
  unfold Action.isDirectory at other
  unfold list
  cases located : fs.locate p with
  | error cause => exact ⟨cause, rfl⟩
  | ok location =>
    cases found : fs.lookup p with
    | error cause => exact ⟨cause, rfl⟩
    | ok node =>
      cases node with
      | directory => simp [found] at other
      | file contents executable => exact ⟨.notADirectory, rfl⟩

end GuidedExploration.FileSystem
