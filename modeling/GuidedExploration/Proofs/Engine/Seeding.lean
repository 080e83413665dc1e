import GuidedExploration.Proofs.Engine.Effects
import GuidedExploration.Proofs.FileSystem.Directories

/-!
Making a sandbox. It comes to lie in a free place, so it can be removed without a trace, and it always
holds the same files.
-/

set_option autoImplicit false

namespace GuidedExploration

open FileSystem

namespace Sandbox

/-- A sandbox in a place that was free, which can be removed. All other changes are to the region. -/
structure Occupies (sandbox : Path) (region : Set Location) (fs after : FileSystem) : Prop where
  named : sandbox.Named
  free : ∀ place ∈ within (sandbox.location fs.origin), fs.node? place = none
  direct : ∀ place ∈ sandbox.way fs.origin, place ∈ within (sandbox.location fs.origin) →
    place = sandbox.location fs.origin
  there : Action.isDirectory after sandbox = true
  changes : AgreeOff (region ∪ within (sandbox.location fs.origin)) fs after

section

variable {region : Set Location} {stuck : Path → Stuck} {temporary sandbox : Path} {label : String}
  {suffixes : List String} {fs after last : FileSystem}

theorem Occupies.inside (occupies : Occupies sandbox ∅ fs after) :
    AgreeOff (within (sandbox.location fs.origin)) fs after := by
  simpa only [Set.empty_union] using occupies.changes

theorem Occupies.remove (occupies : Occupies sandbox region fs after)
    (removable : Removable (stuck sandbox) sandbox after) :
    AgreeOff region fs (remove (stuck sandbox) sandbox after) := by
  have origin := occupies.changes.origin
  rw [remove_of_removable removable,
    Action.on_removeDirectory_of_named occupies.named occupies.there, ← origin]
  refine ⟨origin, fun place outside => ?_⟩
  by_cases inside : place ∈ within (sandbox.location fs.origin)
  · rw [get?_of_free (occupies.free place inside), get?_prune after inside]
  · rw [← (agreeOff_prune after _).nodes place inside]
    exact occupies.changes.nodes place (not_or.2 ⟨outside, inside⟩)

theorem claim_frame (claimed : (claim temporary label suffixes).on fs = (.ok sandbox, after)) :
    AgreeOff {sandbox.location fs.origin} fs after := by
  have changes := Action.makeDirectory_frame sandbox fs
  rw [(claim_ok claimed).2] at changes
  exact changes.mono fun place changed => changed.1

theorem occupies_of_claim (claimed : (claim temporary label suffixes).on fs = (.ok sandbox, after)) :
    Occupies sandbox ∅ fs after := by
  have made := (claim_ok claimed).2
  have there := Action.isDirectory_of_makeDirectory made
  rw [Action.on_makeDirectory] at made
  cases located : fs.locate sandbox with
  | error cause => simp [located] at made
  | ok location =>
    cases free : fs.node? location with
    | some node => simp [located, free] at made
    | none =>
      have named := (exists_parent located (by simp [free])).1
      have vacant := free_within free
      have passed : ∀ place ∈ sandbox.way fs.origin, place ∈ within location → place = location := by
        intro place member inside
        refine (node?_of_locate located member).resolve_right fun there => ?_
        rw [vacant place inside] at there
        cases there
      have reached := eq_of_locate located
      subst reached
      refine ⟨named, vacant, passed, there, (claim_frame claimed).mono ?_⟩
      rintro place rfl
      exact .inr (List.prefix_refl _)

theorem occupies_of_seed (claimed : (claim temporary label suffixes).on fs = (.ok sandbox, after)) :
    Occupies sandbox ∅ fs ((seed sandbox).on after).2 := by
  have occupies := occupies_of_claim claimed
  have filled := seed_frame (passable_of_isDirectory occupies.there)
  rw [← occupies.changes.origin] at filled
  refine ⟨occupies.named, occupies.free, occupies.direct, ?_, occupies.changes.trans (filled.mono ?_)⟩
  · rw [← isDirectory_congr filled]
    · exact occupies.there
    · intro place member inside
      rw [← occupies.changes.origin] at member
      have whole := occupies.direct place member ((List.prefix_append _ _).trans inside)
      have size := (whole ▸ inside).length_le
      rw [List.length_append, List.length_singleton] at size
      omega
  · exact fun place inside => .inr ((List.prefix_append _ _).trans inside)

theorem occupies_of_create
    (created : create stuck temporary label suffixes fs = (.ok sandbox, after)) :
    Occupies sandbox ∅ fs after := by
  obtain ⟨between, claimed, seeded⟩ := exists_claim created
  have occupies := occupies_of_seed claimed
  rwa [seeded] at occupies

theorem node?_claim (claimed : (claim temporary label suffixes).on fs = (.ok sandbox, after))
    (names : List String) :
    after.node? (sandbox.location fs.origin ++ names) =
      if names = [] then some .directory else none := by
  have occupies := occupies_of_claim claimed
  split_ifs with itself
  · have passable := passable_of_isDirectory occupies.there
    rw [itself, List.append_nil, occupies.changes.origin]
    exact passable _ (sandbox.location_mem_way _)
  · have apart : sandbox.location fs.origin ++ names ∉
        ({sandbox.location fs.origin} : Set Location) := by
      simpa using itself
    rw [← (claim_frame claimed).node? apart]
    exact occupies.free _ (List.prefix_append _ _)

def directories : List (List String) := [[], ["dirA"], ["dirA", "subdir"]]

/-- What is in a sandbox at first, by the names on the way from there. -/
def contents (names : List String) : Option Node :=
  if names = ["dirA", "subdir", "b.txt"] then some (.file "world".toUTF8 false)
  else if names = ["dirA", "a.txt"] then some (.file "hello".toUTF8 false)
  else if names ∈ directories then some .directory
  else none

theorem Occupies.mem_directories {region : Set Location} (occupies : Occupies sandbox region fs after)
    {names : List String} (ancestor : sandbox.location fs.origin ++ names ∈
      ((sandbox.child "dirA").child "subdir").ancestry fs.origin) : names ∈ directories := by
  have dirA : Path.Ordinary "dirA" := by decide
  have subdir : Path.Ordinary "subdir" := by decide
  rcases (Path.mem_way_grandchild dirA subdir).1 (Path.mem_way_of_ancestry ancestor) with
    member | same | same
  · have itself : names = [] := by
      simpa using occupies.direct _ member (List.prefix_append _ _)
    simp [itself, directories]
  · simp [directories, List.append_cancel_left same]
  · simp [directories, List.append_cancel_left same]

theorem node?_directories (claimed : (claim temporary label suffixes).on fs = (.ok sandbox, after))
    (made : (Action.makeDirectories ((sandbox.child "dirA").child "subdir")).on after =
      (.ok (), last)) (names : List String) :
    last.node? (sandbox.location fs.origin ++ names) =
      if names ∈ directories then some .directory else none := by
  have occupies := occupies_of_claim claimed
  have dirA : Path.Ordinary "dirA" := by decide
  have subdir : Path.Ordinary "subdir" := by decide
  have changed := Action.node?_makeDirectories ((sandbox.child "dirA").child "subdir") after
    (sandbox.location fs.origin ++ names)
  have origin := Action.origin_makeDirectories ((sandbox.child "dirA").child "subdir") after
  rw [made, ← occupies.changes.origin] at changed origin
  split_ifs with known
  · have passable := passable_of_isDirectory
      (Action.isDirectory_of_makeDirectories (Path.isEmpty_child _ subdir.isName) made)
    unfold Passable at passable
    rw [← origin] at passable
    refine passable _ ((Path.mem_way_grandchild dirA subdir).2 ?_)
    simp only [directories, List.mem_cons, List.not_mem_nil, or_false] at known
    rcases known with rfl | rfl | rfl
    · exact .inl (by simpa using sandbox.location_mem_way fs.origin)
    · exact .inr (.inl rfl)
    · exact .inr (.inr rfl)
  · have further : names ≠ [] := by
      rintro rfl
      exact known (by simp [directories])
    rcases changed with same | ⟨-, -, ancestor⟩
    · rw [same, node?_claim claimed, if_neg further]
    · exact absurd (occupies.mem_directories ancestor) known

theorem node?_create (created : create stuck temporary label suffixes fs = (.ok sandbox, last))
    (names : List String) :
    last.node? (sandbox.location fs.origin ++ names) = contents names := by
  obtain ⟨after, claimed, seeded⟩ := exists_claim created
  simp only [seed, Action.on_bind] at seeded
  rcases made : (Action.makeDirectories ((sandbox.child "dirA").child "subdir")).on after with
    ⟨cause | ⟨⟩, first⟩ <;> rw [made] at seeded
  · cases (Prod.mk.inj seeded).1
  dsimp only at seeded
  rcases greeted : (Action.write ((sandbox.child "dirA").child "a.txt") "hello".toUTF8).on first with
    ⟨cause | ⟨⟩, second⟩ <;> rw [greeted] at seeded
  · cases (Prod.mk.inj seeded).1
  dsimp only at seeded
  have start := (occupies_of_claim claimed).changes.origin
  have origin := Action.origin_makeDirectories ((sandbox.child "dirA").child "subdir") after
  have origin' := (Action.write_frame ((sandbox.child "dirA").child "a.txt") "hello".toUTF8
    first).origin
  rw [made, ← start] at origin
  rw [greeted, ← origin] at origin'
  have found := node?_directories claimed made
  have greeting := Action.node?_write greeted
  rw [← origin, location_greeting, found] at greeting
  replace greeting := greeting (by decide)
  have answer := Action.node?_write seeded
  rw [← origin', location_answer, greeting, found] at answer
  rw [answer (by simp [directories]), greeting, found, contents]
  simp only [List.append_cancel_left_eq]

/-! ## A sandbox that could not be filled -/

/-- A sandbox holds nothing but what the run itself puts into it. -/
structure Untouched (sandbox : Path) (origin : Location) (fs : FileSystem) : Prop where
  start : fs.origin = origin
  holds : ∀ names node, fs.node? (sandbox.location origin ++ names) = some node →
    contents names = some node

theorem Untouched.write {p : Path} {bytes : ByteArray} {names : List String} {origin : Location}
    (untouched : Untouched sandbox origin fs)
    (place : p.location origin = sandbox.location origin ++ names)
    (belongs : contents names = some (.file bytes false)) :
    Untouched sandbox origin ((Action.write p bytes).on fs).2 := by
  obtain ⟨rfl, holds⟩ := untouched
  refine ⟨(Action.write_frame p bytes fs).origin.symm, fun names' node there => ?_⟩
  rcases Action.node?_of_write there with before | ⟨same, executable, rfl, kept⟩
  · exact holds _ _ before
  · rw [place, List.append_cancel_left_eq] at same
    subst same
    cases executable with
    | false => exact belongs
    -- An executable file does not belong there, so none has been there before.
    | true =>
      obtain ⟨old, before⟩ := kept rfl
      have known := holds _ _ before
      rw [belongs] at known
      cases known

end

end Sandbox

end GuidedExploration
