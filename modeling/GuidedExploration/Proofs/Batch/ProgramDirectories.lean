import GuidedExploration.Batch.Basic
import GuidedExploration.Proofs.FileSystem.Way
import Mathlib.Data.List.Infix

/-!
The directories of the programs of a batch. A category and a program are joined to the root as they
are written: an absolute one leads away from the root, dots lead up and down, and slashes further
down. For which pairs the directories are apart, wherever the root is, depends on where the names
lead from it.
-/

set_option autoImplicit false

namespace GuidedExploration

def Location.Nested (l l' : Location) : Prop := l <+: l' ∨ l' <+: l

namespace Location.Nested

instance (l l' : Location) : Decidable (Nested l l') := inferInstanceAs (Decidable (_ ∨ _))

theorem symm {l l' : Location} (nested : Nested l l') : Nested l' l := Or.symm nested

theorem drop {l l' : Location} (nested : Nested l l') (k : Nat) :
    Nested (l.drop k) (l'.drop k) :=
  nested.imp (List.IsPrefix.drop · k) (List.IsPrefix.drop · k)

theorem append_left {l l' : Location} (outer : Location) (nested : Nested l l') :
    Nested (outer ++ l) (outer ++ l') :=
  nested.imp (List.prefix_append_right_inj outer).2 (List.prefix_append_right_inj outer).2

end Location.Nested

open Location

/-- Where a path leads from a directory: to a place of its own, or on a bearing from there. -/
inductive Placement where
  | fixed (location : Location)
  | onward (bearing : Bearing)
  deriving DecidableEq, Repr

namespace Placement

def ofPath (p : Path) : Placement :=
  if p.isAbsolute then .fixed (Bearing.ofSteps p.steps).down else .onward (Bearing.ofSteps p.steps)

def lead : Placement → Location → Location
  | fixed location, _ => location
  | onward bearing, base => bearing.lead base

/-- Two placements that are nested from some base. Of two bearings, the one that goes further up can
come down again by the names of the base that the other one keeps. -/
def Meets : Placement → Placement → Prop
  | fixed location, fixed location' => Nested location location'
  | fixed _, onward _ => True
  | onward _, fixed _ => True
  | onward b, onward b' =>
    ∃ k ≤ b.up - b'.up, ∃ k' ≤ b'.up - b.up, Nested (b.down.drop k) (b'.down.drop k')

instance : (p q : Placement) → Decidable (p.Meets q)
  | fixed _, fixed _ => inferInstanceAs (Decidable (Nested _ _))
  | fixed _, onward _ => inferInstanceAs (Decidable True)
  | onward _, fixed _ => inferInstanceAs (Decidable True)
  | onward b, onward b' =>
    inferInstanceAs (Decidable
      (∃ k ≤ b.up - b'.up, ∃ k' ≤ b'.up - b.up, Nested (b.down.drop k) (b'.down.drop k')))

theorem drop_lead (b : Bearing) (base : Location) {k : Nat} (enough : base.length - b.up ≤ k) :
    (b.lead base).drop k = b.down.drop (k - (base.length - b.up)) := by
  have kept : (base.take (base.length - b.up)).length = base.length - b.up := by simp
  rw [Bearing.lead, List.drop_append, kept, List.drop_eq_nil_of_le (by omega), List.nil_append]

theorem lead_below (b : Bearing) (base : Location) :
    b.lead (base ++ List.replicate b.up "x") = base ++ b.down := by
  rw [Bearing.lead, List.length_append, List.length_replicate, Nat.add_sub_cancel, List.take_left]

-- Behind what either bearing keeps of the base there is only what each goes down.
theorem meets_of_nested {b b' : Bearing} {base : Location}
    (nested : Nested (b.lead base) (b'.lead base)) : (onward b).Meets (onward b') := by
  obtain ⟨kept, most⟩ : ∃ kept, kept = max (base.length - b.up) (base.length - b'.up) := ⟨_, rfl⟩
  have behind := nested.drop kept
  rw [drop_lead b base (by omega), drop_lead b' base (by omega)] at behind
  exact ⟨_, by omega, _, by omega, behind⟩

theorem exists_nested_of_le {b b' : Bearing} {k : Nat} (low : k ≤ b.up - b'.up)
    (nested : Nested (b.down.drop k) b'.down) (higher : b'.up ≤ b.up) :
    ∃ base, Nested (b.lead base) (b'.lead base) := by
  refine ⟨b.down.take k ++ List.replicate b'.up "x", ?_⟩
  have climbed : (b.down.take k ++ List.replicate b'.up "x").length - b.up = 0 := by
    rw [List.length_append, List.length_take, List.length_replicate]
    omega
  have whole : b.lead (b.down.take k ++ List.replicate b'.up "x") =
      b.down.take k ++ b.down.drop k := by
    rw [Bearing.lead, climbed, List.take_zero, List.nil_append, List.take_append_drop]
  rw [whole, lead_below]
  exact nested.append_left _

theorem meets_iff {p q : Placement} : p.Meets q ↔ ∃ base, Nested (p.lead base) (q.lead base) := by
  have around : ∀ (location : Location) (b : Bearing),
      location <+: b.lead (location ++ List.replicate b.up "x") := by
    intro location b
    rw [lead_below]
    exact List.prefix_append _ _
  constructor
  · intro meets
    cases p with
    | fixed location =>
      cases q with
      | fixed location' => exact ⟨[], meets⟩
      | onward b => exact ⟨_, .inl (around location b)⟩
    | onward b =>
      cases q with
      | fixed location => exact ⟨_, .inr (around location b)⟩
      | onward b' =>
        obtain ⟨k, low, k', low', nested⟩ := meets
        rcases Nat.le_total b'.up b.up with higher | higher
        · cases Nat.le_zero.1 (Nat.sub_eq_zero_of_le higher ▸ low')
          exact exists_nested_of_le low nested higher
        · cases Nat.le_zero.1 (Nat.sub_eq_zero_of_le higher ▸ low)
          obtain ⟨base, nested⟩ := exists_nested_of_le low' nested.symm higher
          exact ⟨base, nested.symm⟩
  · rintro ⟨base, nested⟩
    cases p with
    | fixed location =>
      cases q with
      | fixed location' => exact nested
      | onward b => trivial
    | onward b =>
      cases q with
      | fixed location => trivial
      | onward b' => exact meets_of_nested nested

theorem lead_ofPath (p : Path) (base : Location) : (ofPath p).lead base = p.location base := by
  unfold ofPath Path.location Path.start
  rw [Location.foldl_step]
  split_ifs with rooted
  · simp [lead, Bearing.lead]
  · rfl

end Placement

namespace Path

theorem location_join (p q : Path) (origin : Location) :
    (p.join q).location origin = q.location (p.location origin) := by
  cases rooted : q.isAbsolute with
  | true => simp [join, location, start, rooted]
  | false =>
    rw [location, location, location, start, start, start, isAbsolute_join p rooted,
      steps_join p rooted, rooted, List.foldl_append]
    rfl

end Path

def placement (pair : String × String) : Placement := .ofPath ((Path.mk pair.1).child pair.2)

theorem location_programDirectory (root : Path) (category program : String) (origin : Location) :
    (programDirectory root category program).location origin =
      (placement (category, program)).lead (root.location origin) := by
  rw [placement, Placement.lead_ofPath, programDirectory]
  simp only [Path.child, Path.location_join]

def Configuration.listed (c : Configuration) : List (String × String) :=
  c.categories.entries.flatMap fun (category, settings) =>
    settings.programs.map fun program => (category, program)

theorem Configuration.mem_listed_iff {c : Configuration} {category program : String} :
    (category, program) ∈ c.listed ↔
      ∃ settings, c.category? category = some settings ∧ program ∈ settings.programs := by
  simp only [listed, List.mem_flatMap, List.mem_map, Prod.exists, Prod.mk.injEq]
  constructor
  · rintro ⟨category, settings, entry, program, member, rfl, rfl⟩
    exact ⟨settings, c.categories.get?_eq_some_iff.2 entry, member⟩
  · rintro ⟨settings, known, member⟩
    exact ⟨category, settings, c.categories.get?_eq_some_iff.1 known, program, member, rfl, rfl⟩

namespace Batch

open FileSystem

variable {σ : Type} {b : Batch σ}

theorem of_mem_assignments {selection : List String} {a : Assignment}
    (member : a ∈ b.assignments selection) :
    (a.category, a.program) ∈ b.configuration.listed ∧
      a.directory = programDirectory b.root a.category a.program := by
  obtain ⟨category, -, member⟩ := List.mem_flatMap.1 member
  cases known : b.configuration.category? category with
  | none => simp [known] at member
  | some settings =>
    rw [known] at member
    obtain ⟨program, listed, rfl⟩ := List.mem_map.1 member
    exact ⟨Configuration.mem_listed_iff.2 ⟨settings, known, listed⟩, rfl⟩

theorem exists_assignment {pair : String × String} (listed : pair ∈ b.configuration.listed) :
    ∃ a ∈ b.assignments [], (a.category, a.program) = pair := by
  obtain ⟨category, program⟩ := pair
  obtain ⟨settings, known, member⟩ := Configuration.mem_listed_iff.1 listed
  have named : category ∈ b.selected [] := (Dict.mem_keys_iff _).2 ⟨settings, known⟩
  refine ⟨b.assignment category settings program, List.mem_flatMap.2 ⟨category, named, ?_⟩, rfl⟩
  rw [known]
  exact List.mem_map_of_mem member

/-- Different programs of a batch have different directories, and none lies inside another's. -/
def DirectoriesApart (b : Batch σ) (selection : List String) (fs : FileSystem) : Prop :=
  ∀ a ∈ b.assignments selection, ∀ a' ∈ b.assignments selection,
    (a.category, a.program) ≠ (a'.category, a'.program) →
      isWithin (a.directory.location fs.origin) (a'.directory.location fs.origin) = false

theorem DirectoriesApart.notMem_within {selection : List String} {fs : FileSystem}
    (apart : b.DirectoriesApart selection fs) {a a' : Assignment}
    (member : a ∈ b.assignments selection) (member' : a' ∈ b.assignments selection)
    (other : (a.category, a.program) ≠ (a'.category, a'.program)) :
    ∀ place ∈ within (a.directory.location fs.origin), place ∉ within (a'.directory.location fs.origin) := by
  have outside := apart a member a' member' other
  have outside' := apart a' member' a member other.symm
  rw [Bool.eq_false_iff, ne_eq, isWithin_iff] at outside outside'
  exact FileSystem.notMem_within outside' outside

theorem placement_of_ordinary {category program : String} (first : Path.Ordinary category)
    (second : Path.Ordinary program) :
    placement (category, program) = .onward ⟨0, [category, program]⟩ := by
  have steps : ((Path.mk category).child program).steps = [category, program] := by
    rw [Path.steps_child _ second.isName, Path.steps_ofName first.isName]
    rfl
  have relative : ((Path.mk category).child program).isAbsolute = false := by
    rw [Path.isAbsolute_child _ second.isName, Path.isAbsolute_ofName first.isName]
  simp [placement, Placement.ofPath, steps, relative, Bearing.ofSteps, Bearing.next, first.notDot,
    first.notDots, second.notDot, second.notDots]

theorem not_meets_of_ordinary {x y : String × String} (other : x ≠ y)
    (ordinary : Path.Ordinary x.1 ∧ Path.Ordinary x.2)
    (ordinary' : Path.Ordinary y.1 ∧ Path.Ordinary y.2) : ¬(placement x).Meets (placement y) := by
  rw [placement_of_ordinary ordinary.1 ordinary.2, placement_of_ordinary ordinary'.1 ordinary'.2]
  rintro ⟨k, level, k', level', nested⟩
  cases Nat.le_zero.1 level
  cases Nat.le_zero.1 level'
  have same : [x.1, x.2] = [y.1, y.2] :=
    nested.elim (fun inside => inside.eq_of_length rfl) fun inside => (inside.eq_of_length rfl).symm
  rw [List.cons.injEq, List.cons.injEq] at same
  exact other (Prod.ext same.1 same.2.1)

/-- From the root of a batch on, where the directory of an assignment lies is a matter of names. -/
theorem location_directory {selection : List String} {a : Assignment}
    (member : a ∈ b.assignments selection) (origin : Location) :
    a.directory.location origin =
      (placement (a.category, a.program)).lead (b.root.location origin) := by
  rw [(of_mem_assignments member).2, location_programDirectory]

theorem directoriesApart_of_not_meets
    (apart : ∀ x ∈ b.configuration.listed, ∀ y ∈ b.configuration.listed, x ≠ y →
      ¬(placement x).Meets (placement y)) (selection : List String) (fs : FileSystem) :
    b.DirectoriesApart selection fs := by
  intro a member a' member' other
  rw [Bool.eq_false_iff, ne_eq, isWithin_iff, location_directory member,
    location_directory member']
  intro inside
  exact apart _ (of_mem_assignments member).1 _ (of_mem_assignments member').1 other
    (Placement.meets_iff.2 ⟨_, .inl inside⟩)

/-- The directories of different programs are apart wherever the root is exactly when no two of the
listed names meet. Names that are single steps never do. -/
theorem directories_apart_iff (c : Configuration) (stages : Stages σ) :
    ((∀ root selection fs, (Batch.mk c root stages).DirectoriesApart selection fs) ↔
      ∀ x ∈ c.listed, ∀ y ∈ c.listed, x ≠ y → ¬(placement x).Meets (placement y)) ∧
    ((∀ x ∈ c.listed, Path.Ordinary x.1 ∧ Path.Ordinary x.2) →
      ∀ root selection fs, (Batch.mk c root stages).DirectoriesApart selection fs) := by
  refine ⟨⟨?_, fun apart root => directoriesApart_of_not_meets apart⟩, fun ordinary root =>
    directoriesApart_of_not_meets fun x listed y listed' other =>
      not_meets_of_ordinary other (ordinary x listed) (ordinary y listed')⟩
  intro apart x listed y listed' other meets
  obtain ⟨base, nested⟩ := Placement.meets_iff.1 meets
  -- The base is where the batch is started, and the root is right there.
  let b : Batch σ := ⟨c, .here, stages⟩
  let fs : FileSystem := { FileSystem.empty with origin := base }
  obtain ⟨a, member, rfl⟩ := exists_assignment (b := b) listed
  obtain ⟨a', member', rfl⟩ := exists_assignment (b := b) listed'
  have started : Path.here.location fs.origin = base := rfl
  have place := location_directory member fs.origin
  have place' := location_directory member' fs.origin
  rw [started] at place place'
  have outside := apart .here [] fs a member a' member' other
  have outside' := apart .here [] fs a' member' a member other.symm
  rw [Bool.eq_false_iff, ne_eq, isWithin_iff, place, place'] at outside outside'
  exact nested.elim outside outside'

/-- Two configuration files: the names of one lead up and down, but apart; the other one lists a
program in two spellings. -/
def configurations : FileSystem where
  nodes := .ofList
    [(["apart.json"], .file ("\x7b\"c\": \x7b\"programs\": [\"ls\"]\x7d, " ++
        "\"d\": \x7b\"programs\": [\"../e/ls\", \"./ls\"]\x7d\x7d").toUTF8 false),
      (["twice.json"], .file
        "\x7b\"c\": \x7b\"programs\": [\"ls\", \"./ls\"]\x7d\x7d".toUTF8 false)]
  origin := []

def listsApart : Configuration :=
  ⟨.ofList [("c", { programs := ["ls"] }), ("d", { programs := ["../e/ls", "./ls"] })]⟩

def listsTwice : Configuration := ⟨.ofList [("c", { programs := ["ls", "./ls"] })]⟩

def idle : Stages Unit where
  instrument _ := throw (.breakdown none)
  profile _ _ := throw (.breakdown none)
  evaluate _ _ _ := throw (.breakdown none)

theorem directories_apart_up_and_down :
    Configuration.load configurations ⟨"apart.json"⟩ = .ok listsApart ∧
      (Batch.mk listsApart ⟨"../art"⟩ idle).DirectoriesApart []
        { FileSystem.empty with origin := ["home", "user"] } := by
  have apart : ∀ x ∈ listsApart.listed, ∀ y ∈ listsApart.listed, x ≠ y →
      ¬(placement x).Meets (placement y) := by decide +kernel
  exact ⟨by decide +kernel, (directories_apart_iff listsApart idle).1.2 apart ⟨"../art"⟩ [] _⟩

/-- Names that differ may still lead to one directory, from every root. -/
theorem directories_coincide :
    Configuration.load configurations ⟨"twice.json"⟩ = .ok listsTwice ∧
      ("c", "ls") ∈ listsTwice.listed ∧ ("c", "./ls") ∈ listsTwice.listed ∧
      ("c", "ls") ≠ ("c", "./ls") ∧
      ∀ (root : Path) (fs : FileSystem),
        (programDirectory root "c" "ls").location fs.origin =
          (programDirectory root "c" "./ls").location fs.origin := by
  refine ⟨by decide +kernel, by decide +kernel, by decide +kernel, by decide, fun root fs => ?_⟩
  have same : placement ("c", "ls") = placement ("c", "./ls") := by decide +kernel
  rw [location_programDirectory, location_programDirectory, same]

end Batch

end GuidedExploration
