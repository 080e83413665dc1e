import GuidedExploration.FileSystem.Basic
import GuidedExploration.Proofs.Path
import Mathlib.Data.List.Induction

/-!
Where the steps of a path lead, on a location alone: so many names up and then some names down. A
path that can be followed in a file system leads there, and following it twice leads back only when
it goes down as far as it goes up.
-/

set_option autoImplicit false

namespace GuidedExploration

/-- A walk without detours: out of so many directories and then into some. -/
structure Bearing where
  up : Nat
  down : List String
  deriving DecidableEq, Repr

namespace Bearing

def next (b : Bearing) (name : String) : Bearing :=
  if name = "." then b
  else if name = ".." then
    if b.down = [] then { b with up := b.up + 1 } else { b with down := b.down.dropLast }
  else { b with down := b.down ++ [name] }

def ofSteps (steps : List String) : Bearing := steps.foldl next ⟨0, []⟩

/-- Where a bearing leads; out of the root is the root. -/
def lead (b : Bearing) (start : Location) : Location :=
  start.take (start.length - b.up) ++ b.down

end Bearing

theorem Bearing.lead_next (b : Bearing) (start : Location) (name : String) :
    (b.next name).lead start = (b.lead start).step name := by
  by_cases here : name = "."
  · simp [next, Location.step, here]
  by_cases above : name = ".."
  · by_cases level : b.down = []
    · have dots : ".." ≠ "." := by decide
      simp [next, Location.step, above, level, lead, dots, List.dropLast_eq_take, List.take_take]
      omega
    · simp [next, Location.step, above, level, lead, List.dropLast_append_of_ne_nil]
  · simp [next, Location.step, here, above, lead]

theorem Location.foldl_step (start : Location) (steps : List String) :
    steps.foldl Location.step start = (Bearing.ofSteps steps).lead start := by
  induction steps using List.reverseRecOn with
  | nil => simp [Bearing.ofSteps, Bearing.lead]
  | append_singleton steps name ih =>
    simp only [Bearing.ofSteps, List.foldl_append, List.foldl_cons, List.foldl_nil] at ih ⊢
    rw [ih, Bearing.lead_next]

/-- Names that never go up are all gone down, but for the dots that stay. -/
theorem Bearing.ofSteps_of_notMem {steps : List String} (plain : ".." ∉ steps) :
    (ofSteps steps).up = 0 ∧ (ofSteps steps).down = steps.filter (· ≠ ".") := by
  induction steps using List.reverseRecOn with
  | nil => simp [ofSteps]
  | append_singleton steps name ih =>
    rw [List.mem_append, not_or] at plain
    obtain ⟨level, down⟩ := ih plain.1
    have ordinary : name ≠ ".." := fun same => plain.2 (by simp [same])
    simp only [ofSteps, List.foldl_append, List.foldl_cons, List.foldl_nil] at level down ⊢
    by_cases here : name = "."
    · simp [next, here, level, down, List.filter_append]
    · simp [next, here, ordinary, level, down, List.filter_append]

/-- Following a bearing a second time leads back exactly when it goes as far down as up, or when it
ends at the root both times. -/
theorem Bearing.lead_lead_iff (b : Bearing) (start : Location) :
    b.lead (b.lead start) = b.lead start ↔
      b.down.length = b.up ∨ (start.length ≤ b.up ∧ b.down.length ≤ b.up) := by
  have lengths : (b.lead start).length = start.length - b.up + b.down.length := by
    simp [lead]
  have outer : b.lead (b.lead start) =
      (b.lead start).take (start.length - b.up + b.down.length - b.up) ++ b.down := by
    rw [lead, lengths]
  have kept : b.lead start = start.take (start.length - b.up) ++ b.down := rfl
  constructor
  -- A location that does not change keeps its length, and the lengths alone decide.
  · intro same
    have sizes := congrArg List.length same
    rw [outer, List.length_append, List.length_take, lengths] at sizes
    omega
  · rintro (level | ⟨short, low⟩)
    · rw [outer, level, Nat.add_sub_cancel, kept, List.take_append_of_le_length]
      · rw [List.take_take, Nat.min_self]
      · simp
    · rw [outer, kept, show start.length - b.up = 0 by omega, show 0 + b.down.length - b.up = 0 by omega,
        List.take_zero, List.take_zero]

namespace FileSystem

theorem eq_of_walk {fs : FileSystem} {names : List String} {start location : Location}
    (reached : fs.walk start names = .ok location) :
    location = names.foldl Location.step start := by
  induction names generalizing start with
  | nil =>
    cases reached
    rfl
  | cons name rest ih =>
    rw [List.foldl_cons, Location.step]
    unfold walk at reached
    split at reached
    · cases reached
    · cases reached
    · split at reached
      · next here => simpa [here] using ih reached
      · next here =>
        split at reached
        · next above => simpa [here, above] using ih reached
        · next above =>
          split at reached
          · cases reached
          · simpa [here, above] using ih reached

theorem walk_append (fs : FileSystem) (start : Location) (names further : List String) :
    fs.walk start (names ++ further) =
      match fs.walk start names with
      | .ok location => fs.walk location further
      | .error cause => .error cause := by
  induction names generalizing start with
  | nil => rfl
  | cons name names ih =>
    rw [List.cons_append, walk, walk]
    rcases fs.node? start with _ | _ | _
    · rfl
    · dsimp only
      split_ifs
      · exact ih start
      · exact ih start.dropLast
      · rfl
      · exact ih (start ++ [name])
    · rfl

theorem directory_of_walk {fs : FileSystem} {start location : Location} {name : String}
    {names : List String} (reached : fs.walk start (name :: names) = .ok location) : fs.node? start = some .directory := by
  unfold walk at reached
  split at reached
  · cases reached
  · cases reached
  · assumption

theorem eq_of_locate {fs : FileSystem} {p : Path} {location : Location}
    (reached : fs.locate p = .ok location) : location = p.location fs.origin := by
  unfold locate at reached
  split at reached
  · cases reached
  · exact eq_of_walk reached

theorem locate_of_flaw {p : Path} {cause : Cause} (flawed : flaw? p = some cause) (fs : FileSystem) :
    fs.locate p = .error cause := by
  rw [locate, flawed]

theorem isEmpty_of_flaw? {p : Path} (sound : flaw? p = none) : p.isEmpty = false := by
  unfold flaw? at sound
  split_ifs at sound with zero empty
  exact Bool.eq_false_iff.2 empty

theorem flaw?_of_locate {fs : FileSystem} {p : Path} {location : Location}
    (located : fs.locate p = .ok location) :
    flaw? p = none := by
  cases flaw : flaw? p with
  | none => rfl
  | some cause =>
    rw [locate_of_flaw flaw] at located
    cases located

end FileSystem

theorem foldl_step_dots {steps : List String} (dots : ∀ step ∈ steps, step = ".")
    (start : Location) : steps.foldl Location.step start = start := by
  induction steps with
  | nil => rfl
  | cons step rest ih =>
    rw [List.foldl_cons, dots step List.mem_cons_self, Location.step, if_pos rfl]
    exact ih fun step member => dots step (List.mem_cons_of_mem _ member)

namespace Path

theorem location_eq_lead (p : Path) (origin : Location) :
    p.location origin = (Bearing.ofSteps p.steps).lead (p.start origin) :=
  Location.foldl_step (p.start origin) p.steps

structure Ordinary (name : String) : Prop where
  isName : IsName name
  notDot : name ≠ "."
  notDots : name ≠ ".."

instance (name : String) : Decidable (Ordinary name) :=
  decidable_of_iff ((name.toList ≠ [] ∧ '/' ∉ name.toList) ∧ name ≠ "." ∧ name ≠ "..")
    ⟨fun h => ⟨h.1, h.2.1, h.2.2⟩, fun h => ⟨h.isName, h.notDot, h.notDots⟩⟩

theorem location_child (p : Path) {name : String} (ordinary : Ordinary name) (origin : Location) :
    (p.child name).location origin = p.location origin ++ [name] := by
  rw [location, location, start, start, isAbsolute_child p ordinary.isName,
    steps_child p ordinary.isName,
    List.foldl_append, List.foldl_cons, List.foldl_nil]
  simp [Location.step, ordinary.notDot, ordinary.notDots]

theorem location_grandchild (p : Path) {outer inner : String} (ordinary : Ordinary outer)
    (ordinary' : Ordinary inner) (origin : Location) :
    ((p.child outer).child inner).location origin = p.location origin ++ [outer, inner] := by
  rw [location_child _ ordinary', location_child _ ordinary, List.append_assoc]
  rfl

theorem location_of_parent? {p parent : Path} (found : p.parent? = some parent)
    (origin : Location) : ∃ name, p.location origin = (parent.location origin).step name := by
  obtain ⟨rooted, dots, name, dots', steps, plain⟩ := steps_of_parent? found
  refine ⟨name, ?_⟩
  rw [location, location, steps, List.foldl_append, List.foldl_append, List.foldl_cons,
    foldl_step_dots fun step member => plain step (List.mem_append_left _ member),
    foldl_step_dots fun step member => plain step (List.mem_append_right _ member),
    start, start, rooted]

theorem location_of_parent?_eq_none {p : Path} (orphan : p.parent? = none) (origin : Location) :
    p.location origin = p.start origin :=
  foldl_step_dots (steps_of_parent?_eq_none orphan) _

def Named (p : Path) : Prop := ∃ names name, p.steps = names ++ [name] ∧ name ≠ "." ∧ name ≠ ".."

theorem Named.location_ne_nil {p : Path} (named : p.Named) (origin : Location) :
    p.location origin ≠ [] := by
  obtain ⟨names, name, steps, notDot, notDots⟩ := named
  rw [location, steps, List.foldl_append, List.foldl_cons, List.foldl_nil]
  simp [Location.step, notDot, notDots]

end Path

namespace FileSystem

variable {fs : FileSystem}

theorem directory_dropLast {location : Location} (there : fs.node? location ≠ none) 
    (inner : location ≠ []) : fs.node? location.dropLast = some .directory := by
  obtain ⟨node, found⟩ := Option.ne_none_iff_exists'.1 there
  rw [node?, if_neg (by simpa using inner)] at found
  have above := (fs.grounded location node found).2
  by_cases outermost : location.dropLast = []
  · rw [outermost]
    rfl
  · rw [node?, if_neg (by simpa using outermost), above outermost]

theorem free_append {place : Location} (other : fs.node? place ≠ some .directory)
    {names : List String} (further : names ≠ []) : fs.node? (place ++ names) = none := by
  induction names using List.reverseRecOn with
  | nil => exact absurd rfl further
  | append_singleton names name ih =>
    by_contra there
    rw [← List.append_assoc] at there
    have around := directory_dropLast there (by simp)
    rw [List.dropLast_concat] at around
    by_cases level : names = []
    · rw [level, List.append_nil] at around
      exact other around
    · rw [ih level] at around
      cases around

theorem free_below {place : Location} (free : fs.node? place = none) (names : List String) :
    fs.node? (place ++ names) = none := by
  by_cases level : names = []
  · rw [level, List.append_nil, free]
  · exact free_append (by simp [free]) level

/-- A path leads to something else than a directory by a name, from the directory around it. -/
theorem exists_parent {p : Path} {location : Location} (located : fs.locate p = .ok location)
    (other : fs.node? location ≠ some .directory) :
    p.Named ∧ ∃ parent name, location = parent ++ [name] ∧ fs.node? parent = some .directory := by
  have sound := flaw?_of_locate located
  rw [locate, sound] at located
  dsimp only at located
  rcases List.eq_nil_or_concat p.steps with nothing | ⟨names, name, steps⟩
  · have rootward : p.isAbsolute = true := by
      by_contra relative
      exact Path.steps_ne_nil (isEmpty_of_flaw? sound) (Bool.eq_false_iff.2 relative) nothing
    rw [nothing, Path.start, rootward] at located
    cases located
    exact absurd rfl other
  · rw [List.concat_eq_append] at steps
    rw [steps, walk_append] at located
    rcases walked : fs.walk (p.start fs.origin) names with cause | parent <;> rw [walked] at located
    · cases located
    dsimp only at located
    have there := directory_of_walk located
    rw [walk, there] at located
    dsimp only at located
    split_ifs at located with here above long
    · cases located
      exact absurd there other
    -- What lies around a directory is one as well.
    · cases located
      refine absurd ?_ other
      by_cases outermost : parent = []
      · rw [outermost]
        rfl
      · exact directory_dropLast (by simp [there]) outermost
    · cases located
      exact ⟨⟨names, name, steps, here, above⟩, parent, name, rfl, there⟩

theorem admits_of_locate {p : Path} {location : Location} (located : fs.locate p = .ok location)
    (other : fs.node? location ≠ some .directory) (node : Node) : fs.Admits location node := by
  obtain ⟨-, parent, name, rfl, there⟩ := exists_parent located other
  exact ⟨by simp, by rwa [List.dropLast_concat], .inr other⟩

end FileSystem

end GuidedExploration
