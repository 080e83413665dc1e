import GuidedExploration.Engine.Statistics
import GuidedExploration.Proofs.FileSystem.Frame

/-!
The way to a path: every place that following it comes by. What a file system says about a path is
decided on that way, and, for a directory that is listed, below its end.
-/

set_option autoImplicit false

namespace GuidedExploration

namespace Path

/-- The places that following a path comes by, its start and its end among them. -/
def way (p : Path) (origin : Location) : List Location :=
  p.steps.scanl Location.step (p.start origin)

def Avoids (p : Path) (origin : Location) (region : Set Location) : Prop :=
  ∀ place ∈ p.way origin, place ∉ region

instance (p : Path) (origin outer : Location) :
    Decidable (p.Avoids origin (FileSystem.within outer)) :=
  inferInstanceAs (Decidable (∀ place ∈ p.way origin, ¬outer <+: place))

theorem location_mem_way (p : Path) (origin : Location) : p.location origin ∈ p.way origin := by
  have nonempty : p.steps.scanl Location.step (p.start origin) ≠ [] := by
    cases p.steps <;> simp
  rw [location, ← List.getLast_scanl nonempty]
  exact List.getLast_mem nonempty

theorem mem_way_of_steps {p q : Path} {further : List String} (rooted : q.isAbsolute = p.isAbsolute)
    (steps : p.steps = q.steps ++ further) {origin place : Location} (member : place ∈ q.way origin) :
    place ∈ p.way origin := by
  rw [way, start, rooted] at member
  rw [way, steps, List.scanl_append]
  exact List.mem_append_left _ member

theorem mem_way_of_parent? {p parent : Path} (found : p.parent? = some parent)
    {origin place : Location} (member : place ∈ parent.way origin) : place ∈ p.way origin := by
  obtain ⟨rooted, dots, name, dots', steps, -⟩ := steps_of_parent? found
  rw [List.append_assoc] at steps
  exact mem_way_of_steps rooted steps member

theorem way_child (p : Path) {name : String} (ordinary : Ordinary name) (origin : Location) :
    (p.child name).way origin = p.way origin ++ [p.location origin ++ [name]] := by
  rw [way, way, location, start, start, isAbsolute_child p ordinary.isName,
    steps_child p ordinary.isName,
    List.scanl_append]
  simp [Location.step, ordinary.notDot, ordinary.notDots]

theorem mem_way_child {p : Path} {name : String} (ordinary : Ordinary name)
    {origin place : Location} :
    place ∈ (p.child name).way origin ↔
      place ∈ p.way origin ∨ place = p.location origin ++ [name] := by
  rw [way_child p ordinary, List.mem_append, List.mem_singleton]

theorem mem_way_grandchild {p : Path} {outer inner : String} (ordinary : Ordinary outer)
    (ordinary' : Ordinary inner) {origin place : Location} :
    place ∈ ((p.child outer).child inner).way origin ↔
      place ∈ p.way origin ∨ place = p.location origin ++ [outer] ∨
        place = p.location origin ++ [outer, inner] := by
  rw [mem_way_child ordinary', mem_way_child ordinary, location_child _ ordinary,
    List.append_assoc, or_assoc]
  rfl

structure Apart (p : Path) (origin : Location) (region : Set Location) : Prop where
  avoids : p.Avoids origin region
  behind : ∀ place ∈ FileSystem.within (p.location origin), place ∉ region

theorem Apart.child {p : Path} {origin : Location} {region : Set Location}
    (apart : p.Apart origin region) {name : String} (ordinary : Ordinary name) :
    (p.child name).Apart origin region := by
  have inner : p.location origin <+: p.location origin ++ [name] := List.prefix_append _ _
  constructor
  · intro place member
    rcases (mem_way_child ordinary).1 member with member | rfl
    · exact apart.avoids place member
    · exact apart.behind _ inner
  · rw [location_child p ordinary]
    intro place further
    exact apart.behind place (inner.trans further)

end Path

namespace FileSystem

/-! ## Questions are answered on the way -/

section

variable {region : Set Location} {fs fs' : FileSystem}

theorem walk_congr (agree : AgreeOff region fs fs') {names : List String} {start : Location}
    (avoids : ∀ place ∈ names.scanl Location.step start, place ∉ region) :
    fs.walk start names = fs'.walk start names := by
  induction names generalizing start with
  | nil => rfl
  | cons name rest ih =>
    rw [List.scanl_cons, List.forall_mem_cons] at avoids
    have later := ih avoids.2
    unfold walk
    rw [agree.node? avoids.1]
    rcases fs'.node? start with _ | _ | _
    · rfl
    · dsimp only
      unfold Location.step at later
      split_ifs at later ⊢ with here above long
      · exact later
      · exact later
      · rfl
      · exact later
    · rfl

variable {p : Path}

theorem notMem_of_locate (avoids : p.Avoids fs.origin region) {location : Location}
    (located : fs.locate p = .ok location) : location ∉ region := by
  rw [eq_of_locate located]
  exact avoids _ (p.location_mem_way fs.origin)

theorem locate_congr (agree : AgreeOff region fs fs') (avoids : p.Avoids fs.origin region) :
    fs.locate p = fs'.locate p := by
  have walked : fs.walk (p.start fs.origin) p.steps = fs'.walk (p.start fs'.origin) p.steps := by
    rw [Path.start, Path.start, ← agree.origin]
    exact walk_congr agree avoids
  rw [locate, locate, walked]

theorem lookup_congr (agree : AgreeOff region fs fs') (avoids : p.Avoids fs.origin region) :
    fs.lookup p = fs'.lookup p := by
  unfold lookup
  rw [← locate_congr agree avoids]
  cases located : fs.locate p with
  | error cause => rfl
  | ok location =>
    simp only [bind, Except.bind, agree.node? (notMem_of_locate avoids located)]

theorem exists?_congr (agree : AgreeOff region fs fs') (avoids : p.Avoids fs.origin region) :
    fs.exists? p = fs'.exists? p := by
  rw [exists?, exists?, lookup_congr agree avoids]

theorem isDirectory_congr (agree : AgreeOff region fs fs') (avoids : p.Avoids fs.origin region) :
    Action.isDirectory fs p = Action.isDirectory fs' p := by
  rw [Action.isDirectory, Action.isDirectory, lookup_congr agree avoids]

theorem bytes_congr (agree : AgreeOff region fs fs') (avoids : p.Avoids fs.origin region) :
    fs.bytes p = fs'.bytes p := by
  rw [bytes, bytes, lookup_congr agree avoids]

theorem below_eq (fs : FileSystem) (location : Location) :
    fs.below location =
      (fs.nodes.filter fun inner _ => isBelow location inner).entries.map fun (inner, node) =>
        (inner.drop location.length, node) := by
  rw [below, Dict.filter, ← List.filterMap_eq_map, List.filterMap_filter]
  rfl

theorem below_congr (agree : AgreeOff region fs fs') {location : Location}
    (apart : ∀ place ∈ within location, place ∉ region) : fs.below location = fs'.below location := by
  have same : (fs.nodes.filter fun inner _ => isBelow location inner) =
      fs'.nodes.filter fun inner _ => isBelow location inner := by
    apply Dict.ext
    intro inner
    rw [Dict.get?_filter, Dict.get?_filter]
    by_cases inside : inner ∈ within location
    · rw [agree.nodes inner (apart inner inside)]
    · rw [isBelow_eq_false inside]
      cases fs.nodes.get? inner <;> cases fs'.nodes.get? inner <;> rfl
  rw [below_eq, below_eq, same]

theorem list_congr (agree : AgreeOff region fs fs') (avoids : p.Avoids fs.origin region)
    (apart : ∀ place ∈ within (p.location fs.origin), place ∉ region) : fs.list p = fs'.list p := by
  unfold list
  rw [← locate_congr agree avoids, ← lookup_congr agree avoids]
  cases located : fs.locate p with
  | error cause => rfl
  | ok location =>
    have reached := eq_of_locate located
    subst reached
    simp only [bind, Except.bind, names, below_congr agree apart]

theorem ofFile_congr (agree : AgreeOff region fs fs') (avoids : p.Avoids fs.origin region) :
    Statistics.ofFile fs p = Statistics.ofFile fs' p := by
  rw [Statistics.ofFile, Statistics.ofFile, bytes_congr agree avoids]

theorem countTests_congr (agree : AgreeOff region fs fs') (avoids : p.Avoids fs.origin region)
    (apart : ∀ place ∈ within (p.location fs.origin), place ∉ region) :
    countTests fs p = countTests fs' p := by
  rw [countTests, countTests, list_congr agree avoids apart]

end

/-! ## Ways that lead somewhere -/

def Passable (fs : FileSystem) (p : Path) : Prop :=
  ∀ place ∈ p.way fs.origin, fs.node? place = some .directory

theorem node?_of_walk {fs : FileSystem} {names : List String} {start location : Location}
    (reached : fs.walk start names = .ok location) :
    ∀ place ∈ names.scanl Location.step start,
      place = location ∨ fs.node? place = some .directory := by
  induction names generalizing start with
  | nil =>
    cases reached
    simp
  | cons name rest ih =>
    rw [List.scanl_cons]
    unfold walk at reached
    split at reached
    · cases reached
    · cases reached
    · next found =>
      have later : fs.walk (start.step name) rest = .ok location := by
        unfold Location.step
        split_ifs at reached ⊢ with here above long
        · exact reached
        · exact reached
        · exact reached
      exact List.forall_mem_cons.2 ⟨.inr found, ih later⟩

theorem node?_of_locate {fs : FileSystem} {p : Path} {location : Location}
    (located : fs.locate p = .ok location) {place : Location} (member : place ∈ p.way fs.origin) :
    place = location ∨ fs.node? place = some .directory := by
  unfold locate at located
  split at located
  · cases located
  · exact node?_of_walk located place member

theorem passable_of_isDirectory {fs : FileSystem} {p : Path}
    (there : Action.isDirectory fs p = true) : fs.Passable p := by
  obtain ⟨location, located, found⟩ := Action.isDirectory_iff.1 there
  intro place member
  rcases node?_of_locate located member with rfl | passed
  · exact found
  · exact passed

namespace Action

theorem mem_way_of_lineage {fuel : Nat} {p q : Path} (ancestor : q ∈ lineage fuel p)
    {origin place : Location} (member : place ∈ q.way origin) : place ∈ p.way origin := by
  induction fuel generalizing p with
  | zero => simp [lineage] at ancestor
  | succ fuel ih =>
    unfold lineage at ancestor
    split_ifs at ancestor
    · simp at ancestor
    · cases found : p.parent? with
      | none =>
        simp only [found, List.mem_singleton] at ancestor
        exact ancestor ▸ member
      | some parent =>
        simp only [found, List.mem_append, List.mem_singleton] at ancestor
        rcases ancestor with ancestor | rfl
        · exact Path.mem_way_of_parent? found (ih ancestor)
        · exact member

theorem makeDirectories_frame {region : Set Location} {p : Path} {fs : FileSystem}
    (occupied : ∀ place ∈ p.way fs.origin, fs.node? place = none → place ∈ region) :
    AgreeOff region fs ((makeDirectories p).on fs).2 := by
  refine (makeAll_frame _ fs).mono ?_
  rintro place ⟨⟨q, ancestor, rfl⟩, unused⟩
  have member := mem_way_of_lineage (List.mem_reverse.1 ancestor) (q.location_mem_way fs.origin)
  exact occupied _ member unused

end Action

end FileSystem

end GuidedExploration
