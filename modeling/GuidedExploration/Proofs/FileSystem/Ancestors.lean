import GuidedExploration.Proofs.FileSystem.Way

/-!
Making a directory whose ancestors are missing as well. Where relative paths start in a directory,
that comes to the same as making its parent first and then the directory itself, and where it stops
short it would stop again.
-/

set_option autoImplicit false

namespace GuidedExploration.FileSystem

section

variable {fs : FileSystem}

theorem directory_start (based : fs.node? fs.origin = some .directory) (p : Path) :
    fs.node? (p.start fs.origin) = some .directory := by
  unfold Path.start
  split_ifs
  · rfl
  · exact based

/-! ## Walks that only go down -/

theorem prefix_foldl_step {names : List String} (plain : ".." ∉ names) (start : Location) :
    start <+: names.foldl Location.step start := by
  rw [Location.foldl_step, Bearing.lead, (Bearing.ofSteps_of_notMem plain).1, Nat.sub_zero,
    List.take_length]
  exact List.prefix_append _ _

theorem prefix_of_mem_scanl {names : List String} (plain : ".." ∉ names) {start place : Location}
    (member : place ∈ names.scanl Location.step start) :
    place <+: names.foldl Location.step start := by
  induction names generalizing start with
  | nil => simp_all
  | cons name names ih =>
    rw [List.scanl_cons, List.mem_cons] at member
    rcases member with rfl | member
    · exact prefix_foldl_step plain place
    · exact ih (fun inside => plain (List.mem_cons_of_mem _ inside)) member

theorem walk_dots {location : Location} (there : fs.node? location = some .directory)
    {dots : List String} (dotted : ∀ step ∈ dots, step = ".") {name : String} (proper : name ≠ ".")
    (down : name ≠ "..") :
    fs.walk location (dots ++ [name]) =
      if nameLimit < name.utf8ByteSize then .error .nameTooLong else .ok (location ++ [name]) := by
  induction dots with
  | nil =>
    rw [List.nil_append, walk, there]
    dsimp only
    rw [if_neg proper, if_neg down]
    rfl
  | cons dot dots ih =>
    rw [List.forall_mem_cons] at dotted
    rw [List.cons_append, walk, there]
    dsimp only
    rw [if_pos dotted.1, ih dotted.2]

theorem free_of_walk {names : List String} (plain : ".." ∉ names)
    {start : Location} (missing : fs.walk start names = .error .notFound) :
    fs.node? (names.foldl Location.step start) = none := by
  induction names generalizing start with
  | nil => cases missing
  | cons name names ih =>
    unfold walk at missing
    split at missing
    · next free =>
      obtain ⟨further, shape⟩ := prefix_foldl_step plain start
      rw [← shape]
      exact free_below free further
    · cases missing
    · rw [List.mem_cons, not_or] at plain
      rw [List.foldl_cons, Location.step]
      split_ifs at missing ⊢ with here above long
      · exact ih plain.2 missing
      · exact absurd above.symm plain.1
      · cases missing
      · exact ih plain.2 missing

end

/-! ## A path and its parent -/

theorem flaw?_of_properParent? {p parent : Path} (found : p.properParent? = some parent)
    (sound : flaw? p = none) : flaw? parent = none := by
  obtain ⟨found, filled⟩ := Path.properParent?_iff.1 found
  obtain ⟨rest, -, written⟩ := Path.chars_of_parent? found
  have size : parent.text.utf8ByteSize ≤ p.text.utf8ByteSize := by
    have whole : p.text = parent.text ++ String.ofList rest := by
      rw [← String.toList_inj, String.toList_append, String.toList_ofList]
      exact written
    rw [whole, String.utf8ByteSize_append]
    exact Nat.le_add_right _ _
  unfold flaw? at sound ⊢
  split_ifs at sound with zero empty long
  rw [if_neg, if_neg (by simp [filled]), if_neg (by omega)]
  intro inside
  exact zero (by simp_all)

theorem flaw?_ne_notFound {p : Path} (filled : p.isEmpty = false) : flaw? p ≠ some .notFound := by
  simp only [flaw?, filled, Bool.false_eq_true, if_false]
  split_ifs <;> simp

theorem flaw?_of_missing {p : Path} {fs : FileSystem} (filled : p.isEmpty = false)
    (missing : fs.locate p = .error .notFound) : flaw? p = none := by
  cases flaw : flaw? p with
  | none => rfl
  | some cause =>
    rw [locate_of_flaw flaw] at missing
    cases missing
    exact absurd flaw (flaw?_ne_notFound filled)

structure Descends (p : Path) : Prop where
  sound : flaw? p = none
  plain : ".." ∉ p.steps
  ends : p.steps.getLast? ≠ some "."

structure Leg (p parent : Path) (dots : List String) (name : String) : Prop where
  dotted : ∀ step ∈ dots, step = "."
  notDot : name ≠ "."
  notDots : name ≠ ".."
  location : ∀ origin, p.location origin = parent.location origin ++ [name]
  locate : ∀ fs : FileSystem, fs.locate p =
    match fs.locate parent with
    | .ok location => fs.walk location (dots ++ [name])
    | .error cause => .error cause

section

variable {fs after : FileSystem} {p parent : Path} {cause : Cause}

theorem Descends.exists_leg (descends : Descends p) (found : p.properParent? = some parent) :
    ∃ dots name, Leg p parent dots name := by
  obtain ⟨found', -⟩ := Path.properParent?_iff.1 found
  obtain ⟨dots, name, steps, dotted, notDot⟩ := Path.exists_last_step found' descends.ends
  have rooted := (Path.steps_of_parent? found').1
  have notDots : name ≠ ".." := by
    rintro rfl
    exact descends.plain (by simp [steps])
  refine ⟨dots, name, dotted, notDot, notDots, fun origin => ?_, fun fs => ?_⟩
  · rw [Path.location, Path.location, Path.start, Path.start, rooted, steps, List.foldl_append,
      List.foldl_append, foldl_step_dots dotted]
    simp [Location.step, notDot, notDots]
  · rw [locate, locate, descends.sound, flaw?_of_properParent? found descends.sound, Path.start,
      Path.start,
      rooted, steps]
    exact walk_append fs _ _ _

theorem Descends.walk (descends : Descends p) (missing : fs.locate p = .error .notFound) :
    fs.walk (p.start fs.origin) p.steps = .error .notFound := by
  rwa [locate, descends.sound] at missing

/-- A path is wanting if its parent is, or if the parent is still to be made. -/
theorem Descends.missing_iff (descends : Descends p) (found : p.properParent? = some parent) :
    fs.locate p = .error .notFound ↔ fs.locate parent = .error .notFound ∨
      ∃ location, fs.locate parent = .ok location ∧ fs.node? location = none := by
  obtain ⟨dots, name, leg⟩ := descends.exists_leg found
  obtain ⟨first, rest, shape⟩ : ∃ first rest, dots ++ [name] = first :: rest :=
    List.exists_cons_of_ne_nil (by simp)
  rw [leg.locate]
  cases fs.locate parent with
  | error cause => simp
  | ok location =>
    dsimp only
    rcases there : fs.node? location with _ | _ | _
    · simp [shape, FileSystem.walk, there]
    · rw [walk_dots there leg.dotted leg.notDot leg.notDots]
      split_ifs <;> simp [there]
    · simp [shape, FileSystem.walk, there]

theorem Descends.exists_properParent (descends : Descends p)
    (based : fs.node? fs.origin = some .directory) (missing : fs.locate p = .error .notFound) :
    ∃ parent, p.properParent? = some parent := by
  have walked := descends.walk missing
  cases found : p.parent? with
  | none =>
    have dotted := Path.steps_of_parent?_eq_none found
    rcases List.eq_nil_or_concat p.steps with none_left | ⟨rest, last, shape⟩
    · rw [none_left] at walked
      cases walked
    · have dot := dotted last (by simp [shape])
      exact absurd (by simp [shape, dot]) descends.ends
  | some parent =>
    refine ⟨parent, Path.properParent?_iff.2 ⟨found, ?_⟩⟩
    rw [Bool.eq_false_iff]
    intro empty
    obtain ⟨dots, name, steps, dotted, notDot⟩ := Path.exists_last_step found descends.ends
    have nothing : parent.steps = [] := by
      simp [Path.steps, Path.pieces, List.isEmpty_iff.1 empty, Text.splitAt]
    rw [nothing, List.nil_append] at steps
    have notDots : name ≠ ".." := by
      rintro rfl
      exact descends.plain (by simp [steps])
    rw [steps, walk_dots (directory_start based p) dotted notDot notDots] at walked
    split_ifs at walked
    cases walked

theorem Descends.properParent (descends : Descends p)
    (based : fs.node? fs.origin = some .directory) (found : p.properParent? = some parent)
    (missing : fs.locate parent = .error .notFound) :
    Descends parent := by
  obtain ⟨found', filled⟩ := Path.properParent?_iff.1 found
  have sound := flaw?_of_properParent? found descends.sound
  refine ⟨sound, Path.notMem_steps_of_parent? found' descends.plain, ?_⟩
  -- Where relative paths start is there, so the parent is more than a dot.
  refine (Path.trimmed_of_parent? found' filled).getLast?_steps.resolve_right fun dot => ?_
  rw [locate, sound, dot] at missing
  dsimp only at missing
  rw [FileSystem.walk, directory_start based] at missing
  cases missing

end

/-! ## Making both -/

namespace Action

theorem lineage_congr {fuel fuel' : Nat} {p : Path} (enough : p.chars.length < fuel)
    (enough' : p.chars.length < fuel') : lineage fuel p = lineage fuel' p := by
  induction fuel generalizing p fuel' with
  | zero => omega
  | succ fuel ih =>
    obtain ⟨fuel', rfl⟩ : ∃ less, fuel' = less + 1 := ⟨fuel' - 1, by omega⟩
    rw [lineage, lineage]
    split_ifs
    · rfl
    · cases found : p.parent? with
      | none => rfl
      | some parent =>
        have shorter := Path.length_of_parent? found
        have above : lineage fuel parent = lineage fuel' parent := ih (by omega) (by omega)
        dsimp only
        rw [above]

theorem reverse_lineage {p parent : Path} (found : p.parent? = some parent) :
    (lineage (p.chars.length + 1) p).reverse =
      p :: (lineage (parent.chars.length + 1) parent).reverse := by
  have shorter := Path.length_of_parent? found
  rw [lineage, if_neg (by simp [Path.isEmpty_of_parent? found]), found]
  dsimp only
  rw [lineage_congr shorter (Nat.lt_succ_self _), List.reverse_append]
  rfl

/-- Unless an ancestor is missing, the directory is all there is to make. -/
theorem on_makeDirectories_of_settled {p : Path} {fs : FileSystem} (filled : p.isEmpty = false)
    (settled : fs.locate p ≠ .error .notFound) :
    (makeDirectories p).on fs = (ensureDirectory p).on fs := by
  obtain ⟨ancestors, shape⟩ := exists_lineage filled p.chars.length
  rw [makeDirectories, shape, on_makeAll_cons, on_ensureDirectory, on_makeDirectory]
  cases located : fs.locate p with
  | error cause =>
    have other : cause ≠ .notFound := fun same => settled (by rw [located, same])
    dsimp only
    rw [if_neg other]
  | ok location =>
    dsimp only
    cases fs.node? location with
    | none => rfl
    | some node =>
      dsimp only
      rw [if_neg (by decide)]

theorem on_makeDirectories_of_missing {p parent : Path} {fs : FileSystem}
    (found : p.properParent? = some parent) (missing : fs.locate p = .error .notFound) :
    (makeDirectories p).on fs =
      match (makeDirectories parent).on fs with
      | (.ok (), between) => (ensureDirectory p).on between
      | (.error cause, between) => (.error cause, between) := by
  obtain ⟨found, filled⟩ := Path.properParent?_iff.1 found
  obtain ⟨ancestors, shape⟩ := exists_lineage filled parent.chars.length
  rw [makeDirectories, reverse_lineage found, on_makeAll_cons, on_makeDirectory, missing]
  dsimp only
  rw [if_pos rfl, if_neg (by simp [shape])]
  rfl

theorem isDirectory_of_error {p : Path} {fs : FileSystem} {cause : Cause}
    (located : fs.locate p = .error cause) : isDirectory fs p = false := by
  rw [isDirectory, lookup, located]
  rfl

theorem on_makeDirectories_of_error {p : Path} {fs : FileSystem} {cause : Cause}
    (located : fs.locate p = .error cause) (obstacle : cause ≠ .notFound) :
    (makeDirectories p).on fs = (.error cause, fs) := by
  have filled : p.isEmpty = false := by
    rw [Bool.eq_false_iff]
    intro empty
    have blank : p.chars = [] := List.isEmpty_iff.1 empty
    simp [locate, flaw?, blank, empty] at located
    exact obstacle located.symm
  rw [on_makeDirectories_of_settled filled (by rw [located]; simpa using obstacle),
    on_ensureDirectory, on_makeDirectory, located]
  dsimp only
  rw [isDirectory_of_error located]
  rfl

section

variable {fs after : FileSystem} {p parent : Path} {cause : Cause}

theorem free_of_makeDirectories (descends : Descends p)
    (found : p.properParent? = some parent) (missing : fs.locate p = .error .notFound) :
    ((makeDirectories parent).on fs).2.node? (p.location fs.origin) = none := by
  obtain ⟨dots, name, leg⟩ := descends.exists_leg found
  have down : ".." ∉ parent.steps :=
    Path.notMem_steps_of_parent? (Path.properParent?_iff.1 found).1 descends.plain
  have free : fs.node? (p.location fs.origin) = none :=
    free_of_walk descends.plain (descends.walk missing)
  have frame : AgreeOff {place | place ∈ parent.way fs.origin} fs
      ((makeDirectories parent).on fs).2 := makeDirectories_frame fun _ member _ => member
  rw [← frame.node?, free]
  intro member
  have short : p.location fs.origin <+: parent.location fs.origin := prefix_of_mem_scanl down member
  have size := short.length_le
  rw [leg.location, List.length_append, List.length_singleton] at size
  omega

theorem directory_of_relative {location : Location} (relative : p.isAbsolute = false)
    (located : fs.locate p = .ok location) : fs.node? fs.origin = some .directory := by
  have sound := flaw?_of_locate located
  obtain ⟨first, rest, shape⟩ := List.exists_cons_of_ne_nil
    (Path.steps_ne_nil (isEmpty_of_flaw? sound) relative)
  rw [locate, sound, Path.start, relative, shape] at located
  exact directory_of_walk located

theorem lookup_of_locate {location : Location} (found : p.properParent? = some parent)
    (located : fs.locate p = .ok location) : fs.lookup parent = .ok .directory := by
  have sound := flaw?_of_locate located
  obtain ⟨rooted, dots, name, dots', steps, -⟩ :=
    Path.steps_of_parent? (Path.properParent?_iff.1 found).1
  have same : p.start fs.origin = parent.start fs.origin := by rw [Path.start, Path.start, rooted]
  rw [locate, sound, steps, same, List.append_assoc] at located
  dsimp only at located
  rw [walk_append] at located
  cases walked : fs.walk (parent.start fs.origin) parent.steps with
  | error cause => simp [walked] at located
  | ok between =>
    rw [walked] at located
    have reached : fs.locate parent = .ok between := by
      rw [locate, flaw?_of_properParent? found sound]
      exact walked
    obtain ⟨first, rest, shape⟩ : ∃ first rest, dots ++ name :: dots' = first :: rest :=
      List.exists_cons_of_ne_nil (by simp)
    rw [shape] at located
    simp only [lookup, reached, directory_of_walk located, bind, Except.bind]

theorem locate_child_ne {name : String} (ordinary : Path.Ordinary name)
    (found : (p.child name).properParent? = some p) (known : fs.lookup p ≠ .error .notFound) :
    fs.locate (p.child name) ≠ .error .notFound := by
  intro missing
  apply known
  have sound := flaw?_of_missing (Path.isEmpty_of_parent? (Path.properParent?_iff.1 found).1) missing
  rw [locate, sound, Path.start, Path.isAbsolute_child p ordinary.isName,
    Path.steps_child p ordinary.isName] at missing
  dsimp only at missing
  rw [walk_append] at missing
  have above : fs.locate p = fs.walk (p.start fs.origin) p.steps := by
    rw [locate, flaw?_of_properParent? found sound]
  rw [lookup, above, Path.start]
  cases walked : fs.walk (if p.isAbsolute then [] else fs.origin) p.steps with
  | error cause =>
    rw [walked] at missing
    rw [Except.error.inj missing]
    rfl
  | ok location =>
    rw [walked] at missing
    dsimp only at missing
    rcases there : fs.node? location with _ | _ | _
    · simp [bind, Except.bind, there]
    · rw [← List.nil_append [name], walk_dots there (by simp) ordinary.notDot ordinary.notDots]
        at missing
      split_ifs at missing
      cases missing
    · simp [walk, there] at missing

/-- With the parent made, the directory itself is all that is left to make, if its name will do. -/
theorem locate_after_parent (descends : Descends p)
    (found : p.properParent? = some parent) (missing : fs.locate p = .error .notFound)
    (made : (makeDirectories parent).on fs = (.ok (), after)) :
    after.locate p = .error .nameTooLong ∨
      ∃ location, after.locate p = .ok location ∧ after.node? location = none := by
  obtain ⟨dots, name, leg⟩ := descends.exists_leg found
  have there := isDirectory_of_makeDirectories (Path.properParent?_iff.1 found).2 made
  obtain ⟨location, reached, there⟩ := isDirectory_iff.1 there
  have free := free_of_makeDirectories descends found missing
  have origin : fs.origin = after.origin := by
    have same := (makeAll_frame (lineage (parent.chars.length + 1) parent).reverse fs).origin
    rwa [← makeDirectories, made] at same
  rw [made, leg.location, origin, ← eq_of_locate reached] at free
  rw [leg.locate, reached]
  dsimp only
  rw [walk_dots there leg.dotted leg.notDot leg.notDots]
  split_ifs
  · exact .inl rfl
  · exact .inr ⟨_, rfl, free⟩

theorem missing_of_failed (descends : Descends p) (found : p.properParent? = some parent)
    (missing : fs.locate p = .error .notFound)
    (failed : (makeDirectories parent).on fs = (.error cause, after)) :
    fs.locate parent = .error .notFound := by
  refine ((descends.missing_iff found).1 missing).resolve_right ?_
  rintro ⟨location, reached, free⟩
  rw [on_makeDirectories_of_settled (Path.properParent?_iff.1 found).2 (by simp [reached]),
    on_ensureDirectory, on_makeDirectory, reached] at failed
  simp [free] at failed

/-- Directories that cannot all be made are stopped by something in the way, not for want of a
parent. -/
theorem locate_of_failed (based : fs.node? fs.origin = some .directory) (descends : Descends p)
    (missing : fs.locate p = .error .notFound)
    (failed : (makeDirectories p).on fs = (.error cause, after)) :
    after.locate p = .error cause ∧ cause ≠ .notFound := by
  induction size : p.chars.length using Nat.strong_induction_on generalizing p with
  | _ size ih =>
    subst size
    obtain ⟨parent, found⟩ := descends.exists_properParent based missing
    obtain ⟨dots, name, leg⟩ := descends.exists_leg found
    rw [on_makeDirectories_of_missing found missing] at failed
    rcases made : (makeDirectories parent).on fs with ⟨earlier | ⟨⟩, between⟩ <;> rw [made] at failed
    · cases failed
      have gone := missing_of_failed descends found missing made
      obtain ⟨stopped, obstacle⟩ := ih _ (Path.length_of_parent? (Path.properParent?_iff.1 found).1)
        (descends.properParent based found gone) gone made rfl
      rw [leg.locate, stopped]
      exact ⟨rfl, obstacle⟩
    · dsimp only at failed
      rw [on_ensureDirectory, on_makeDirectory] at failed
      rcases locate_after_parent descends found missing made with
        long | ⟨location, reached, free⟩
      · rw [long, isDirectory_of_error long] at failed
        cases failed
        exact ⟨long, by decide⟩
      · simp [reached, free] at failed

end

end Action

end GuidedExploration.FileSystem
