import GuidedExploration.Engine.Run
import GuidedExploration.Proofs.FileSystem.Ancestors
import GuidedExploration.Proofs.FileSystem.Locality

/-!
What an engine run itself does to the file system: emptying the output directory, and making and
removing the sandbox.
-/

set_option autoImplicit false

namespace GuidedExploration

open FileSystem

theorem Invocation.presentEnvironment_congr {i : Invocation} {region : Set Location}
    {fs fs' : FileSystem} (agree : AgreeOff region fs fs')
    (avoid : ∀ file ∈ i.environmentFile, file.Avoids fs.origin region) :
    i.presentEnvironment fs = i.presentEnvironment fs' := by
  rw [presentEnvironment, presentEnvironment]
  cases found : i.environmentFile with
  | none => rfl
  | some file =>
    rw [Option.filter_some, Option.filter_some, exists?_congr agree (avoid file found)]

namespace EngineRun

theorem on_clearDirectory (p : Path) (fs : FileSystem) :
    (clearDirectory p).on fs =
      if fs.exists? p then (Action.removeDirectory p).on fs else (.ok (), fs) := by
  rw [clearDirectory, Action.on_bind, Action.on_get]
  dsimp only
  split_ifs <;> rfl

theorem clearDirectory_of_free {p : Path} {fs : FileSystem} (free : fs.exists? p = false) :
    (clearDirectory p).on fs = (.ok (), fs) := by
  rw [on_clearDirectory, free]
  rfl

theorem on_resetDirectory (p : Path) (fs : FileSystem) :
    (resetDirectory p).on fs =
      match (clearDirectory p).on fs with
      | (.ok (), between) => (Action.makeDirectories p).on between
      | (.error cause, between) => (.error cause, between) := by
  rw [resetDirectory, Action.on_bind]
  rcases (clearDirectory p).on fs with ⟨cause | ⟨⟩, between⟩ <;> rfl

theorem on_resetDirectory_of_cleared {p : Path} {fs : FileSystem}
    (cleared : ((clearDirectory p).on fs).1 = .ok ()) :
    (resetDirectory p).on fs =
      (Action.makeDirectories p).on ((clearDirectory p).on fs).2 := by
  rw [on_resetDirectory]
  rcases done : (clearDirectory p).on fs with ⟨cause | ⟨⟩, between⟩
  · rw [done] at cleared
    cases cleared
  · rfl

theorem nodes_of_makeDirectories {p : Path} {fs : FileSystem} {location : Location} {node : Node}
    (there : fs.nodes.get? location = some node) :
    ((Action.makeDirectories p).on fs).2.nodes.get? location = some node := by
  rw [← there]
  refine ((Action.makeAll_frame _ fs).nodes location ?_).symm
  rintro ⟨-, unused⟩
  unfold node? at unused
  split_ifs at unused
  rw [there] at unused
  cases unused

theorem nodes_of_resetDirectory {p : Path} {fs : FileSystem} {location : Location} {node : Node}
    (there : fs.nodes.get? location = some node)
    (kept : ((Action.removeDirectory p).on fs).2.nodes.get? location = some node) :
    ((resetDirectory p).on fs).2.nodes.get? location = some node := by
  have cleared : ((clearDirectory p).on fs).2.nodes.get? location = some node := by
    rw [on_clearDirectory]
    split_ifs
    · exact kept
    · exact there
  rw [on_resetDirectory]
  rcases done : (clearDirectory p).on fs with ⟨cause | ⟨⟩, between⟩ <;> rw [done] at cleared
  · exact cleared
  · exact nodes_of_makeDirectories cleared

theorem nodes_outside_resetDirectory {p : Path} {fs : FileSystem} {location : Location}
    {node : Node} (there : fs.nodes.get? location = some node)
    (outside : location ∉ within (p.location fs.origin)) :
    ((resetDirectory p).on fs).2.nodes.get? location = some node :=
  nodes_of_resetDirectory there
    (((Action.removeDirectory_frame p fs).nodes location outside).symm.trans there)

theorem file_at_resetDirectory {p : Path} {fs : FileSystem} {contents : ByteArray}
    {executable : Bool}
    (there : fs.nodes.get? (p.location fs.origin) = some (.file contents executable))
    (inner : p.location fs.origin ≠ []) :
    ((resetDirectory p).on fs).2.nodes.get? (p.location fs.origin) =
      some (.file contents executable) := by
  apply nodes_of_resetDirectory there
  have found : fs.node? (p.location fs.origin) = some (.file contents executable) := by
    rw [node?, if_neg (by simpa using inner), there]
  rw [Action.removeDirectory_of_file found, there]

theorem clearDirectory_frame (p : Path) (fs : FileSystem) :
    AgreeOff (within (p.location fs.origin)) fs ((clearDirectory p).on fs).2 := by
  rw [on_clearDirectory]
  split_ifs
  · exact Action.removeDirectory_frame p fs
  · exact .refl _ fs

theorem clearDirectory_ignores {origin : Location} {region : Set Location} {p : Path}
    (avoids : p.Avoids origin region) : Ignores origin region (clearDirectory p).on := by
  intro fs fs' alike
  have removed := Action.removeDirectory_ignores avoids fs fs' alike
  have seen : fs.exists? p = fs'.exists? p := by
    obtain ⟨rfl, agree⟩ := alike
    exact exists?_congr agree avoids
  rw [on_clearDirectory, on_clearDirectory, ← seen]
  split_ifs
  · exact removed
  · exact ⟨rfl, alike⟩

theorem resetDirectory_of_free {p : Path} {fs : FileSystem} (free : fs.exists? p = false) :
    (resetDirectory p).on fs = (Action.makeDirectories p).on fs := by
  rw [on_resetDirectory, clearDirectory_of_free free]

theorem exists?_of_error {p : Path} {fs : FileSystem} {cause : Cause}
    (located : fs.locate p = .error cause) : fs.exists? p = false := by
  rw [exists?, lookup, located]
  rfl

theorem exists?_of_free {p : Path} {fs : FileSystem} {location : Location}
    (located : fs.locate p = .ok location) (free : fs.node? location = none) :
    fs.exists? p = false := by
  simp only [exists?, lookup, located, free, bind, Except.bind]
  rfl

section

variable {p parent : Path} {fs : FileSystem} (based : fs.node? fs.origin = some .directory)
  (descends : Descends p) (found : p.properParent? = some parent)
  (missing : fs.locate p = .error .notFound)

include based descends found missing

theorem locate_after_failed_parent {after : FileSystem} {cause : Cause}
    (failed : (Action.makeDirectories parent).on fs = (.error cause, after)) :
    after.locate p = .error cause ∧ cause ≠ .notFound := by
  apply Action.locate_of_failed based descends missing
  rw [Action.on_makeDirectories_of_missing found missing, failed]

/-- Once the parent of a missing directory has been made, or could not be, the directory is not
missing for want of a parent any more. -/
theorem locate_after_parent_ne :
    ((Action.makeDirectories parent).on fs).2.locate p ≠ .error .notFound := by
  rcases made : (Action.makeDirectories parent).on fs with ⟨cause | ⟨⟩, after⟩
  · obtain ⟨stopped, obstacle⟩ := locate_after_failed_parent based descends found missing made
    dsimp only
    rw [stopped]
    simpa using obstacle
  · rcases Action.locate_after_parent descends found missing made with
      long | ⟨location, reached, -⟩
    · simp [long]
    · simp [reached]

theorem exists?_after_parent :
    ((Action.makeDirectories parent).on fs).2.exists? p = false := by
  rcases made : (Action.makeDirectories parent).on fs with ⟨cause | ⟨⟩, after⟩
  · exact exists?_of_error (locate_after_failed_parent based descends found missing made).1
  · rcases Action.locate_after_parent descends found missing made with
      long | ⟨location, reached, free⟩
    · exact exists?_of_error long
    · exact exists?_of_free reached free

/-- A directory may as well be made after its parent has been made. -/
theorem makeDirectories_after_parent :
    (Action.makeDirectories p).on ((Action.makeDirectories parent).on fs).2 =
      (Action.makeDirectories p).on fs := by
  have settled := locate_after_parent_ne based descends found missing
  rw [Action.on_makeDirectories_of_missing found missing]
  rcases made : (Action.makeDirectories parent).on fs with ⟨cause | ⟨⟩, after⟩ <;>
    rw [made] at settled
  · obtain ⟨stopped, obstacle⟩ := locate_after_failed_parent based descends found missing made
    exact Action.on_makeDirectories_of_error stopped obstacle
  · have filled := Path.isEmpty_of_parent? (Path.properParent?_iff.1 found).1
    exact Action.on_makeDirectories_of_settled filled settled

end

end EngineRun

namespace Sandbox

/-! ## Removing a sandbox -/

section

variable {stuck : Stuck} {sandbox : Path}

def Removable (stuck : Stuck) (sandbox : Path) (fs : FileSystem) : Prop :=
  ∀ location, fs.locate sandbox = .ok location → stuck (fs.below location) = []

theorem remove_of_removable {fs : FileSystem} (removable : Removable stuck sandbox fs) :
    remove stuck sandbox fs = ((Action.removeDirectory sandbox).on fs).2 := by
  rw [remove]
  cases located : fs.locate sandbox with
  | error cause => rw [Action.on_removeDirectory, located]
  | ok location => simp only [removable location located]

/-- If something in it is stuck, a sandbox stays. -/
theorem node?_remove_of_stuck {fs : FileSystem} {location : Location}
    (located : fs.locate sandbox = .ok location) (left : stuck (fs.below location) ≠ []) :
    (remove stuck sandbox fs).node? location = fs.node? location := by
  rw [remove, located]
  dsimp only
  cases names : stuck (fs.below location) with
  | nil => exact absurd names left
  | cons first rest =>
    have around : isWithin location (location ++ first) = true :=
      isWithin_iff.2 (List.prefix_append _ _)
    simp [node?, strip, get?_keep, around]

theorem remove_frame (stuck : Stuck) (sandbox : Path) (fs : FileSystem) :
    AgreeOff (within (sandbox.location fs.origin)) fs (remove stuck sandbox fs) := by
  rw [remove]
  cases located : fs.locate sandbox with
  | error cause => exact .refl _ fs
  | ok location =>
    dsimp only
    cases stuck (fs.below location) with
    | nil => exact Action.removeDirectory_frame sandbox fs
    | cons first rest =>
      rw [← eq_of_locate located]
      exact agreeOff_strip fs location _

theorem remove_ignores {origin : Location} {region : Set Location}
    (apart : sandbox.Apart origin region) :
    Ignores origin region fun fs => ((), remove stuck sandbox fs) := by
  intro fs fs' alike
  have removed := Action.removeDirectory_ignores apart.avoids fs fs' alike
  obtain ⟨rfl, agree⟩ := alike
  refine ⟨rfl, ?_⟩
  show Alike fs.origin region (remove stuck sandbox fs) (remove stuck sandbox fs')
  rw [remove, remove, ← locate_congr agree apart.avoids]
  cases located : fs.locate sandbox with
  | error cause => exact ⟨rfl, agree⟩
  | ok location =>
    have inside := apart.behind
    rw [← eq_of_locate located] at inside
    dsimp only
    rw [← below_congr agree inside]
    cases stuck (fs.below location) with
    | nil => exact removed.2
    | cons first rest => exact ⟨rfl, agree.keep _ _⟩

end

/-! ## Making a sandbox -/

def candidates (temporary : Path) (label : String) (suffixes : List String) : List Path :=
  suffixes.map (path temporary label)

theorem on_claim_cons (temporary : Path) (label suffix : String) (suffixes : List String)
    (fs : FileSystem) :
    (claim temporary label (suffix :: suffixes)).on fs =
      match (Action.makeDirectory (path temporary label suffix)).on fs with
      | (.ok (), after) => (.ok (path temporary label suffix), after)
      | (.error cause, _) =>
        if cause = .alreadyExists ∧ suffixes ≠ [] then (claim temporary label suffixes).on fs
        else (.error cause, fs) := by
  change (do
    match (Action.makeDirectory (path temporary label suffix)).on (← get) with
    | (.ok (), after) =>
      set after
      return path temporary label suffix
    | (.error cause, _) =>
      if cause = .alreadyExists ∧ suffixes ≠ [] then claim temporary label suffixes
      else throw cause : Action Path).on fs = _
  rw [Action.on_bind, Action.on_get]
  dsimp only
  rcases (Action.makeDirectory (path temporary label suffix)).on fs with ⟨cause | ⟨⟩, after⟩
  · dsimp only
    split_ifs <;> rfl
  · rfl

section

variable {origin : Location} {region : Set Location} {stuck : Path → Stuck} {temporary : Path}
  {label : String}

theorem claim_ok {suffixes : List String} {fs after : FileSystem} {sandbox : Path}
    (claimed : (claim temporary label suffixes).on fs = (.ok sandbox, after)) :
    sandbox ∈ candidates temporary label suffixes ∧
      (Action.makeDirectory sandbox).on fs = (.ok (), after) := by
  induction suffixes with
  | nil => cases claimed
  | cons suffix suffixes ih =>
    rw [on_claim_cons] at claimed
    rcases made : (Action.makeDirectory (path temporary label suffix)).on fs with
      ⟨cause | ⟨⟩, between⟩ <;> rw [made] at claimed
    · dsimp only at claimed
      split_ifs at claimed
      · obtain ⟨member, done⟩ := ih claimed
        exact ⟨List.mem_cons_of_mem _ member, done⟩
      · cases (Prod.mk.inj claimed).1
    · cases claimed
      exact ⟨List.mem_cons_self, made⟩

theorem claim_error {suffixes : List String} {fs after : FileSystem} {cause : Cause}
    (refused : (claim temporary label suffixes).on fs = (.error cause, after)) : after = fs := by
  induction suffixes with
  | nil =>
    cases refused
    rfl
  | cons suffix suffixes ih =>
    rw [on_claim_cons] at refused
    rcases made : (Action.makeDirectory (path temporary label suffix)).on fs with
      ⟨cause | ⟨⟩, between⟩ <;> rw [made] at refused
    · dsimp only at refused
      split_ifs at refused
      · exact ih refused
      · exact (Prod.mk.inj refused).2.symm
    · cases (Prod.mk.inj refused).1

theorem claim_ignores {suffixes : List String}
    (avoid : ∀ q ∈ candidates temporary label suffixes, q.Avoids origin region) :
    Ignores origin region (claim temporary label suffixes).on := by
  induction suffixes with
  | nil => exact Action.throw_ignores _
  | cons suffix suffixes ih =>
    obtain ⟨first, rest⟩ := List.forall_mem_cons.1 avoid
    intro fs fs' alike
    obtain ⟨answer, made, made', done, done', after⟩ :=
      (Action.makeDirectory_ignores first).elim alike
    have later := ih rest fs fs' alike
    rw [on_claim_cons, on_claim_cons, done, done']
    cases answer with
    | ok _ => exact ⟨rfl, after⟩
    | error cause =>
      dsimp only
      split_ifs
      · exact later
      · exact ⟨rfl, alike⟩

theorem seed_ignores {sandbox : Path} (apart : sandbox.Apart origin region) :
    Ignores origin region (seed sandbox).on := by
  have outer : (sandbox.child "dirA").Apart origin region :=
    apart.child (by decide)
  have inner : ((sandbox.child "dirA").child "subdir").Apart origin region :=
    outer.child (by decide)
  apply Action.bind_ignores (Action.makeDirectories_ignores inner.avoids)
  intro _ _ _ _
  apply Action.bind_ignores
  · exact Action.write_ignores (outer.child (by decide)).avoids _
  · intro _ _ _ _
    exact Action.write_ignores (inner.child (by decide)).avoids _

theorem location_greeting (sandbox : Path) (origin : Location) :
    ((sandbox.child "dirA").child "a.txt").location origin =
      sandbox.location origin ++ ["dirA", "a.txt"] :=
  Path.location_grandchild _ (by decide) (by decide) _

theorem location_answer (sandbox : Path) (origin : Location) :
    (((sandbox.child "dirA").child "subdir").child "b.txt").location origin =
      sandbox.location origin ++ ["dirA", "subdir", "b.txt"] := by
  rw [Path.location_child _ (by decide), Path.location_grandchild _ (by decide) (by decide),
    List.append_assoc]
  rfl

theorem seed_frame {sandbox : Path} {fs : FileSystem} (passable : fs.Passable sandbox) :
    AgreeOff (within (sandbox.location fs.origin ++ ["dirA"])) fs ((seed sandbox).on fs).2 := by
  have dirA : Path.Ordinary "dirA" := by decide
  have subdir : Path.Ordinary "subdir" := by decide
  apply Action.bind_frame
  · apply Action.makeDirectories_frame
    intro place member unused
    rcases (Path.mem_way_grandchild dirA subdir).1 member with member | rfl | rfl
    · exact absurd (passable place member) (by simp [unused])
    · exact List.prefix_refl _
    · exact ⟨["subdir"], List.append_assoc _ _ _⟩
  · intro _ between agree
    apply Action.bind_frame
    · refine (Action.write_frame _ _ between).mono (Set.singleton_subset_iff.2 ?_)
      rw [← agree.origin, location_greeting]
      exact ⟨["a.txt"], List.append_assoc _ _ _⟩
    · intro _ later agree'
      refine (Action.write_frame _ _ later).mono (Set.singleton_subset_iff.2 ?_)
      rw [← agree'.origin, ← agree.origin, location_answer]
      exact ⟨["subdir", "b.txt"], by simp⟩

theorem exists_claim {suffixes : List String} {fs after : FileSystem} {sandbox : Path}
    (created : create stuck temporary label suffixes fs = (.ok sandbox, after)) :
    ∃ between, (claim temporary label suffixes).on fs = (.ok sandbox, between) ∧
      (seed sandbox).on between = (.ok (), after) := by
  unfold create at created
  rcases claimed : (claim temporary label suffixes).on fs with ⟨cause | q, between⟩ <;>
    rw [claimed] at created <;> dsimp only at created
  · cases (Prod.mk.inj created).1
  · rcases seeded : (seed q).on between with ⟨cause | ⟨⟩, last⟩ <;> rw [seeded] at created <;>
      cases created
    exact ⟨between, rfl, seeded⟩

theorem create_ok {suffixes : List String} {fs after : FileSystem} {sandbox : Path}
    (created : create stuck temporary label suffixes fs = (.ok sandbox, after)) :
    ((claim temporary label suffixes).on fs).1 = .ok sandbox := by
  obtain ⟨between, claimed, -⟩ := exists_claim created
  rw [claimed]

theorem create_frame (stuck : Path → Stuck) (temporary : Path) (label : String)
    (suffixes : List String) (fs : FileSystem) :
    AgreeOff {place | ∃ q, ((claim temporary label suffixes).on fs).1 = .ok q ∧
      place ∈ within (q.location fs.origin)} fs (create stuck temporary label suffixes fs).2 := by
  rcases claimed : (claim temporary label suffixes).on fs with ⟨cause | sandbox, after⟩
  · rw [create, claimed, claim_error claimed]
    exact .refl _ fs
  · have made := (claim_ok claimed).2
    have first := Action.makeDirectory_frame sandbox fs
    rw [made] at first
    have second := seed_frame (passable_of_isDirectory (Action.isDirectory_of_makeDirectory made))
    rw [← first.origin] at second
    replace second := second.mono fun place inside => (List.prefix_append _ _).trans inside
    have inner : AgreeOff (within (sandbox.location fs.origin)) fs
        (create stuck temporary label suffixes fs).2 := by
      have begun : AgreeOff (within (sandbox.location fs.origin)) fs after := by
        refine first.mono ?_
        rintro place ⟨rfl, -⟩
        exact List.prefix_refl _
      rw [create, claimed]
      dsimp only
      rcases seeded : (seed sandbox).on after with ⟨cause | ⟨⟩, last⟩ <;> rw [seeded] at second
      · have third := remove_frame (stuck sandbox) sandbox last
        rw [← second.origin, ← first.origin] at third
        exact (begun.trans second).trans third
      · exact begun.trans second
    exact inner.mono fun place inside => ⟨sandbox, rfl, inside⟩

theorem create_ignores {suffixes : List String}
    (apart : ∀ q ∈ candidates temporary label suffixes, q.Apart origin region) :
    Ignores origin region (create stuck temporary label suffixes) := by
  intro fs fs' alike
  obtain ⟨answer, made, made', done, done', after⟩ :=
    (claim_ignores fun q member => (apart q member).avoids).elim alike
  rw [create, create, done, done']
  cases answer with
  | error cause => exact ⟨rfl, after⟩
  | ok sandbox =>
    have own := apart sandbox (claim_ok done).1
    obtain ⟨answer, seeded, seeded', filled, filled', after⟩ := (seed_ignores own).elim after
    dsimp only
    rw [filled, filled']
    cases answer with
    | ok _ => exact ⟨rfl, after⟩
    | error cause => exact ⟨rfl, (remove_ignores own seeded seeded' after).2⟩

end

end Sandbox

end GuidedExploration
