import GuidedExploration.Proofs.FileSystem.Ancestors

/-!
What making and removing directories does, place by place: no more is added than the directory and
its ancestors, and a directory with a name of its own is gone once it is removed.
-/

set_option autoImplicit false

namespace GuidedExploration

namespace Path

def ancestry (p : Path) (origin : Location) : Set Location :=
  {place | ∃ q ∈ FileSystem.Action.lineage (p.chars.length + 1) p, place = q.location origin}

theorem mem_way_of_ancestry {p : Path} {origin place : Location}
    (ancestor : place ∈ p.ancestry origin) : place ∈ p.way origin := by
  obtain ⟨q, member, rfl⟩ := ancestor
  exact FileSystem.Action.mem_way_of_lineage member (q.location_mem_way origin)

end Path

namespace FileSystem

section

variable {fs : FileSystem} {p : Path} {location : Location}

theorem free_within (free : fs.node? location = none) :
    ∀ place ∈ within location, fs.node? place = none := by
  rintro _ ⟨names, rfl⟩
  exact free_below free names

theorem isBelow_iff {outer inner : Location} :
    isBelow outer inner = true ↔ inner ∈ within outer ∧ outer ≠ inner := by
  rw [isBelow, Bool.and_eq_true, isWithin_iff, decide_eq_true_eq]

namespace Action

section

variable {R : FileSystem → FileSystem → Prop}

theorem ensureDirectory_step (refl : ∀ s, R s s) (made : ∀ q s, R s ((makeDirectory q).on s).2)
    (p : Path) (fs : FileSystem) : R fs ((ensureDirectory p).on fs).2 := by
  have first := made p fs
  rw [on_ensureDirectory]
  rcases done : (makeDirectory p).on fs with ⟨cause | ⟨⟩, after⟩
  · exact refl fs
  · rwa [done] at first

theorem makeAll_steps (refl : ∀ s, R s s) (trans : ∀ {s t u}, R s t → R t u → R s u)
    (made : ∀ q s, R s ((makeDirectory q).on s).2) (paths : List Path) (fs : FileSystem) :
    R fs ((makeAll paths).on fs).2 := by
  induction paths with
  | nil => exact refl fs
  | cons p ancestors ih =>
    have first := made p fs
    rw [on_makeAll_cons]
    rcases done : (makeDirectory p).on fs with ⟨cause | ⟨⟩, after⟩
    · dsimp only
      split_ifs
      · exact refl fs
      · rcases begun : (makeAll ancestors).on fs with ⟨cause | ⟨⟩, between⟩ <;> rw [begun] at ih
        · exact ih
        · exact trans ih (ensureDirectory_step refl made p between)
      · exact refl fs
      · exact refl fs
    · rwa [done] at first

end

/-! ## Directories in free places -/

/-- What is there afterwards was there before, or is a directory where there was nothing. -/
def Adds (fs after : FileSystem) : Prop :=
  ∀ place, after.node? place = fs.node? place ∨
    fs.node? place = none ∧ after.node? place = some .directory

theorem Adds.refl (fs : FileSystem) : Adds fs fs := fun _ => .inl rfl

theorem Adds.trans {fs between after : FileSystem} (first : Adds fs between)
    (second : Adds between after) : Adds fs after := by
  intro place
  rcases first place with same | ⟨free, there⟩ <;> rcases second place with same' | ⟨free', there'⟩
  · exact .inl (same'.trans same)
  · exact .inr ⟨same ▸ free', there'⟩
  · exact .inr ⟨free, same'.trans there⟩
  · exact .inr ⟨free, there'⟩

theorem makeDirectory_adds (p : Path) (fs : FileSystem) : Adds fs ((makeDirectory p).on fs).2 := by
  rw [on_makeDirectory]
  cases located : fs.locate p with
  | error cause => exact .refl fs
  | ok location =>
    dsimp only
    cases free : fs.node? location with
    | some node => exact .refl fs
    | none =>
      intro place
      by_cases same : place = location
      · subst same
        exact .inr ⟨free, node?_put_self (admits_of_locate located (by simp [free]) _)⟩
      · exact .inl (node?_put_of_ne fs _ same)

/-- Making a directory adds no more than the directory itself and its ancestors. -/
theorem node?_makeDirectories (p : Path) (fs : FileSystem) (place : Location) :
    ((makeDirectories p).on fs).2.node? place = fs.node? place ∨
      fs.node? place = none ∧ ((makeDirectories p).on fs).2.node? place = some .directory ∧
        place ∈ p.ancestry fs.origin := by
  have frame := makeAll_frame (lineage (p.chars.length + 1) p).reverse fs
  by_cases ancestor : place ∈ p.ancestry fs.origin
  · have adds : Adds fs ((makeDirectories p).on fs).2 :=
      makeAll_steps Adds.refl Adds.trans makeDirectory_adds _ fs
    rcases adds place with same | ⟨free, there⟩
    · exact .inl same
    · exact .inr ⟨free, there, ancestor⟩
  · refine .inl (frame.node? ?_).symm
    rintro ⟨⟨q, member, same⟩, -⟩
    exact ancestor ⟨q, List.mem_reverse.1 member, same⟩

/-! ## Removing what is there -/

theorem prune_clear (fs : FileSystem) (location : Location) :
    (fs.clear location).prune location = fs.prune location := by
  refine FileSystem.ext (Dict.ext fun place => ?_) rfl
  rw [prune, clear, prune, get?_keep, get?_keep, get?_keep]
  by_cases inside : isWithin location place = true
  · simp [inside]
  · simp [inside, isBelow]

theorem removeDirectory_ok {after : FileSystem}
    (removed : (removeDirectory p).on fs = (.ok (), after)) :
    fs.exists? p = true ∧ after = fs.prune (p.location fs.origin) := by
  rw [on_removeDirectory] at removed
  cases located : fs.locate p with
  | error cause => simp [located] at removed
  | ok location =>
    rw [located] at removed
    rcases found : fs.lookup p with cause | _ | ⟨contents, executable⟩ <;> rw [found] at removed <;>
      dsimp only at removed
    · cases (Prod.mk.inj removed).1
    · split_ifs at removed
      · cases (Prod.mk.inj removed).1
      · cases (Prod.mk.inj removed).1
      · cases (Prod.mk.inj removed).1
      · rw [prune_clear, eq_of_locate located] at removed
        exact ⟨by rw [exists?, found]; rfl, (Prod.mk.inj removed).2.symm⟩
    · cases (Prod.mk.inj removed).1

theorem on_removeDirectory_of_named (named : p.Named) (there : isDirectory fs p = true) :
    (removeDirectory p).on fs = (.ok (), fs.prune (p.location fs.origin)) := by
  obtain ⟨location, located, found⟩ := isDirectory_iff.1 there
  have reached := eq_of_locate located
  have inner : p.location fs.origin ≠ [] := named.location_ne_nil fs.origin
  obtain ⟨names, name, steps, notDot, notDots⟩ := named
  have looked : fs.lookup p = .ok .directory := by
    simp only [lookup, located, found, bind, Except.bind]
  rw [on_removeDirectory, located, looked, steps]
  simp [notDot, notDots, inner, prune_clear, reached]

end Action

end

end FileSystem

end GuidedExploration
