import GuidedExploration.Proofs.FileSystem.Location
import GuidedExploration.Proofs.FileSystem.Writing
import Mathlib.Data.Set.Basic

/-!
What an action leaves alone. Removing a directory touches nothing but the places in it, and making
directories nothing but free places.
-/

set_option autoImplicit false

namespace GuidedExploration.FileSystem

def within (outer : Location) : Set Location := {inner | outer <+: inner}

theorem isWithin_iff {outer inner : Location} : isWithin outer inner = true ↔ inner ∈ within outer :=
  List.isPrefixOf_iff_prefix

theorem notMem_within {outer outer' : Location} (outside : outer ∉ within outer')
    (outside' : outer' ∉ within outer) : ∀ place ∈ within outer, place ∉ within outer' := by
  intro place inside inside'
  rcases List.prefix_or_prefix_of_prefix inside inside' with nested | nested
  · exact outside' nested
  · exact outside nested

theorem isBelow_eq_false {outer inner : Location} (outside : inner ∉ within outer) :
    isBelow outer inner = false := by
  rw [isBelow, Bool.eq_false_iff.2 (mt isWithin_iff.1 outside), Bool.false_and]

structure AgreeOff (region : Set Location) (fs fs' : FileSystem) : Prop where
  origin : fs.origin = fs'.origin
  nodes : ∀ location ∉ region, fs.nodes.get? location = fs'.nodes.get? location

section

variable {region region' : Set Location} {fs fs' fs'' : FileSystem}

namespace AgreeOff

theorem refl (region : Set Location) (fs : FileSystem) : AgreeOff region fs fs :=
  ⟨rfl, fun _ _ => rfl⟩

theorem symm (agree : AgreeOff region fs fs') : AgreeOff region fs' fs :=
  ⟨agree.origin.symm, fun location outside => (agree.nodes location outside).symm⟩

theorem trans (first : AgreeOff region fs fs') (second : AgreeOff region fs' fs'') :
    AgreeOff region fs fs'' :=
  ⟨first.origin.trans second.origin, fun location outside =>
    (first.nodes location outside).trans (second.nodes location outside)⟩

theorem mono (agree : AgreeOff region fs fs') (larger : region ⊆ region') :
    AgreeOff region' fs fs' :=
  ⟨agree.origin, fun location outside => agree.nodes location fun inside => outside (larger inside)⟩

theorem node? (agree : AgreeOff region fs fs') {location : Location} (outside : location ∉ region) :
    fs.node? location = fs'.node? location := by
  rw [FileSystem.node?, FileSystem.node?, agree.nodes location outside]

theorem eq_of_apart (here : AgreeOff region fs fs') (elsewhere : AgreeOff region' fs fs')
    (apart : ∀ location ∈ region, location ∉ region') : fs = fs' := by
  have nodes : fs.nodes = fs'.nodes := by
    apply Dict.ext
    intro location
    by_cases inside : location ∈ region
    · exact elsewhere.nodes location (apart location inside)
    · exact here.nodes location inside
  obtain ⟨nodes₁, origin₁⟩ := fs
  obtain ⟨nodes₂, origin₂⟩ := fs'
  cases here.origin
  cases nodes
  rfl

end AgreeOff

theorem agreeOff_put (fs : FileSystem) {location : Location} (node : Node)
    (inside : location ∈ region) : AgreeOff region fs (fs.put location node) := by
  refine ⟨(origin_put fs location node).symm, fun other outside => ?_⟩
  have apart : other ≠ location := fun same => outside (same ▸ inside)
  exact (get?_put_of_ne fs node apart).symm

theorem get?_keep (fs : FileSystem) (kept : Location → Bool)
    (closed : ∀ place name, kept (place ++ [name]) = true → kept place = true) (place : Location) :
    (fs.keep kept closed).nodes.get? place = if kept place then fs.nodes.get? place else none := by
  rw [keep, Dict.get?_filter]
  cases fs.nodes.get? place <;> cases kept place <;> rfl

theorem agreeOff_keep (fs : FileSystem) {kept : Location → Bool}
    {closed : ∀ place name, kept (place ++ [name]) = true → kept place = true}
    (all : ∀ place ∉ region, kept place = true) : AgreeOff region fs (fs.keep kept closed) :=
  ⟨rfl, fun place outside => by rw [get?_keep, if_pos (all place outside)]⟩

theorem agreeOff_clear (fs : FileSystem) (location : Location) :
    AgreeOff (within location) fs (fs.clear location) :=
  agreeOff_keep fs fun _ outside => by simp [isBelow_eq_false outside]

theorem agreeOff_prune (fs : FileSystem) (location : Location) :
    AgreeOff (within location) fs (fs.prune location) :=
  agreeOff_keep fs fun _ outside => by simp [Bool.eq_false_iff.2 (mt isWithin_iff.1 outside)]

theorem agreeOff_strip (fs : FileSystem) (location : Location) (stuck : List Location) :
    AgreeOff (within location) fs (fs.strip location stuck) :=
  agreeOff_keep fs fun _ outside => by simp [Bool.eq_false_iff.2 (mt isWithin_iff.1 outside)]

end

theorem get?_prune (fs : FileSystem) {location place : Location} (inside : place ∈ within location) :
    (fs.prune location).nodes.get? place = none := by
  rw [prune, get?_keep, isWithin_iff.2 inside]
  rfl

namespace Action

theorem removeDirectory_frame (p : Path) (fs : FileSystem) :
    AgreeOff (within (p.location fs.origin)) fs ((removeDirectory p).on fs).2 := by
  rw [on_removeDirectory]
  cases located : fs.locate p with
  | error cause => exact .refl _ fs
  | ok location =>
    rw [← eq_of_locate located]
    have emptied := agreeOff_clear fs location
    rcases fs.lookup p with cause | _ | ⟨contents, executable⟩
    · exact .refl _ fs
    -- Whether dots or the root then stop it or not, nothing else has been changed.
    · dsimp only
      split_ifs
      · exact emptied
      · exact emptied
      · exact emptied
      · exact emptied.trans (agreeOff_prune (fs.clear location) location)
    · exact .refl _ fs

theorem removeDirectory_of_file {p : Path} {fs : FileSystem} {contents : ByteArray}
    {executable : Bool} (there : fs.node? (p.location fs.origin) = some (.file contents executable)) :
    ((removeDirectory p).on fs).2 = fs := by
  rw [on_removeDirectory]
  cases located : fs.locate p with
  | error cause => rfl
  | ok location =>
    rw [← eq_of_locate located] at there
    simp only [lookup, located, there, bind, Except.bind]
    cases p.endsInSlash <;> rfl

def free (fs : FileSystem) (places : Set Location) : Set Location :=
  {location | location ∈ places ∧ fs.node? location = none}

theorem makeDirectory_frame (p : Path) (fs : FileSystem) :
    AgreeOff (free fs {p.location fs.origin}) fs ((makeDirectory p).on fs).2 := by
  rw [on_makeDirectory]
  cases located : fs.locate p with
  | error cause => exact .refl _ fs
  | ok location =>
    dsimp only
    cases found : fs.node? location with
    | some node => exact .refl _ fs
    | none => exact agreeOff_put fs .directory ⟨eq_of_locate located, found⟩

theorem ensureDirectory_frame (p : Path) (fs : FileSystem) :
    AgreeOff (free fs {p.location fs.origin}) fs ((ensureDirectory p).on fs).2 := by
  have frame := makeDirectory_frame p fs
  rw [on_ensureDirectory]
  rcases made : (makeDirectory p).on fs with ⟨cause | ⟨⟩, after⟩
  · exact .refl _ fs
  · rwa [made] at frame

theorem makeAll_frame (paths : List Path) (fs : FileSystem) :
    AgreeOff (free fs {location | ∃ p ∈ paths, location = p.location fs.origin}) fs
      ((makeAll paths).on fs).2 := by
  induction paths with
  | nil => exact .refl _ fs
  | cons p ancestors ih =>
    have first : AgreeOff (free fs {location | ∃ q ∈ p :: ancestors, location = q.location fs.origin}) fs
        ((makeDirectory p).on fs).2 := by
      refine (makeDirectory_frame p fs).mono ?_
      rintro location ⟨same, unused⟩
      exact ⟨⟨p, List.mem_cons_self, same⟩, unused⟩
    have inner : AgreeOff (free fs {location | ∃ q ∈ p :: ancestors, location = q.location fs.origin}) fs
        ((makeAll ancestors).on fs).2 := by
      refine ih.mono ?_
      rintro location ⟨⟨q, member, rfl⟩, unused⟩
      exact ⟨⟨q, List.mem_cons_of_mem _ member, rfl⟩, unused⟩
    rw [on_makeAll_cons]
    rcases made : (makeDirectory p).on fs with ⟨cause | ⟨⟩, after⟩
    · dsimp only
      by_cases missing : cause = .notFound
      · rw [if_pos missing]
        split_ifs
        · exact .refl _ fs
        rcases begun : (makeAll ancestors).on fs with ⟨cause | ⟨⟩, between⟩
        · rwa [begun] at inner
        -- What is free with the ancestors there was free without them.
        · rw [begun] at inner
          refine inner.trans ((ensureDirectory_frame p between).mono ?_)
          rintro location ⟨same, unused⟩
          by_contra taken
          rw [← inner.node? taken] at unused
          exact taken ⟨⟨p, List.mem_cons_self, same.trans (by rw [inner.origin])⟩, unused⟩
      · rw [if_neg missing]
        exact .refl _ fs
    · rwa [made] at first

theorem origin_makeDirectories (p : Path) (fs : FileSystem) :
    fs.origin = ((makeDirectories p).on fs).2.origin :=
  (makeAll_frame _ fs).origin

end Action

end GuidedExploration.FileSystem
