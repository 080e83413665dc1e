import GuidedExploration.Cause
import GuidedExploration.Dict
import GuidedExploration.Path

/-!
File systems as values: directories and files by location, and the directory in which relative
paths start. There are no links, so a location has one name.
-/

set_option autoImplicit false

namespace GuidedExploration

/-- The names on the way from the root. -/
abbrev Location := List String

/-- One step of a path; out of the root is the root. -/
def Location.step (location : Location) (name : String) : Location :=
  if name = "." then location
  else if name = ".." then location.dropLast
  else location ++ [name]

namespace Path

def start (p : Path) (origin : Location) : Location := if p.isAbsolute then [] else origin

/-- The location that the steps of a path lead to, if there is no file on the way. -/
def location (p : Path) (origin : Location) : Location :=
  p.steps.foldl Location.step (p.start origin)

end Path

inductive Node where
  | directory
  | file (contents : ByteArray) (executable : Bool)

instance : DecidableEq Node
  | .directory, .directory => isTrue rfl
  | .directory, .file _ _ => isFalse nofun
  | .file _ _, .directory => isFalse nofun
  | .file ⟨bytes⟩ executable, .file ⟨bytes'⟩ executable' =>
    if h : bytes = bytes' ∧ executable = executable' then isTrue (by rw [h.1, h.2])
    else isFalse fun same => h (by cases same; exact ⟨rfl, rfl⟩)

namespace FileSystem

/-- Whatever is listed lies in a directory. The root is one and is not listed. -/
def Grounded (nodes : Dict Location Node) : Prop :=
  ∀ location node, nodes.get? location = some node →
    location ≠ [] ∧
      (location.dropLast ≠ [] → nodes.get? location.dropLast = some .directory)

instance (nodes : Dict Location Node) : Decidable (Grounded nodes) :=
  decidable_of_iff
    (∀ entry ∈ nodes.entries, entry.1 ≠ [] ∧
      (entry.1.dropLast ≠ [] → nodes.get? entry.1.dropLast = some .directory))
    ⟨fun listed location node found => listed (location, node) (nodes.get?_eq_some_iff.1 found),
      fun grounded entry member => grounded entry.1 entry.2 (nodes.get?_eq_some_iff.2 member)⟩

namespace Grounded

variable {nodes : Dict Location Node}

theorem filter (grounded : Grounded nodes) {kept : Location → Bool}
    (closed : ∀ place name, kept (place ++ [name]) = true → kept place = true) :
    Grounded (nodes.filter fun location _ => kept location) := by
  intro location node found
  rw [Dict.get?_filter, Option.filter_eq_some_iff] at found
  obtain ⟨inner, above⟩ := grounded location node found.1
  refine ⟨inner, fun deep => ?_⟩
  rw [Dict.get?_filter, above deep, Option.filter_some, if_pos]
  apply closed location.dropLast (location.getLast inner)
  rw [List.dropLast_concat_getLast]
  exact found.2

/-- A node that is put into a directory is grounded. A file must not take the place of a directory,
which may hold something. -/
theorem insert (grounded : Grounded nodes) {location : Location} {node : Node}
    (inner : location ≠ [])
    (above : location.dropLast ≠ [] → nodes.get? location.dropLast = some .directory)
    (kept : node = .directory ∨ nodes.get? location ≠ some .directory) :
    Grounded (nodes.insert location node) := by
  have shorter : ∀ {place : Location}, place ≠ [] → place.dropLast ≠ place := by
    intro place filled same
    have sizes := congrArg List.length same
    have positive := List.length_pos_iff.2 filled
    rw [List.length_dropLast] at sizes
    omega
  intro other found there
  by_cases same : other = location
  · subst same
    refine ⟨inner, fun deep => ?_⟩
    rw [Dict.get?_insert_of_ne _ _ (shorter inner), above deep]
  · rw [Dict.get?_insert_of_ne _ _ same] at there
    obtain ⟨inner', above'⟩ := grounded other found there
    refine ⟨inner', fun deep => ?_⟩
    by_cases around : other.dropLast = location
    -- What lay in the location goes on to lie in a directory.
    · rw [around] at above' deep ⊢
      rw [Dict.get?_insert_self, kept.resolve_right (not_not_intro (above' deep))]
    · rw [Dict.get?_insert_of_ne _ _ around, above' deep]

end Grounded

end FileSystem

@[ext] structure FileSystem where
  nodes : Dict Location Node
  /-- The directory in which relative paths start. -/
  origin : Location
  grounded : FileSystem.Grounded nodes := by decide +kernel
  deriving DecidableEq

namespace FileSystem

def empty : FileSystem := { nodes := .empty, origin := [] }

def node? (fs : FileSystem) (location : Location) : Option Node :=
  if location.isEmpty then some .directory else fs.nodes.get? location

def isDirectory (fs : FileSystem) (location : Location) : Bool :=
  fs.node? location == some .directory

/-- Whether a node can be put at a location: into a directory, and a file only where there is no
directory. -/
def Admits (fs : FileSystem) (location : Location) (node : Node) : Prop :=
  location ≠ [] ∧ fs.node? location.dropLast = some .directory ∧
    (node = .directory ∨ fs.node? location ≠ some .directory)

instance (fs : FileSystem) (location : Location) (node : Node) :
    Decidable (fs.Admits location node) :=
  inferInstanceAs (Decidable (_ ∧ _ ∧ _))

theorem Admits.grounded {fs : FileSystem} {location : Location} {node : Node}
    (admits : fs.Admits location node) : Grounded (fs.nodes.insert location node) := by
  obtain ⟨inner, above, kept⟩ := admits
  refine fs.grounded.insert inner (fun deep => ?_) ?_
  · simpa [node?, deep] using above
  · simpa [node?, inner] using kept

def put (fs : FileSystem) (location : Location) (node : Node) : FileSystem :=
  if admits : fs.Admits location node then
    { fs with nodes := fs.nodes.insert location node, grounded := admits.grounded }
  else fs

def keep (fs : FileSystem) (kept : Location → Bool)
    (closed : ∀ place name, kept (place ++ [name]) = true → kept place = true) : FileSystem :=
  { fs with
    nodes := fs.nodes.filter fun location _ => kept location
    grounded := fs.grounded.filter closed }

def isWithin (outer inner : Location) : Bool := outer.isPrefixOf inner

def isBelow (outer inner : Location) : Bool := isWithin outer inner && decide (outer ≠ inner)

theorem isWithin_append {outer inner : Location} (inside : isWithin outer inner = true)
    (further : List String) : isWithin outer (inner ++ further) = true :=
  List.isPrefixOf_iff_prefix.2
    ((List.isPrefixOf_iff_prefix.1 inside).trans (List.prefix_append inner further))

theorem isBelow_append {outer inner : Location} (inside : isWithin outer inner = true)
    (name : String) : isBelow outer (inner ++ [name]) = true := by
  have size := (List.isPrefixOf_iff_prefix.1 inside).length_le
  have apart : outer ≠ inner ++ [name] := by
    rintro rfl
    rw [List.length_append, List.length_singleton] at size
    omega
  simp [isBelow, isWithin_append inside, apart]

/-- Removes what lies below a location. -/
def clear (fs : FileSystem) (location : Location) : FileSystem :=
  fs.keep (fun inner => !isBelow location inner) fun place name outside => by
    by_cases inside : isWithin location place = true
    · simp [isBelow_append inside] at outside
    · simp [isBelow, inside]

/-- Removes a location and all that lies below it. -/
def prune (fs : FileSystem) (location : Location) : FileSystem :=
  fs.keep (fun inner => !isWithin location inner) fun place name outside => by
    by_cases inside : isWithin location place = true
    · simp [isWithin_append inside] at outside
    · simp [inside]

/-- Removes a location and all that lies below it, except for what is stuck there, told by the names on
the way from the location, and the directories around that. -/
def strip (fs : FileSystem) (location : Location) (stuck : List Location) : FileSystem :=
  fs.keep
    (fun inner => !isWithin location inner ||
      stuck.any fun names => isWithin inner (location ++ names))
    fun place name kept => by
      by_cases inside : isWithin location place = true
      · simp only [isWithin_append inside, Bool.not_true, Bool.false_or, List.any_eq_true] at kept
        obtain ⟨names, listed, around⟩ := kept
        simp only [inside, Bool.not_true, Bool.false_or, List.any_eq_true]
        exact ⟨names, listed, List.isPrefixOf_iff_prefix.2
          ((List.prefix_append place [name]).trans (List.isPrefixOf_iff_prefix.1 around))⟩
      · simp [inside]

/-- What lies below a location, by the names on the way from there. -/
def below (fs : FileSystem) (location : Location) : List (Location × Node) :=
  fs.nodes.entries.filterMap fun (inner, node) =>
    if isBelow location inner then some (inner.drop location.length, node) else none

def names (fs : FileSystem) (location : Location) : List String :=
  (fs.below location).filterMap fun (inner, _) =>
    match inner with
    | [name] => some name
    | _ => none

def nameLimit : Nat := 255

def pathLimit : Nat := 4095

/-- Follows names from a location. Every location on the way must be a directory; the last one
need not exist. -/
def walk (fs : FileSystem) : Location → List String → Except Cause Location
  | location, [] => .ok location
  | location, name :: rest =>
    match fs.node? location with
    | none => .error .notFound
    | some (.file _ _) => .error .notADirectory
    | some .directory =>
      if name = "." then walk fs location rest
      else if name = ".." then walk fs location.dropLast rest
      else if nameLimit < name.utf8ByteSize then .error .nameTooLong
      else walk fs (location ++ [name]) rest

def flaw? (p : Path) : Option Cause :=
  if p.chars.contains (Char.ofNat 0) then some .nulInPath
  else if p.isEmpty then some .notFound
  else if pathLimit < p.text.utf8ByteSize then some .nameTooLong
  else none

/-- The location of a path that may not exist. -/
def locate (fs : FileSystem) (p : Path) : Except Cause Location :=
  match flaw? p with
  | some cause => .error cause
  | none => fs.walk (p.start fs.origin) p.steps

/-- What is at a path; behind a slash at its end there must be a directory. -/
def lookup (fs : FileSystem) (p : Path) : Except Cause Node := do
  let location ← fs.locate p
  match fs.node? location with
  | none => .error .notFound
  | some (.file contents executable) =>
    if p.endsInSlash then .error .notADirectory else .ok (.file contents executable)
  | some .directory => .ok .directory

def exists? (fs : FileSystem) (p : Path) : Bool := (fs.lookup p).isOk

def bytes (fs : FileSystem) (p : Path) : Except Cause ByteArray := do
  match ← fs.lookup p with
  | .file contents _ => .ok contents
  | .directory => .error .isADirectory

def text (fs : FileSystem) (p : Path) : Except Cause String := do
  let contents ← fs.bytes p
  match String.fromUTF8? contents with
  | some text => .ok text
  | none => .error .notText

def list (fs : FileSystem) (p : Path) : Except Cause (List String) := do
  let location ← fs.locate p
  match ← fs.lookup p with
  | .directory => .ok (fs.names location)
  | .file _ _ => .error .notADirectory

end FileSystem

end GuidedExploration
