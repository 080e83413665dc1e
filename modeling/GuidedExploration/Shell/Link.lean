import GuidedExploration.FileSystem.Basic

/-!
Symbolic links. They belong to the processes of a script; the file system itself has none.
-/

set_option autoImplicit false

namespace GuidedExploration.Shell

abbrev Links := List (Location × String)

namespace Links

def stepLimit : Nat := 4096

/-- Where names lead from a location. A link at the end is followed only if that is asked for. -/
def walk (links : Links) (atEnd : Bool) : Nat → Location → List String → Option Location
  | 0, _, _ => none
  | _ + 1, location, [] => some location
  | fuel + 1, location, name :: rest =>
    if name = "." then walk links atEnd fuel location rest
    else if name = ".." then walk links atEnd fuel location.dropLast rest
    else
      let next := location ++ [name]
      match links.lookup next with
      | none => walk links atEnd fuel next rest
      | some target =>
        if rest.isEmpty && !atEnd then some next
        else
          let p : Path := ⟨target⟩
          walk links atEnd fuel (if p.isAbsolute then [] else location) (p.steps ++ rest)

def locate? (links : Links) (fs : FileSystem) (atEnd : Bool) (p : Path) : Option Location :=
  links.walk atEnd stepLimit (p.start fs.origin) p.steps

def resolve (links : Links) (fs : FileSystem) (atEnd : Bool) (p : Path) : Path :=
  if links.isEmpty then p
  else
    match links.locate? fs atEnd p with
    | none => p
    | some location =>
      ⟨"/" ++ "/".intercalate location ++ if p.endsInSlash && !location.isEmpty then "/" else ""⟩

def node? (links : Links) (fs : FileSystem) (location : Location) : Option Node :=
  (links.walk true stepLimit [] location).bind fs.node?

def prune (links : Links) (fs : FileSystem) : Links :=
  links.filter fun (location, _) =>
    fs.isDirectory location.dropLast && (fs.node? location).isNone

def names (links : Links) (directory : Location) : List String :=
  links.filterMap fun (location, _) =>
    if location.dropLast = directory then location.getLast? else none

/-- A file system with something at the place of each link: what it stands for, or an empty file. -/
def visible (links : Links) (fs : FileSystem) : FileSystem :=
  links.foldl
    (fun fs (location, _) => fs.put location ((links.node? fs location).getD (.file .empty false)))
    fs

def settle (links : Links) (fs : FileSystem) : FileSystem :=
  links.foldl
    (fun fs (location, _) =>
      match links.node? fs location with
      | some (.file contents executable) => fs.put location (.file contents executable)
      | _ => fs)
    fs

end Links

end GuidedExploration.Shell
