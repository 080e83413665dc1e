import GuidedExploration.FileSystem.Basic

/-!
The difference between two file systems, as a list of changes, and putting a node in its place
together with the directories above it.
-/

set_option autoImplicit false

namespace GuidedExploration.FileSystem

inductive Change where
  | remove (location : Location)
  | makeDirectory (location : Location)
  | write (location : Location) (contents : ByteArray) (executable : Bool)

def Change.toward (location : Location) : Node → Change
  | .directory => .makeDirectory location
  | .file contents executable => .write location contents executable

/-- What has to be changed to get from one file system to another one: what is gone is removed, and
then what is new is made. -/
def changes (before after : FileSystem) : List Change :=
  (before.nodes.entries.filterMap fun (location, _) =>
    if (after.node? location).isNone then some (.remove location) else none) ++
  after.nodes.entries.filterMap fun (location, node) =>
    if before.node? location = some node then none else some (.toward location node)

def place (fs : FileSystem) (location : Location) (node : Node) : FileSystem :=
  let above := (List.range location.length).tail.map location.take
  (above.foldl (fun fs location => fs.put location .directory) fs).put location node

end GuidedExploration.FileSystem
