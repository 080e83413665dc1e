import GuidedExploration.CommandLine.Program
import GuidedExploration.FileSystem.Changes
import GuidedExploration.Shell.Launch
import Std.Time.Zoned

/-!
The program. Its first argument names a command, and the others are the arguments of that command.
The files that the command looks at are read, the command works on them as on a value, and what it
changed is written back. Engines and profiling commands are scripts.
-/

set_option autoImplicit false

namespace GuidedExploration

open CommandLine

def locationText (location : Location) : String := "/" ++ "/".intercalate location

/-- What is at a location on disk. Files count as programs; what can be opened and not be read is a
directory. -/
def nodeOnDisk? (location : Location) : IO (Option Node) := do
  match ← (IO.FS.Handle.mk (locationText location) .read).toBaseIO with
  | .error _ => return none
  | .ok handle =>
    match ← handle.readBinToEnd.toBaseIO with
    | .ok contents => return some (.file contents true)
    | .error _ => return some .directory

/-- Reads what is at a path, or the first directory above it. -/
def readPath (files : FileSystem) (p : Path) : IO FileSystem := do
  let location := p.location files.origin
  for dropped in List.range location.length do
    let location := location.take (location.length - dropped)
    if (files.node? location).isSome then return files
    if let some node ← nodeOnDisk? location then return files.place location node
  return files

def readAll (files : FileSystem) (footprint : Footprint) : IO FileSystem :=
  (footprint.reads ++ footprint.empties).foldlM readPath files

def apply : FileSystem.Change → IO Unit
  | .remove location => do
    match ← (IO.FS.removeFile (locationText location)).toBaseIO with
    | .ok () => return
    | .error _ => IO.FS.removeDirAll (locationText location)
  | .makeDirectory location => IO.FS.createDirAll (locationText location)
  | .write location contents _ => do
    IO.FS.createDirAll (locationText location.dropLast)
    IO.FS.writeBinFile (locationText location) contents

def localSession : IO Session := do
  let names := ["KLEE_BIN", "EVP_ROOT"]
  let values ← names.mapM fun name => return (name, ← IO.getEnv name)
  let temporary := (← IO.getEnv "TMPDIR").getD "/tmp"
  let suffix := Text.natural (← IO.monoNanosNow)
  let now ← Std.Time.PlainDateTime.now
  let date := [now.date.year.toInt, now.date.month.val, now.date.day.val].map Int.toNat
  let time := [now.time.hour.val, now.time.minute.val, now.time.second.val].map Int.toNat
  return {
    environment := fun name => (values.lookup name).join
    host :=
      { launch := Shell.launch
        temporary := ⟨temporary⟩
        suffixes := fun variant => [suffix ++ "-" ++ variant.name] }
    runStamp := stamp "-" date time
    batchStamp := stamp "_" date time }

def runEntry (entry : Entry) (arguments : List String) : IO UInt32 := do
  let session ← localSession
  let here : Path := ⟨toString (← IO.currentDir)⟩
  let start := FileSystem.empty.place here.steps .directory
  let start := { start with origin := here.steps }
  let first ← readAll start (entry.footprintOf session arguments start)
  let footprint := entry.footprintOf session arguments first
  let before ← readAll first footprint
  let (leaving, after) := entry.run session arguments before
  if after ≠ before then
    let emptied := footprint.empties.map (·.location before.origin)
    for location in emptied do
      if before.isDirectory location then apply (.remove location)
    let before := emptied.foldl FileSystem.prune before
    for change in FileSystem.changes before after do
      apply change
  IO.print leaving.output
  IO.eprint leaving.errors
  return leaving.exitCode

end GuidedExploration

def main (arguments : List String) : IO UInt32 := do
  match arguments with
  | [] =>
    IO.eprint GuidedExploration.CommandLine.usage
    return 2
  | command :: arguments =>
    match GuidedExploration.CommandLine.entry? command with
    | some entry => GuidedExploration.runEntry entry arguments
    | none =>
      IO.eprint GuidedExploration.CommandLine.usage
      return 2
