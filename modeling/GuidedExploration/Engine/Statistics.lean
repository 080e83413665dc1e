import GuidedExploration.FileSystem.Basic
import GuidedExploration.Text.Blank
import GuidedExploration.Text.Utf8

/-!
The engine's statistics: one key and its value on a line, parted by the first colon. Of several
lines with one key the last counts. Beside them, the number of generated tests.
-/

set_option autoImplicit false

namespace GuidedExploration

abbrev Statistics := Dict String String

namespace Statistics

open Text

structure Reading where
  statistics : Statistics := .empty
  /-- Lines that set no key. -/
  skippedLines : Nat := 0
  fileMissing : Bool := false
  deriving DecidableEq

def entry? (line : List Char) : Option (String × String) :=
  (cutAt ':' (trim line)).bind fun (key, value) =>
    if (trim key).isEmpty then none
    else some (String.ofList (trim key), String.ofList (trim value))

def read (text : List Char) : Reading :=
  let entries := (lines text).map entry?
  { statistics := .ofList (entries.filterMap id)
    skippedLines := entries.countP Option.isNone }

def fileName : String := "info"

/-- Reads a statistics file. One that is absent, or cannot be read, holds none. -/
def ofFile (fs : FileSystem) (p : Path) : Reading :=
  match fs.bytes p with
  | .ok contents => read (Utf8.decodeLossy contents.toList)
  | .error _ => { fileMissing := true }

end Statistics

/-- Whether a name is that of a generated test. A name may be any bytes and is read as text. -/
def isTestName (name : List UInt8) : Bool :=
  let text := Text.Utf8.decodeLossy name
  "test".toList.isPrefixOf text && ".ktest".toList.isSuffixOf text

def countTestNames (names : List (List UInt8)) : Nat := names.countP isTestName

/-- The number of entries of a directory that are named like tests; none if there is no such
directory. -/
def countTests (fs : FileSystem) (p : Path) : Nat :=
  match fs.list p with
  | .ok names => countTestNames (names.map fun name => name.toUTF8.toList)
  | .error _ => 0

end GuidedExploration
