import GuidedExploration.FileSystem.Basic

/-!
Reading a file piece by piece. A file that could be opened may still fail to be read, before its
first byte or behind any of them.
-/

set_option autoImplicit false

namespace GuidedExploration

/-- What an open file gives: bytes up to its end, or up to where reading it fails. -/
structure Source where
  bytes : List UInt8
  failure : Option Cause := none
  deriving DecidableEq

/-- Opens a file for reading. A directory can be opened, and only reading from it fails. -/
def FileSystem.source (fs : FileSystem) (p : Path) : Except Cause Source := do
  match ← fs.lookup p with
  | .file contents _ => .ok { bytes := contents.toList }
  | .directory => .ok { bytes := [], failure := some .isADirectory }

end GuidedExploration
