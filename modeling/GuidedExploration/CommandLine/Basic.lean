import GuidedExploration.CommandLine.Grammar
import GuidedExploration.Engine.Run
import GuidedExploration.Fault

/-!
What a command is run in, and what it leaves: an exit code, the text on both outputs, and files.
-/

set_option autoImplicit false

namespace GuidedExploration.CommandLine

structure Session where
  environment : String → Option String
  host : Host
  runStamp : String
  batchStamp : String

structure Leaving where
  exitCode : UInt32
  output : String := ""
  errors : String := ""
  deriving DecidableEq, Repr

namespace Leaving

def done (output : String) : Leaving := { exitCode := 0, output }

/-- Something failed after `output` was shown. -/
def failed (output context : String) (fault : Fault) : Leaving where
  exitCode := 1
  output
  errors := s!"Error: {context}\n\nCaused by:\n    {fault.message}\n"

def refused (g : Grammar) (refusal : Refusal) : Leaving where
  exitCode := 2
  errors := s!"error: {refusal.message}\n\n{g.usage}\n\nFor more information, try '--help'.\n"

end Leaving

def withArguments (g : Grammar) (arguments : List String) (files : FileSystem)
    (run : Given → FileSystem → Leaving × FileSystem) : Leaving × FileSystem :=
  match g.read arguments with
  | .error refusal => (.refused g refusal, files)
  | .ok .help => (.done g.help, files)
  | .ok (.given given) => run given files

end GuidedExploration.CommandLine
