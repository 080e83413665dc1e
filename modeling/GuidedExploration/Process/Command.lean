import GuidedExploration.FileSystem.Actions
import GuidedExploration.Text.Numeral
import GuidedExploration.Text.Utf8

/-!
Commands, and running them for a limited time.

A launcher starts a command and looks at it from time to time, until it is over or its milliseconds
are; how it does so is not said here. What a stopped process did to files stays done.
-/

set_option autoImplicit false

namespace GuidedExploration

structure Command where
  program : String
  arguments : List String
  directory : Option Path := none
  environment : List (String × String) := []
  deriving DecidableEq, Repr

inductive Ending where
  | exited (code : UInt8)
  | signalled (number : UInt8)
  deriving DecidableEq, Repr

namespace Ending

/-- The exit code of a process; death by a signal counts from 128. -/
def code : Ending → Int32
  | exited code => Int32.ofNat code.toNat
  | signalled number => Int32.ofNat (128 + number.toNat)

def isSuccess (ending : Ending) : Bool := decide (ending = .exited 0)

end Ending

inductive Fate where
  /-- It came to its end and wrote this. A stream that something else keeps open when the time is
  over counts as empty. -/
  | ended (ending : Ending) (output errors : List UInt8)
  | stopped
  deriving DecidableEq, Repr

/-- Starts a command and lets it live until the first look at or after so many milliseconds. -/
abbrev Launcher := Command → Nat → FileSystem.Action Fate

inductive Execution where
  | ended (ending : Ending) (output : String)
  | timedOut
  deriving DecidableEq, Repr

namespace Command

def texts (c : Command) : List String :=
  c.program :: c.arguments ++ (c.directory.map Path.text).toList ++
    c.environment.flatMap fun (name, value) => [name, value]

/-- No text that a process is started with may hold a zero character. -/
def hasZero (c : Command) : Bool := c.texts.any fun text => text.toList.contains (Char.ofNat 0)

/-- The milliseconds between two looks at a process. -/
def lookInterval : Nat := 100

def lookFrom (moment : Nat) : Nat := (moment + (lookInterval - 1)) / lookInterval * lookInterval

/-- Runs a command for a limited time. Its errors stand behind its output. -/
def execute (launch : Launcher) (command : Command) (limit : Nat) :
    FileSystem.Action Execution := do
  if command.hasZero then throw .nulInArgument
  match ← launch command limit with
  | .ended ending output errors =>
    return .ended ending
      (String.ofList (Text.Utf8.decodeLossy output ++ Text.Utf8.decodeLossy errors))
  | .stopped => return .timedOut

def seconds (limit : Nat) : String := Text.natural (limit / 1000)

end Command

end GuidedExploration
