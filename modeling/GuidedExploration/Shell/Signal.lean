import GuidedExploration.Dict
import GuidedExploration.Text.Numeral

/-!
The signals that processes are sent.
-/

set_option autoImplicit false

namespace GuidedExploration.Shell

def signals : List (String × Nat) :=
  [("HUP", 1), ("INT", 2), ("QUIT", 3), ("ILL", 4), ("TRAP", 5), ("ABRT", 6), ("BUS", 7),
   ("FPE", 8), ("KILL", 9), ("USR1", 10), ("SEGV", 11), ("USR2", 12), ("PIPE", 13), ("ALRM", 14),
   ("TERM", 15), ("STKFLT", 16), ("CHLD", 17), ("CONT", 18), ("STOP", 19), ("TSTP", 20),
   ("TTIN", 21), ("TTOU", 22), ("URG", 23), ("XCPU", 24), ("XFSZ", 25), ("VTALRM", 26),
   ("PROF", 27), ("WINCH", 28), ("IO", 29), ("PWR", 30), ("SYS", 31)]

def signal? (text : String) : Option Nat :=
  match Text.natural? text.toList with
  | some number => if number ≤ 64 then some number else none
  | none =>
    let name := if text.startsWith "SIG" then String.ofList (text.toList.drop 3) else text
    signals.lookup name

def signalName (number : Nat) : String :=
  ((signals.find? fun (_, n) => n == number).map Prod.fst).getD (Text.natural number)

inductive Effect where
  | nothing
  | goesOn
  | halts
  | ends
  deriving DecidableEq

def effect : Nat → Effect
  | 0 | 17 | 23 | 28 => .nothing
  | 18 => .goesOn
  | 19 | 20 | 21 | 22 => .halts
  | _ => .ends

/-- What is to be done about a signal, if a process has arranged for that. Two signals allow no
arrangements. -/
def arranged? (traps : Dict String String) (signal : Nat) : Option String :=
  if signal = 9 || signal = 19 then none else traps.get? (signalName signal)

/-- What is said of a process that a signal ended; nothing is said of an interruption. -/
def lastWords? : Nat → Option String
  | 1 => some "Hangup"
  | 3 => some "Quit"
  | 4 => some "Illegal instruction"
  | 6 => some "Aborted"
  | 7 => some "Bus error"
  | 8 => some "Floating point exception"
  | 9 => some "Killed"
  | 10 => some "User defined signal 1"
  | 11 => some "Segmentation fault"
  | 12 => some "User defined signal 2"
  | 14 => some "Alarm clock"
  | 15 => some "Terminated"
  | _ => none

end GuidedExploration.Shell
