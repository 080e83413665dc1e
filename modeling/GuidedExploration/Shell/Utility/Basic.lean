import GuidedExploration.Shell.Process

/-!
Utilities take their arguments and give their status. This module holds what they share: options,
messages, and the bytes behind an operand.
-/

set_option autoImplicit false

namespace GuidedExploration.Shell.Utility

def fail (utility problem : String) : Run Nat := do
  complain s!"{utility}: {problem}"
  return 1

def misuse (utility problem : String) : Run Nat := do
  complain s!"{utility}: {problem}"
  complain s!"Try '{utility} --help' for more information."
  return 1

def unknownOption (utility option : String) : Run Nat :=
  misuse utility s!"unrecognized option '{option}'"

def options : List String → List Char × List String
  | [] => ([], [])
  | "--" :: operands => ([], operands)
  | word :: rest =>
    match word.toList with
    | '-' :: c :: letters =>
      let (more, operands) := options rest
      (c :: letters ++ more, operands)
    | _ => ([], word :: rest)

def longOption? (arguments : List String) : Option String :=
  (arguments.takeWhile fun word => word != "--").find? fun word =>
    word.startsWith "--"

def forEach (operands : List String) (act : String → Run Nat) : Run Nat :=
  operands.foldlM (fun status operand => do
    let next ← act operand
    return if next = 0 then status else next) 0

def contentsOf (operand : String) : Run (Except Cause (List UInt8)) := do
  if operand == "-" || operand == "/dev/stdin" then
    let s ← get
    set { s with input := [] }
    return .ok s.input
  else if operand == "/dev/null" then return .ok []
  else return ((← get).files.bytes (← pathOf operand)).map ByteArray.toList

end GuidedExploration.Shell.Utility
