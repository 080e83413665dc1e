import GuidedExploration.Path
import GuidedExploration.Text.Cut
import GuidedExploration.Text.Numeral

/-!
Reading the arguments of a command. Options have long names, and a value stands behind an equals
sign or in the next argument, where it may not look like an option. Two dashes end the options.
-/

set_option autoImplicit false

namespace GuidedExploration.CommandLine

inductive Taking where
  | nothing
  | text
  /-- A path is never empty. -/
  | path
  /-- A natural number below `2 ^ 64`. -/
  | number
  deriving DecidableEq, Repr

structure OptionRule where
  name : String
  taking : Taking
  required : Bool := false
  purpose : String

inductive FreeArguments where
  | never
  | behindDashes
  | anywhere
  deriving DecidableEq, Repr

structure Grammar where
  command : String
  purpose : String
  options : List OptionRule
  free : FreeArguments

inductive Refusal where
  | unknown (argument : String)
  | noValue (option : String)
  | unwantedValue (option value : String)
  | badValue (option value : String)
  | repeated (option : String)
  | missing (option : String)
  deriving DecidableEq, Repr

namespace Refusal

def message : Refusal → String
  | unknown argument => s!"unexpected argument '{argument}' found"
  | noValue option => s!"a value is required for '--{option}' but none was supplied"
  | unwantedValue option value => s!"unexpected value '{value}' for '--{option}' found"
  | badValue option value => s!"invalid value '{value}' for '--{option}'"
  | repeated option => s!"the argument '--{option}' cannot be used multiple times"
  | missing option => s!"the argument '--{option}' was not provided"

end Refusal

structure Given where
  options : List (String × String) := []
  free : List String := []
  deriving DecidableEq, Repr

namespace Given

def value? (g : Given) (name : String) : Option String := g.options.lookup name

def has (g : Given) (name : String) : Bool := (g.value? name).isSome

def path? (g : Given) (name : String) : Option Path := (g.value? name).map Path.mk

def number? (g : Given) (name : String) : Option UInt64 :=
  ((g.value? name).bind fun text => Text.signedInteger? text.toList).map fun n =>
    UInt64.ofNat n.toNat

end Given

namespace Grammar

def rule? (g : Grammar) (name : String) : Option OptionRule := g.options.find? (·.name == name)

def accepts (taking : Taking) (text : String) : Bool :=
  match taking with
  | .nothing | .text => true
  | .path => !text.isEmpty
  | .number =>
    text.toList.head? != some '-' &&
      match Text.signedInteger? text.toList with
      | some n => decide (n < 18446744073709551616)
      | none => false

/-- Whether an argument looks like an option; a lone dash does not. -/
def looksLikeOption (argument : String) : Bool :=
  match argument.toList with
  | ['-'] => false
  | '-' :: _ => true
  | _ => false

def long? (argument : String) : Option (String × Option String) :=
  match argument.toList with
  | '-' :: '-' :: c :: s =>
    match Text.cutAt '=' (c :: s) with
    | some (name, value) => some (String.ofList name, some (String.ofList value))
    | none => some (String.ofList (c :: s), none)
  | _ => none

def add (rule : OptionRule) (value : String) (given : Given) : Except Refusal Given :=
  if given.has rule.name then .error (.repeated rule.name)
  else if accepts rule.taking value then
    .ok { given with options := given.options ++ [(rule.name, value)] }
  else .error (.badValue rule.name value)

inductive Reading where
  | help
  | given (given : Given)
  deriving DecidableEq, Repr

/-- Reads arguments from left to right; whatever is found first, a request for help or a mistake,
decides. -/
def readFrom (g : Grammar) : Given → List String → Except Refusal Reading
  | given, [] => .ok (.given given)
  | given, argument :: rest =>
    if argument = "--" then
      match rest, g.free with
      | [], _ => .ok (.given given)
      | first :: _, .never => .error (.unknown first)
      | rest, _ => .ok (.given { given with free := given.free ++ rest })
    else
      match long? argument with
      | some ("help", none) => .ok .help
      | some ("help", some value) => .error (.unwantedValue "help" value)
      | some (name, attached) =>
        match g.rule? name with
        | none => .error (.unknown argument)
        | some rule =>
          match rule.taking, attached, rest with
          | .nothing, none, rest => do readFrom g (← add rule "" given) rest
          | .nothing, some value, _ => .error (.unwantedValue name value)
          | _, some value, rest => do readFrom g (← add rule value given) rest
          | _, none, value :: rest =>
            -- Such a value has to be attached by an equals sign.
            if looksLikeOption value then .error (.noValue name)
            else do readFrom g (← add rule value given) rest
          | _, none, [] => .error (.noValue name)
      | none =>
        if looksLikeOption argument then
          if "-h".toList.isPrefixOf argument.toList then .ok .help else .error (.unknown argument)
        else if g.free = .anywhere then
          readFrom g { given with free := given.free ++ [argument] } rest
        else .error (.unknown argument)

/-- Reads all arguments; every required option has to be there. -/
def read (g : Grammar) (arguments : List String) : Except Refusal Reading :=
  match g.readFrom {} arguments with
  | .error refusal => .error refusal
  | .ok .help => .ok .help
  | .ok (.given given) =>
    match g.options.find? fun rule => rule.required && !given.has rule.name with
    | some rule => .error (.missing rule.name)
    | none => .ok (.given given)

def usage (g : Grammar) : String := s!"Usage: {g.command} [OPTIONS]"

def help (g : Grammar) : String :=
  let line (rule : OptionRule) : String :=
    let value := if rule.taking = .nothing then "" else " <VALUE>"
    s!"      --{rule.name}{value}\n          {rule.purpose}\n"
  s!"{g.purpose}\n\n{g.usage}\n\nOptions:\n" ++ String.join (g.options.map line) ++
    "  -h, --help\n          Print help\n"

end Grammar

end GuidedExploration.CommandLine
