import GuidedExploration.Shell.Condition
import GuidedExploration.Shell.Utility.Files
import GuidedExploration.Shell.Utility.Lines
import GuidedExploration.Shell.Utility.Streams

/-!
The utilities that scripts may call by name.
-/

set_option autoImplicit false

namespace GuidedExploration.Shell.Utility

def allButLast (arguments : List String) : Run Nat := do
  forEach arguments fun path => do
    let parent := ((Path.mk path).parent?.map Path.text).getD "/"
    say ((if parent.isEmpty then "." else parent) ++ "\n")
    return 0

def showVariables (arguments : List String) : Run Nat := do
  let environment := (← get).context.environment
  if arguments.isEmpty then
    for (name, value) in environment.entries do say (name ++ "=" ++ value ++ "\n")
    return 0
  else
    forEach arguments fun name => do
      match environment.get? name with
      | none => return 1
      | some value =>
        say (value ++ "\n")
        return 0

def all : List (String × (List String → Run Nat)) :=
  [("cat", cat), ("touch", touch), ("mkdir", makeDirectories), ("rm", remove),
   ("rmdir", removeEmpty), ("cp", copy), ("mv", move), ("ls", list), ("chmod", changeMode),
   ("ln", link), ("readlink", readLink), ("truncate", truncate), ("sort", sort), ("uniq", unique),
   ("tee", copyOut), ("printenv", showVariables),
   ("sleep", pause), ("head", head), ("tail", tail), ("wc", count), ("tr", translate),
   ("seq", sequence), ("basename", lastStep), ("dirname", allButLast),
   ("true", fun _ => return 0), ("false", fun _ => return 1),
   ("echo", fun words => do write (echoBytes words); return 0),
   ("printf", fun words => do
      match words with
      | [] => report "printf: usage: printf format [arg ...]"; return 2
      | format :: arguments => printf format arguments),
   ("test", Condition.run "test")]

def plain : List String := ["true", "false", "echo", "printf", "test"]

def named? (name : String) : Option (List String → Run Nat) :=
  (all.lookup name).map fun utility arguments =>
    match longOption? arguments with
    | some option =>
      if plain.contains name then utility arguments else unknownOption name option
    | none => utility arguments

end GuidedExploration.Shell.Utility
