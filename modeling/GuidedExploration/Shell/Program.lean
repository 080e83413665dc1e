import GuidedExploration.Shell.Utility.Table
import GuidedExploration.Text.Utf8

/-!
What a name of a program stands for: a script in the file system, the shell itself, or a utility.
-/

set_option autoImplicit false

namespace GuidedExploration.Shell

inductive Runner where
  | environment
  | session
  | shielded
  | limited
  deriving DecidableEq

def Runner.all : List (String × Runner) :=
  [("env", environment), ("setsid", session), ("nohup", shielded), ("timeout", limited)]

inductive Program where
  | utility (run : List String → Run Nat)
  | shell
  | runner (runner : Runner)
  | script (text : List Char) (arguments : List String)
  /-- A file that does not say what it is. -/
  | unknown (text : List Char)

def shellNames : List String := ["sh", "dash"]

def programDirectories : List String :=
  ["/bin", "/usr/bin", "/usr/local/bin", "/sbin", "/usr/sbin", "/usr/local/sbin"]

def known? (name : String) : Option Program :=
  if shellNames.contains name then some .shell
  else
    match Runner.all.lookup name with
    | some runner => some (.runner runner)
    | none => (Utility.named? name).map .utility

def knownAt? (p : Path) : Option Program :=
  if (p.parent?.map fun parent => programDirectories.contains parent.text).getD false then
    (p.steps.getLast?).bind known?
  else none

def interpreter? (text : List Char) : Option (List String) :=
  match text with
  | '#' :: '!' :: rest =>
    let line := rest.takeWhile (· != '\n')
    some ((line.splitBy fun a b => (a = ' ' || a = '\t') == (b = ' ' || b = '\t')).filterMap fun
      | [] => none
      | c :: s => if c = ' ' || c = '\t' then none else some (String.ofList (c :: s)))
  | _ => none

def ofContents (text : List Char) : Except Cause Program :=
  match interpreter? text with
  | none => .ok (.unknown text)
  | some words =>
    let words :=
      match words with
      | first :: rest =>
        if (Path.mk first).steps.getLast? == some "env" then rest else first :: rest
      | [] => []
    match words with
    | [] => .error .notExecutableFormat
    | first :: arguments =>
      let name := ((Path.mk first).steps.getLast?).getD ""
      if shellNames.contains name || name == "bash" then .ok (.script text arguments)
      else .error .notFound

/-- The program of a name. A name with a slash is a path. -/
def program (fs : FileSystem) (name : String) : Except Cause Program :=
  let p : Path := ⟨name⟩
  if name.contains '/' then
    match fs.lookup p with
    | .ok (.file contents true) => ofContents (Text.Utf8.decodeLossy contents.toList)
    | .ok _ => .error .permissionDenied
    | .error cause =>
      match knownAt? p with
      | some known => .ok known
      | none => .error cause
  else
    match known? name with
    | some known => .ok known
    | none => .error .notFound

end GuidedExploration.Shell
