import GuidedExploration.Shell.Process

/-!
The conditions of `test`.
-/

set_option autoImplicit false

namespace GuidedExploration.Shell.Condition

def isFile (fs : FileSystem) (p : Path) : Bool :=
  match fs.lookup p with
  | .ok (.file _ _) => true
  | _ => false

def isExecutable (fs : FileSystem) (p : Path) : Bool :=
  match fs.lookup p with
  | .ok (.file _ executable) => executable
  | .ok .directory => true
  | .error _ => false

def hasContents (fs : FileSystem) (p : Path) : Bool :=
  match fs.lookup p with
  | .ok (.file contents _) => !contents.isEmpty
  | .ok .directory => true
  | .error _ => false

structure Scene where
  files : FileSystem
  links : Links

def unary? (scene : Scene) (operator text : String) : Option Bool :=
  let fs := scene.files
  let p := scene.links.resolve fs true ⟨text⟩
  match operator with
  | "-n" => some !text.isEmpty
  | "-z" => some text.isEmpty
  | "-e" => some (fs.exists? p)
  | "-f" => some (isFile fs p)
  | "-d" => some (FileSystem.Action.isDirectory fs p)
  | "-s" => some (hasContents fs p)
  | "-r" | "-w" => some (fs.exists? p)
  | "-x" => some (isExecutable fs p)
  | "-L" | "-h" =>
    let location? := scene.links.locate? fs false ⟨text⟩
    some (scene.links.any fun (location, _) => some location == location?)
  | "-p" | "-b" | "-c" | "-S" | "-t" | "-u" | "-g" | "-k" => some false
  | _ => none

def integer? (text : String) : Option Int := Text.signedInteger? text.toList

def comparison? (operator : String) : Option (Int → Int → Bool) :=
  match operator with
  | "-eq" => some fun a b => a == b
  | "-ne" => some fun a b => a != b
  | "-lt" => some fun a b => decide (a < b)
  | "-le" => some fun a b => decide (a ≤ b)
  | "-gt" => some fun a b => decide (a > b)
  | "-ge" => some fun a b => decide (a ≥ b)
  | _ => none

def binary? (left operator right : String) : Option (Except String Bool) :=
  match operator with
  | "=" | "==" => some (.ok (left == right))
  | "!=" => some (.ok (left != right))
  | "<" => some (.ok (decide (left < right)))
  | ">" => some (.ok (decide (right < left)))
  | _ =>
    (comparison? operator).map fun compare =>
      match integer? left, integer? right with
      | some a, some b => .ok (compare a b)
      | none, _ => .error s!"Illegal number: {left}"
      | _, none => .error s!"Illegal number: {right}"

/-- A condition on two files. Times are not kept, so a file is only newer than none. -/
def onFiles? (scene : Scene) (left operator right : String) : Option Bool :=
  let path (text : String) : Path := scene.links.resolve scene.files true ⟨text⟩
  let (a, b) := (path left, path right)
  match operator with
  | "-nt" => some (scene.files.exists? a && !scene.files.exists? b)
  | "-ot" => some (!scene.files.exists? a && scene.files.exists? b)
  | "-ef" =>
    some (scene.files.exists? a &&
      (scene.files.locate a).toOption == (scene.files.locate b).toOption)
  | _ => none

/-- The value of a condition, by the number of its words; `fuel` bounds how often it is negated or
joined. -/
def holds (scene : Scene) : Nat → List String → Except String Bool
  | 0, _ => .error "too many arguments"
  | fuel + 1, words =>
    match words with
    | [] => .ok false
    | [text] => .ok !text.isEmpty
    | [operator, text] =>
      if operator == "!" then .ok text.isEmpty
      else
        match unary? scene operator text with
        | some value => .ok value
        | none =>
          if (binary? "" text "").isSome then .error s!"{text}: argument expected"
          else .error s!"{operator}: unexpected operator"
    | [a, b, c] =>
      match binary? a b c <|> (onFiles? scene a b c).map .ok with
      | some result => result
      | none =>
        if a == "!" then (holds scene fuel [b, c]).map not
        else if a == "(" && c == ")" then .ok !b.isEmpty
        else joined scene fuel [a, b, c]
    | words => joined scene fuel words
where
  joined (scene : Scene) (fuel : Nat) (words : List String) : Except String Bool :=
    let cut (mark : String) : Option (List String × List String) :=
      match words.idxOf? mark with
      | some i => some (words.take i, words.drop (i + 1))
      | none => none
    match fuel with
    | 0 => .error "too many arguments"
    | fuel + 1 =>
      match cut "-o" with
      | some (left, right) => do
        let a ← holds scene fuel left
        let b ← holds scene fuel right
        return a || b
      | none =>
        match cut "-a" with
        | some (left, right) => do
          let a ← holds scene fuel left
          let b ← holds scene fuel right
          return a && b
        | none =>
          match words with
          | "!" :: rest => (holds scene fuel rest).map not
          | word :: _ => .error s!"{word}: unexpected operator"
          | [] => .ok false

/-- The status of a condition: 0 if it holds, 1 if not, 2 if it makes no sense. A message begins
with the name of the utility. -/
def run (utility : String) (words : List String) : Run Nat := do
  let s ← get
  match holds { files := s.files, links := s.links } (2 * words.length + 4) words with
  | .ok true => return 0
  | .ok false => return 1
  | .error problem =>
    report s!"{utility}: {problem}"
    return 2

end GuidedExploration.Shell.Condition
