import GuidedExploration.Engine.Invocation
import Mathlib.Data.List.Basic

/-!
The arguments of a run, read back. What stands in front of the artifact is told apart by how it
begins and is taken off piece by piece; what a path or an argument of the program holds is never
looked at, so it cannot pass for an option.
-/

set_option autoImplicit false

namespace GuidedExploration.Invocation

/-- What the engine learns from its arguments, beside what every run is told. -/
structure Message where
  mapFile : Option Path
  environmentFile : Option Path
  sandbox : Path
  outputDirectory : Path
  artifact : Path
  operands : List String
  deriving DecidableEq

def message (i : Invocation) (fs : FileSystem) (sandbox : Path) : Message where
  mapFile := i.mapFile
  environmentFile := i.presentEnvironment fs
  sandbox
  outputDirectory := i.outputDirectory
  artifact := i.artifact
  operands := i.symbolicInput ++ i.extraArguments

namespace Message

def fixed (m : Message) : List String :=
  ("--run-in-dir=" ++ m.sandbox.text) :: ("--output-dir=" ++ m.outputDirectory.text) ::
    m.artifact.text :: m.operands

def arguments (m : Message) : List String :=
  baseFlags ++ (mapFlags m.mapFile ++ (environmentFlags m.environmentFile ++ m.fixed))

def path? (opening argument : String) : Option Path :=
  (opening.toList.isPrefixOf? argument.toList).map Path.ofChars

def readMap : List String → Option Path × List String
  | flag :: argument :: rest =>
    if flag = "--use-vase" then (path? "--vase-map=" argument, rest)
    else (none, flag :: argument :: rest)
  | rest => (none, rest)

def readEnvironment : List String → Option Path × List String
  | [] => (none, [])
  | argument :: rest =>
    match path? "--env-file=" argument with
    | some file => (some file, rest)
    | none => (none, argument :: rest)

def readFixed? (mapFile environmentFile : Option Path) : List String → Option Message
  | run :: out :: artifact :: operands => do
    let sandbox ← path? "--run-in-dir=" run
    let outputDirectory ← path? "--output-dir=" out
    return { mapFile, environmentFile, sandbox, outputDirectory, artifact := ⟨artifact⟩, operands }
  | _ => none

def read? (arguments : List String) : Option Message :=
  let (mapFile, rest) := readMap (arguments.drop baseFlags.length)
  let (environmentFile, rest) := readEnvironment rest
  readFixed? mapFile environmentFile rest

theorem path?_append (opening : String) (p : Path) : path? opening (opening ++ p.text) = some p := by
  have behind : opening.toList.isPrefixOf? (opening ++ p.text).toList = some p.text.toList := by
    rw [String.toList_append, List.isPrefixOf?_eq_some_iff_append_eq]
  rw [path?, behind]
  exact congrArg (some ∘ Path.mk) String.ofList_toList

theorem path?_other {opening other : String} (text : String)
    (apart : opening.toList.isPrefixOf? (other.toList ++ text.toList) = none) :
    path? opening (other ++ text) = none := by
  rw [path?, String.toList_append, apart, Option.map_none]

theorem ne_flag {opening : String} (text : String)
    (apart : "--use-vase".toList.isPrefixOf? (opening.toList ++ text.toList) = none) :
    opening ++ text ≠ "--use-vase" := by
  intro same
  rw [← String.toList_append, same] at apart
  cases apart

/-! ## Each piece, whatever follows it -/

theorem readMap_append (map : Option Path) {first : String} (other : first ≠ "--use-vase")
    {rest : List String} : readMap (mapFlags map ++ first :: rest) = (map, first :: rest) := by
  cases map with
  | some map => simp [mapFlags, readMap, path?_append]
  | none =>
    cases rest with
    | nil => rfl
    | cons second rest => simp [mapFlags, readMap, other]

theorem readEnvironment_append (file : Option Path) {first : String}
    (other : path? "--env-file=" first = none) {rest : List String} :
    readEnvironment (environmentFlags file ++ first :: rest) = (file, first :: rest) := by
  cases file with
  | some file => simp [environmentFlags, readEnvironment, path?_append]
  | none => simp [environmentFlags, readEnvironment, other]

theorem readFixed?_fixed (m : Message) :
    readFixed? m.mapFile m.environmentFile m.fixed = some m := by
  simp [fixed, readFixed?, path?_append]

/-- The options come in front of what is fixed, and none of them begins like it. -/
theorem read?_arguments (m : Message) : read? m.arguments = some m := by
  have environment : readEnvironment (environmentFlags m.environmentFile ++ m.fixed) =
      (m.environmentFile, m.fixed) :=
    readEnvironment_append _ (path?_other m.sandbox.text rfl)
  have map : readMap (mapFlags m.mapFile ++ (environmentFlags m.environmentFile ++ m.fixed)) =
      (m.mapFile, environmentFlags m.environmentFile ++ m.fixed) := by
    cases m.environmentFile with
    | none => exact readMap_append _ (ne_flag m.sandbox.text rfl)
    | some file => exact readMap_append _ (ne_flag file.text rfl)
  rw [read?, arguments, List.drop_left, map]
  simp only [environment, readFixed?_fixed]

theorem arguments_injective : Function.Injective arguments := by
  intro m m' same
  have read := congrArg read? same
  rw [read?_arguments, read?_arguments] at read
  exact Option.some.inj read

end Message

theorem arguments_eq_message (i : Invocation) (fs : FileSystem) (sandbox : Path) :
    i.arguments fs sandbox = (i.message fs sandbox).arguments := by
  simp [arguments, argumentsWith, Message.arguments, Message.fixed, message]

/-- Two runs are told the same just when they have the same map file, if any, the same environment
file that is there, if any, the same sandbox, output directory and artifact, and the same arguments
for the program, wherever the symbolic input ends and the extra arguments begin. -/
theorem arguments_eq_iff (i i' : Invocation) (fs fs' : FileSystem) (sandbox sandbox' : Path) :
    i.arguments fs sandbox = i'.arguments fs' sandbox' ↔
      i.mapFile = i'.mapFile ∧
      i.presentEnvironment fs = i'.presentEnvironment fs' ∧
      sandbox = sandbox' ∧
      i.outputDirectory = i'.outputDirectory ∧
      i.artifact = i'.artifact ∧
      i.symbolicInput ++ i.extraArguments = i'.symbolicInput ++ i'.extraArguments := by
  rw [arguments_eq_message, arguments_eq_message, Message.arguments_injective.eq_iff]
  exact iff_of_eq (Message.mk.injEq ..)

end GuidedExploration.Invocation
