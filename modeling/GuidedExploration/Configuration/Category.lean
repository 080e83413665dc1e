import GuidedExploration.Path
import GuidedExploration.Thresholds

/-!
Categories of programs and what the configuration says about each.
-/

set_option autoImplicit false

namespace GuidedExploration

inductive ProgramKind where
  | cli
  | library
  deriving DecidableEq, Repr

namespace ProgramKind

def name : ProgramKind → String
  | cli => "cli"
  | library => "library"

def ofName? (name : String) : Option ProgramKind := [cli, library].find? (·.name == name)

def toJson (kind : ProgramKind) : Json := .text kind.name

def ofJson? (j : Json) : Option ProgramKind := j.symbol?.bind ofName?

end ProgramKind

namespace Path

def toJson (p : Path) : Json := .text p.text

def ofJson? (j : Json) : Option Path := j.text?.map Path.mk

end Path

def textsToJson (texts : List String) : Json := .array (texts.map Json.text)

def textsOfJson? : Json → Option (List String) := Json.list? Json.text?

structure EngineOptions where
  symbolicInputs : Dict String String := .empty
  extraArguments : List String := []
  environmentFile : Option Path := none
  deriving DecidableEq

namespace EngineOptions

def fields : List String := ["symbolic_inputs", "extra_args", "env_file"]

def toJson (o : EngineOptions) : Json :=
  .record
    [("symbolic_inputs", .ofDict id Json.text o.symbolicInputs),
     ("extra_args", textsToJson o.extraArguments),
     ("env_file", .ofOption Path.toJson o.environmentFile)]

def ofJson? (j : Json) : Option EngineOptions := do
  let written ← j.fields? fields
  let symbolicInputs ← Json.default? written "symbolic_inputs" .empty (Json.dict? some Json.text?)
  let extraArguments ← Json.default? written "extra_args" [] textsOfJson?
  let environmentFile ← Json.default? written "env_file" none (Json.optional? Path.ofJson?)
  return { symbolicInputs, extraArguments, environmentFile }

end EngineOptions

structure Category where
  kind : ProgramKind := .cli
  programs : List String := []
  thresholds : Thresholds := {}
  engine : EngineOptions := {}
  profileCommand : Option (List String) := none
  deriving DecidableEq

namespace Category

def fields : List String := ["type", "programs", "thresholds", "klee_config", "profile_cmd"]

def toJson (c : Category) : Json :=
  .record
    [("type", c.kind.toJson), ("programs", textsToJson c.programs),
     ("thresholds", c.thresholds.toJson), ("klee_config", c.engine.toJson),
     ("profile_cmd", .ofOption textsToJson c.profileCommand)]

def ofJson? (j : Json) : Option Category := do
  let written ← j.fields? fields
  let kind ← Json.default? written "type" .cli ProgramKind.ofJson?
  let programs ← Json.default? written "programs" [] textsOfJson?
  let thresholds ← Json.default? written "thresholds" {} Thresholds.ofJson?
  let engine ← Json.default? written "klee_config" {} EngineOptions.ofJson?
  let profileCommand ← Json.default? written "profile_cmd" none (Json.optional? textsOfJson?)
  return { kind, programs, thresholds, engine, profileCommand }

end Category

end GuidedExploration
