import GuidedExploration.Comparison.Request
import Mathlib.Data.List.Basic

/-!
What the engine is told in the two variants of a request: the same, but for the value map, which the
baseline does without, and for the directories that each of the two has of its own.
-/

set_option autoImplicit false

namespace GuidedExploration

namespace Invocation

def opens (opening argument : String) : Bool := opening.toList.isPrefixOf argument.toList

def revalued? (opening value argument : String) : Option String :=
  if opens opening argument then some (opening ++ value) else none

def directoryOptions : List String := ["--run-in-dir=", "--output-dir="]

def redirected (sandbox output : String) (arguments : List String) : List String :=
  (arguments.replaceF (revalued? "--run-in-dir=" sandbox)).replaceF (revalued? "--output-dir=" output)

/-- The arguments without the two that come right after those that every run is told first. -/
def withoutMap (arguments : List String) : List String :=
  arguments.take baseFlags.length ++ arguments.drop (baseFlags.length + 2)

def optionsWith (i : Invocation) (environment : Option Path) (sandbox : Path) : List String :=
  baseFlags ++ mapFlags i.mapFile ++ environmentFlags environment ++
    ["--run-in-dir=" ++ sandbox.text, "--output-dir=" ++ i.outputDirectory.text]

def operands (i : Invocation) : List String :=
  i.artifact.text :: (i.symbolicInput ++ i.extraArguments)

theorem argumentsWith_eq (i : Invocation) (environment : Option Path) (sandbox : Path) :
    i.argumentsWith environment sandbox = i.optionsWith environment sandbox ++ i.operands := by
  simp [argumentsWith, optionsWith, operands]

theorem opens_append (opening value : String) : opens opening (opening ++ value) = true := by
  simp [opens]

theorem opens_other {opening other : String} (value : String)
    (apart : opening.toList.isPrefixOf (other.toList ++ value.toList) = false) :
    opens opening (other ++ value) = false := by
  rwa [opens, String.toList_append]

theorem revalued?_append (opening before value : String) :
    revalued? opening value (opening ++ before) = some (opening ++ value) :=
  if_pos (opens_append opening before)

theorem revalued?_of_not_opens {opening argument : String} (apart : opens opening argument = false)
    (value : String) : revalued? opening value argument = none :=
  if_neg (by simp [apart])

theorem opens_ahead (map file : Option Path) :
    ∀ opening ∈ directoryOptions,
      ∀ argument ∈ baseFlags ++ mapFlags map ++ environmentFlags file,
        opens opening argument = false := by
  have base : ∀ opening ∈ directoryOptions, ∀ argument ∈ baseFlags,
      opens opening argument = false := by
    decide +kernel
  have maps : ∀ opening ∈ directoryOptions, ∀ argument ∈ mapFlags map,
      opens opening argument = false := by
    cases map with
    | none => simp [mapFlags]
    | some map =>
      simp only [directoryOptions, mapFlags, List.forall_mem_cons]
      exact ⟨⟨rfl, opens_other map.text rfl, by simp⟩, ⟨rfl, opens_other map.text rfl, by simp⟩,
        by simp⟩
  have files : ∀ opening ∈ directoryOptions, ∀ argument ∈ environmentFlags file,
      opens opening argument = false := by
    cases file with
    | none => simp [environmentFlags]
    | some file =>
      simp only [directoryOptions, environmentFlags, List.forall_mem_cons]
      exact ⟨⟨opens_other file.text rfl, by simp⟩, ⟨opens_other file.text rfl, by simp⟩, by simp⟩
  intro opening known argument member
  simp only [List.mem_append] at member
  rcases member with (member | member) | member
  · exact base opening known argument member
  · exact maps opening known argument member
  · exact files opening known argument member

theorem countP_optionsWith (i : Invocation) (environment : Option Path) (sandbox : Path)
    {opening : String} (known : opening ∈ directoryOptions) :
    (i.optionsWith environment sandbox).countP (opens opening) = 1 := by
  have ahead : (baseFlags ++ mapFlags i.mapFile ++ environmentFlags environment).countP
      (opens opening) = 0 := by
    rw [List.countP_eq_zero]
    intro argument member
    simp [opens_ahead i.mapFile environment opening known argument member]
  have others : opens "--run-in-dir=" ("--output-dir=" ++ i.outputDirectory.text) = false ∧
      opens "--output-dir=" ("--run-in-dir=" ++ sandbox.text) = false :=
    ⟨opens_other _ rfl, opens_other _ rfl⟩
  rw [optionsWith, List.countP_append, ahead]
  simp only [directoryOptions, List.mem_cons, List.not_mem_nil, or_false] at known
  rcases known with rfl | rfl <;> simp [opens_append, others]

theorem replaceF_append {α : Type} {change : α → Option α} {front : List α}
    (kept : ∀ a ∈ front, change a = none) (rest : List α) :
    (front ++ rest).replaceF change = front ++ rest.replaceF change := by
  induction front with
  | nil => rfl
  | cons a front ih =>
    obtain ⟨first, later⟩ := List.forall_mem_cons.1 kept
    rw [List.cons_append, List.replaceF_cons_of_none _ first, ih later, List.cons_append]

/-- Arguments behind the options that look like them stay as they are. -/
theorem redirected_append {front : List String}
    (plain : ∀ opening ∈ directoryOptions, ∀ argument ∈ front, opens opening argument = false)
    (sandbox sandbox' output output' : String) (rest : List String) :
    redirected sandbox output
        (front ++ ["--run-in-dir=" ++ sandbox', "--output-dir=" ++ output'] ++ rest) =
      front ++ ["--run-in-dir=" ++ sandbox, "--output-dir=" ++ output] ++ rest := by
  have run : ∀ argument ∈ front, revalued? "--run-in-dir=" sandbox argument = none :=
    fun argument member => revalued?_of_not_opens (plain _ (by simp [directoryOptions]) _ member) _
  have out : ∀ argument ∈ front, revalued? "--output-dir=" output argument = none :=
    fun argument member => revalued?_of_not_opens (plain _ (by simp [directoryOptions]) _ member) _
  have between : revalued? "--output-dir=" output ("--run-in-dir=" ++ sandbox) = none :=
    revalued?_of_not_opens (opens_other sandbox rfl) output
  rw [redirected, List.append_assoc, replaceF_append run]
  simp only [List.cons_append, List.nil_append]
  rw [List.replaceF_cons_of_some _ (revalued?_append _ _ _), replaceF_append out,
    List.replaceF_cons_of_none _ between, List.replaceF_cons_of_some _ (revalued?_append _ _ _)]
  simp

end Invocation

namespace DualRunRequest

open Invocation

theorem presentEnvironment_invocation {r : DualRunRequest} {files : Variant → FileSystem}
    (same : ∀ file ∈ r.environmentFile,
      (files .baseline).exists? file = (files .profileGuided).exists? file) (v : Variant) :
    (r.invocation v).presentEnvironment (files v) =
      r.environmentFile.filter (files .baseline).exists? := by
  have own : (r.invocation v).environmentFile = r.environmentFile := rfl
  rw [presentEnvironment, own]
  cases v with
  | baseline => rfl
  | profileGuided =>
    cases found : r.environmentFile with
    | none => rfl
    | some file => rw [Option.filter_some, Option.filter_some, same file found]

/-- Without the two arguments about the map and with its directories exchanged, what a
profile-guided run is told is what the baseline is told. Each directory is given once among the
options, and what follows these is the same in both. -/
theorem arguments_of_variants {r : DualRunRequest} {files : Variant → FileSystem}
    (same : ∀ file ∈ r.environmentFile,
      (files .baseline).exists? file = (files .profileGuided).exists? file)
    (sandbox : Variant → Path) :
    ((r.invocation .profileGuided).arguments (files .profileGuided) (sandbox .profileGuided)).take
        (baseFlags.length + 2) =
      baseFlags ++ ["--use-vase", "--vase-map=" ++ r.mapFile.text] ∧
    redirected (sandbox .baseline).text (r.outputDirectory .baseline).text
        (withoutMap ((r.invocation .profileGuided).arguments (files .profileGuided)
          (sandbox .profileGuided))) =
      (r.invocation .baseline).arguments (files .baseline) (sandbox .baseline) ∧
    ∃ environment : Option Path, ∀ v,
      (r.invocation v).arguments (files v) (sandbox v) =
        (r.invocation v).optionsWith environment (sandbox v) ++
          r.artifact.text :: (r.symbolicInput ++ r.extraArguments) ∧
      ∀ opening ∈ directoryOptions,
        ((r.invocation v).optionsWith environment (sandbox v)).countP (opens opening) = 1 := by
  have present := presentEnvironment_invocation same
  have whole : ∀ v, (r.invocation v).arguments (files v) (sandbox v) =
      (r.invocation v).optionsWith (r.environmentFile.filter (files .baseline).exists?)
        (sandbox v) ++ r.artifact.text :: (r.symbolicInput ++ r.extraArguments) := by
    intro v
    rw [arguments, present, argumentsWith_eq]
    rfl
  have ahead := opens_ahead none (r.environmentFile.filter (files .baseline).exists?)
  refine ⟨?_, ?_, _, fun v => ⟨whole v, fun opening known => countP_optionsWith _ _ _ known⟩⟩
  · rw [whole, optionsWith]
    simp [invocation, mapFor, mapFlags, baseFlags]
  · have kept : withoutMap ((r.invocation .profileGuided).arguments (files .profileGuided)
          (sandbox .profileGuided)) =
        baseFlags ++ mapFlags none ++
            environmentFlags (r.environmentFile.filter (files .baseline).exists?) ++
          ["--run-in-dir=" ++ (sandbox .profileGuided).text,
            "--output-dir=" ++ (r.outputDirectory .profileGuided).text] ++
          r.artifact.text :: (r.symbolicInput ++ r.extraArguments) := by
      rw [whole, optionsWith]
      simp [withoutMap, invocation, mapFor, mapFlags, baseFlags]
    rw [kept, whole, redirected_append ahead]
    rfl

/-- A category with an environment file, whose own arguments for the engine look like those of a
run. -/
def flagged : DualRunRequest where
  program := "ls"
  runId := "r1"
  artifact := ⟨"/art/ls/ls.base.bc"⟩
  mapFile := ⟨"/art/ls/limitedValuedMap.json"⟩
  symbolicInput := ["--sym-args", "0", "1", "4"]
  extraArguments := ["--output-dir=elsewhere", "--use-vase"]
  environmentFile := some ⟨"/art/test.env"⟩

def withEnvironment (v : Variant) : FileSystem :=
  (FileSystem.empty.put ["art"] .directory).put ["art", "test.env"] (.file v.name.toUTF8 false)

theorem arguments_of_flagged :
    (∀ file ∈ flagged.environmentFile, (withEnvironment .baseline).exists? file =
      (withEnvironment .profileGuided).exists? file) ∧
    redirected "/tmp/ls-klee-a" "/art/ls/klee-baseline-out-r1"
        (withoutMap ((flagged.invocation .profileGuided).arguments (withEnvironment .profileGuided)
          ⟨"/tmp/ls-klee-b"⟩)) =
      baseFlags ++ ["--env-file=/art/test.env", "--run-in-dir=/tmp/ls-klee-a",
        "--output-dir=/art/ls/klee-baseline-out-r1", "/art/ls/ls.base.bc", "--sym-args", "0", "1",
        "4", "--output-dir=elsewhere", "--use-vase"] := by
  have same : ∀ file ∈ flagged.environmentFile, (withEnvironment .baseline).exists? file =
      (withEnvironment .profileGuided).exists? file := by
    decide +kernel
  refine ⟨same, ?_⟩
  have exchanged := (arguments_of_variants same fun v =>
    if v = .baseline then ⟨"/tmp/ls-klee-a"⟩ else ⟨"/tmp/ls-klee-b"⟩).2.1
  refine exchanged.trans ?_
  decide +kernel

end DualRunRequest

end GuidedExploration
