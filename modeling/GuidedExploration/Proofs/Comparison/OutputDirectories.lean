import GuidedExploration.Comparison.DualRun
import GuidedExploration.Proofs.Engine.Effects

/-!
The output directories of a dual run. They are named for the variant and the run, and the run id is
any text: with slashes and dots in it the path may lead out of the directory that the name stands
for.
-/

set_option autoImplicit false

namespace GuidedExploration

namespace Bearing

theorem lead_of_level {b : Bearing} (level : b.up = 0) (start : Location) :
    b.lead start = start ++ b.down := by
  simp [lead, level]

/-- Out of a directory its name does not matter. -/
theorem lead_concat_of_climbing {b : Bearing} (climbing : 0 < b.up) (start : Location)
    (name : String) :
    b.lead (start ++ [name]) = start.take (start.length + 1 - b.up) ++ b.down := by
  have shorter : start.length + 1 - b.up ≤ start.length := by omega
  rw [lead, List.length_append, List.length_singleton, List.take_append_of_le_length shorter]

end Bearing

namespace DualRunRequest

open FileSystem

/-- The name of an output directory: what stands before the first slash of the run id ends it. -/
def outputName (r : DualRunRequest) (variant : Variant) : String :=
  s!"klee-{tag variant}-out-" ++ String.ofList ((Text.splitAt '/' r.runId.toList).head?.getD [])

def further (r : DualRunRequest) : List String :=
  ((Text.splitAt '/' r.runId.toList).tail.filter fun piece => !piece.isEmpty).map String.ofList

/-- A run id that leads out of the directory whose name it ends. -/
def Climbs (r : DualRunRequest) : Prop := 0 < (Bearing.ofSteps r.further).up

instance (r : DualRunRequest) : Decidable r.Climbs := inferInstanceAs (Decidable (0 < _))

theorem slash_notMem_opening (variant : Variant) :
    '/' ∉ (s!"klee-{tag variant}-out-" : String).toList := by
  cases variant <;> decide

theorem head_opening (variant : Variant) :
    (s!"klee-{tag variant}-out-" : String).toList.head? = some 'k' := by
  cases variant <;> rfl

theorem outputDirectory_eq (r : DualRunRequest) (variant : Variant) :
    r.outputDirectory variant =
      r.artifactDirectory.child (s!"klee-{tag variant}-out-" ++ r.runId) := by
  cases variant <;> rfl

theorem steps_outputDirectory (r : DualRunRequest) (variant : Variant) :
    (r.outputDirectory variant).isAbsolute = r.artifactDirectory.isAbsolute ∧
      (r.outputDirectory variant).steps =
        r.artifactDirectory.steps ++ r.outputName variant :: r.further := by
  obtain ⟨piece, pieces, cut⟩ :=
    List.exists_cons_of_ne_nil (Text.splitAt_ne_nil '/' r.runId.toList)
  obtain ⟨letters, begun⟩ := List.head?_eq_some_iff.1 (head_opening variant)
  have relative : (Path.mk (s!"klee-{tag variant}-out-" ++ r.runId)).isAbsolute = false := by
    simp [Path.isAbsolute, Path.chars, begun]
  have own : (Path.mk (s!"klee-{tag variant}-out-" ++ r.runId)).steps =
      r.outputName variant :: r.further := by
    have shape := Text.splitAt_append_of_notMem (slash_notMem_opening variant) cut
    rw [Path.steps, Path.pieces, Path.chars, String.toList_append, shape, outputName, further, cut]
    simp [begun, ← String.toList_inj]
  rw [outputDirectory_eq, Path.child, Path.isAbsolute_join _ relative, Path.steps_join _ relative, own]
  exact ⟨rfl, rfl⟩

theorem outputName_ordinary (r : DualRunRequest) (variant : Variant) :
    r.outputName variant ≠ "." ∧ r.outputName variant ≠ ".." := by
  obtain ⟨letters, begun⟩ := List.head?_eq_some_iff.1 (head_opening variant)
  constructor <;> intro same <;> simpa [outputName, begun] using congrArg String.toList same

theorem outputName_ne (r : DualRunRequest) : r.outputName .baseline ≠ r.outputName .profileGuided := by
  intro same
  have letters := congrArg String.toList same
  simp [outputName, tag] at letters
  exact absurd letters (by decide)

theorem location_outputDirectory (r : DualRunRequest) (variant : Variant) (origin : Location) :
    (r.outputDirectory variant).location origin =
      (Bearing.ofSteps r.further).lead
        (r.artifactDirectory.location origin ++ [r.outputName variant]) := by
  obtain ⟨rooted, steps⟩ := r.steps_outputDirectory variant
  obtain ⟨notDot, notDots⟩ := r.outputName_ordinary variant
  rw [← Location.foldl_step, Path.location, Path.location, Path.start, Path.start, rooted, steps,
    List.foldl_append, List.foldl_cons, Location.step, if_neg notDot, if_neg notDots]

theorem location_artifact (r : DualRunRequest) (origin : Location) :
    (∃ name, r.artifact.location origin = r.artifactDirectory.location origin ++ [name]) ∨
      (r.artifact.location origin).length ≤ (r.artifactDirectory.location origin).length := by
  cases found : r.artifact.parent? with
  | none =>
    right
    have here : Path.here.location origin = origin := rfl
    rw [Path.location_of_parent?_eq_none found, Path.start]
    split_ifs
    · simp
    · simp [artifactDirectory, Path.properParent?, found, here]
  | some parent =>
    -- The empty parent is written as a dot, which leads to the same place.
    have same : r.artifactDirectory.location origin = parent.location origin := by
      by_cases empty : parent.isEmpty = true
      · have blank : parent = ⟨""⟩ := by
          cases parent
          simpa [Path.isEmpty, Path.chars] using empty
        simp [artifactDirectory, Path.properParent?, found, Option.filter_some, blank]
        rfl
      · simp [artifactDirectory, Path.properParent?, found, Option.filter_some, empty]
    obtain ⟨name, step⟩ := Path.location_of_parent? found origin
    rw [step, same, Location.step]
    split_ifs
    · exact .inr (Nat.le_refl _)
    · exact .inr (by simp)
    · exact .inl ⟨name, rfl⟩

/-- No output directory is the other one, lies inside it, or has the artifact's directory in it. -/
structure OutputsApart (r : DualRunRequest) (fs : FileSystem) : Prop where
  others : ∀ v w : Variant, v ≠ w →
    isWithin ((r.outputDirectory v).location fs.origin) ((r.outputDirectory w).location fs.origin) = false
  artifact : ∀ v : Variant,
    isWithin ((r.outputDirectory v).location fs.origin) (r.artifactDirectory.location fs.origin) = false

theorem location_of_not_climbs {r : DualRunRequest} (stays : ¬r.Climbs) (variant : Variant)
    (origin : Location) :
    (r.outputDirectory variant).location origin =
      r.artifactDirectory.location origin ++
        r.outputName variant :: (Bearing.ofSteps r.further).down := by
  have level : (Bearing.ofSteps r.further).up = 0 := Nat.eq_zero_of_not_pos stays
  rw [location_outputDirectory, Bearing.lead_of_level level, List.append_assoc]
  rfl

theorem outputsApart_of_not_climbs {r : DualRunRequest} (stays : ¬r.Climbs) (fs : FileSystem) :
    r.OutputsApart fs := by
  constructor
  · intro v w apart
    rw [Bool.eq_false_iff, ne_eq, isWithin_iff, location_of_not_climbs stays,
      location_of_not_climbs stays]
    intro inside
    have names := (List.cons_prefix_cons.1 ((List.prefix_append_right_inj _).1 inside)).1
    cases v <;> cases w <;> first | exact apart rfl | skip
    · exact r.outputName_ne names
    · exact r.outputName_ne names.symm
  · intro v
    rw [Bool.eq_false_iff, ne_eq, isWithin_iff, location_of_not_climbs stays]
    intro inside
    have shorter := inside.length_le
    rw [List.length_append, List.length_cons] at shorter
    omega

theorem outputs_eq_of_climbs {r : DualRunRequest} (climbs : r.Climbs) (fs : FileSystem)
    (v w : Variant) :
    (r.outputDirectory v).location fs.origin = (r.outputDirectory w).location fs.origin := by
  rw [location_outputDirectory, location_outputDirectory,
    Bearing.lead_concat_of_climbing climbs, Bearing.lead_concat_of_climbing climbs]

theorem outputsApart_iff (r : DualRunRequest) (fs : FileSystem) : r.OutputsApart fs ↔ ¬r.Climbs := by
  refine ⟨fun apart climbs => ?_, fun stays => outputsApart_of_not_climbs stays fs⟩
  have same := outputs_eq_of_climbs climbs fs .baseline .profileGuided
  have inside := apart.others .baseline .profileGuided nofun
  rw [same, Bool.eq_false_iff, ne_eq, isWithin_iff] at inside
  exact inside (List.prefix_refl _)

theorem nodes_of_reset {r : DualRunRequest} (stays : ¬r.Climbs) {fs : FileSystem} (v : Variant)
    {location : Location} {node : Node} (there : fs.nodes.get? location = some node)
    (needed : (∃ w ≠ v, isWithin ((r.outputDirectory w).location fs.origin) location = true) ∨
      (location = r.artifact.location fs.origin ∧ node ≠ .directory)) :
    ((EngineRun.resetDirectory (r.outputDirectory v)).on fs).2.nodes.get? location = some node := by
  have apart := outputsApart_of_not_climbs stays fs
  rcases needed with ⟨w, other, inside⟩ | ⟨rfl, isFile⟩
  · apply EngineRun.nodes_outside_resetDirectory there
    intro outside
    -- Of two directories around one place, one lies inside the other.
    rcases List.prefix_or_prefix_of_prefix outside (isWithin_iff.1 inside) with nested | nested
    · exact absurd (isWithin_iff.2 nested) (by simp [apart.others v w (Ne.symm other)])
    · exact absurd (isWithin_iff.2 nested) (by simp [apart.others w v other])
  by_cases inside : r.artifact.location fs.origin ∈ within ((r.outputDirectory v).location fs.origin)
  -- Directly in the same directory there is only one place for both, and a file there is not
  -- removed.
  · have output := location_of_not_climbs stays v fs.origin
    have deep := List.IsPrefix.length_le inside
    rw [output, List.length_append, List.length_cons] at deep
    rcases r.location_artifact fs.origin with ⟨name, artifact⟩ | shallow
    · have same : r.artifact.location fs.origin = (r.outputDirectory v).location fs.origin := by
        apply (List.IsPrefix.eq_of_length_le inside ?_).symm
        rw [artifact, output, List.length_append, List.length_append, List.length_cons]
        simp
      rw [same] at there ⊢
      cases node with
      | directory => exact absurd rfl isFile
      | file contents executable =>
        exact EngineRun.file_at_resetDirectory there (by simp [output])
    · omega
  · exact EngineRun.nodes_outside_resetDirectory there inside

/-- The output directories are apart, and safe from each other's resets as the artifact is, exactly
when the run id does not climb; if it does, both are one directory. -/
theorem outputs_apart_iff (r : DualRunRequest) (fs : FileSystem) :
    (r.OutputsApart fs ↔ ¬r.Climbs) ∧
    (¬r.Climbs → ∀ (v : Variant) (location : Location) (node : Node),
      fs.nodes.get? location = some node →
      (∃ w ≠ v, isWithin ((r.outputDirectory w).location fs.origin) location = true) ∨
        (location = r.artifact.location fs.origin ∧ node ≠ .directory) →
      ((EngineRun.resetDirectory (r.outputDirectory v)).on fs).2.nodes.get? location = some node) ∧
    (r.Climbs → (r.outputDirectory .baseline).location fs.origin =
      (r.outputDirectory .profileGuided).location fs.origin) :=
  ⟨outputsApart_iff r fs,
    fun stays _ _ _ there needed => nodes_of_reset stays _ there needed,
    fun climbs => outputs_eq_of_climbs climbs fs _ _⟩

def ofRunId (runId : String) : DualRunRequest :=
  .forProgram "ls" none none ⟨"/art/ls/ls.base.bc"⟩ ⟨"/art/ls/limitedValuedMap.json"⟩ runId

def shelf : FileSystem where
  nodes := .ofList [(["art"], .directory), (["art", "ls"], .directory),
    (["art", "ls", "ls.base.bc"], .file "code".toUTF8 false)]
  origin := []

def leftBehind (directories : List String) (output : String) : FileSystem :=
  (directories.foldl (fun fs name => fs.put ["art", "ls", name] .directory) shelf).put
    ["art", "ls", output, "info"] (.file "SolverTime: 3".toUTF8 false)

theorem outputs_apart_under_timestamp :
    ¬(ofRunId "20250102-030405").Climbs ∧
    ((EngineRun.resetDirectory ((ofRunId "20250102-030405").outputDirectory .profileGuided)).on
      (leftBehind ["klee-baseline-out-20250102-030405"]
        "klee-baseline-out-20250102-030405")).2.nodes.get?
        ["art", "ls", "klee-baseline-out-20250102-030405", "info"] =
      some (.file "SolverTime: 3".toUTF8 false) := by
  have stays : ¬(ofRunId "20250102-030405").Climbs := by decide
  refine ⟨stays, ?_⟩
  apply (outputs_apart_iff _ _).2.1 stays
  · decide +kernel
  · exact .inl ⟨.baseline, nofun, rfl⟩

/-- Under a run id that climbs both output directories are one, and the reset of one run removes
what the other one left there. -/
theorem outputs_coincide :
    ∃ (runId : String) (fs : FileSystem),
      fs = leftBehind ["klee-baseline-out-", "klee-profile-out-", "x"] "x" ∧
      ¬(ofRunId runId).OutputsApart fs ∧
      fs.nodes.get? ["art", "ls", "x", "info"] = some (.file "SolverTime: 3".toUTF8 false) ∧
      ((EngineRun.resetDirectory ((ofRunId runId).outputDirectory .profileGuided)).on fs).2.nodes.get?
        ["art", "ls", "x", "info"] = none := by
  refine ⟨"/../x", _, rfl, fun apart => ?_, by decide +kernel, ?_⟩
  · exact absurd (apart.others .baseline .profileGuided nofun) (by decide +kernel)
  · decide +kernel

end DualRunRequest

end GuidedExploration
