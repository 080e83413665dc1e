import GuidedExploration.Proofs.Comparison.OutputDirectories

/-!
Which places belong to which of the two runs of a dual run: its output directory and its sandbox.
What a run looks at lies off the places of the other one.
-/

set_option autoImplicit false

namespace GuidedExploration

open FileSystem

namespace Variant

def other : Variant → Variant
  | baseline => profileGuided
  | profileGuided => baseline

@[simp] theorem other_other (v : Variant) : v.other.other = v := by cases v <;> rfl

theorem other_ne (v : Variant) : v.other ≠ v := by cases v <;> decide

end Variant

namespace DualRunRequest

/-- The paths that the runs themselves follow. The map is the engine's to read. -/
def inputs (r : DualRunRequest) : List Path := r.artifactDirectory :: r.environmentFile.toList

theorem not_climbs {r : DualRunRequest} (single : '/' ∉ r.runId.toList) : ¬r.Climbs := by
  have nothing : r.further = [] := by rw [further, Text.splitAt_eq_singleton single]; rfl
  rw [Climbs, nothing]
  decide

/-- Under a run id that is one component, an output directory lies directly beside the artifact. -/
theorem exists_outputDirectory {r : DualRunRequest} (single : '/' ∉ r.runId.toList) (v : Variant) :
    ∃ name, Path.Ordinary name ∧ r.outputDirectory v = r.artifactDirectory.child name := by
  obtain ⟨letters, begun⟩ := List.head?_eq_some_iff.1 (head_opening v)
  refine ⟨_, ⟨⟨?_, ?_⟩, ?_, ?_⟩, r.outputDirectory_eq v⟩
  · simp [begun]
  · rw [String.toList_append, List.mem_append, not_or]
    exact ⟨slash_notMem_opening v, single⟩
  · intro same
    simpa [begun] using congrArg String.toList same
  · intro same
    simpa [begun] using congrArg String.toList same

theorem artifactDirectory_filled (r : DualRunRequest) : r.artifactDirectory.isEmpty = false := by
  cases found : r.artifact.properParent? with
  | none =>
    rw [artifactDirectory, found]
    rfl
  | some parent =>
    rw [artifactDirectory, found]
    exact (Path.properParent?_iff.1 found).2

theorem lookup_artifactDirectory {r : DualRunRequest} {fs : FileSystem}
    {contents : ByteArray} {executable : Bool}
    (there : fs.lookup r.artifact = .ok (.file contents executable)) :
    fs.lookup r.artifactDirectory = .ok .directory := by
  cases located : fs.locate r.artifact with
  | error cause => simp [lookup, located, bind, Except.bind] at there
  | ok location =>
    cases found : r.artifact.properParent? with
    | some parent =>
      rw [artifactDirectory, found]
      exact Action.lookup_of_locate found located
    | none =>
      have relative : r.artifact.isAbsolute = false := by
        rw [Bool.eq_false_iff]
        intro rooted
        cases above : r.artifact.parent? with
        | some parent =>
          have blank : parent.isEmpty = true := by
            by_contra filled
            rw [Path.properParent?_iff.2 ⟨above, Bool.eq_false_iff.2 filled⟩] at found
            cases found
          have rooted' := (Path.steps_of_parent? above).1.trans rooted
          simp [Path.isAbsolute, List.isEmpty_iff.1 blank] at rooted'
        -- Only dots: that is the root, and no file.
        | none =>
          have same := (eq_of_locate located).trans (Path.location_of_parent?_eq_none above _)
          rw [Path.start, if_pos rooted] at same
          simp [lookup, located, same, node?, bind, Except.bind] at there
      have origin := Action.directory_of_relative relative located
      have here : fs.locate .here = .ok fs.origin := by
        change fs.walk fs.origin ["."] = .ok fs.origin
        rw [walk, origin]
        rfl
      rw [artifactDirectory, found]
      simp only [lookup, Option.getD_none, here, origin, bind, Except.bind]

theorem properParent?_outputDirectory {r : DualRunRequest} (single : '/' ∉ r.runId.toList)
    (v : Variant) : (r.outputDirectory v).properParent? = some r.artifactDirectory := by
  have trimmed : r.artifactDirectory.Trimmed := by
    cases found : r.artifact.properParent? with
    | none =>
      rw [artifactDirectory, found]
      exact Path.trimmed_here
    | some parent =>
      obtain ⟨found', filled⟩ := Path.properParent?_iff.1 found
      rw [artifactDirectory, found]
      exact Path.trimmed_of_parent? found' filled
  obtain ⟨name, ordinary, child⟩ := exists_outputDirectory single v
  rw [child]
  exact Path.properParent?_iff.2
    ⟨trimmed.parent?_child ordinary.isName ordinary.notDot, r.artifactDirectory_filled⟩

theorem descends_outputDirectory {r : DualRunRequest} (single : '/' ∉ r.runId.toList)
    (plain : ".." ∉ r.artifactDirectory.steps) {v : Variant}
    (sound : flaw? (r.outputDirectory v) = none) : Descends (r.outputDirectory v) := by
  obtain ⟨name, ordinary, child⟩ := exists_outputDirectory single v
  have steps : (r.outputDirectory v).steps = r.artifactDirectory.steps ++ [name] := by
    rw [child, Path.steps_child _ ordinary.isName]
  refine ⟨sound, ?_, ?_⟩
  · rw [steps, List.mem_append, List.mem_singleton, not_or]
    exact ⟨plain, ordinary.notDots.symm⟩
  · rw [steps, List.getLast?_concat]
    exact fun same => ordinary.notDot (Option.some.inj same)

end DualRunRequest

namespace DualRun

section

variable (d : DualRun) (fs : FileSystem)

def output (v : Variant) : Set Location := within ((d.request.outputDirectory v).location fs.origin)

instance (p : Path) (origin : Location) (v : Variant) :
    Decidable (p.Avoids origin (d.output fs v)) :=
  inferInstanceAs (Decidable (p.Avoids origin (within _)))

def candidates (v : Variant) : List Path :=
  Sandbox.candidates d.host.temporary d.request.program (d.host.suffixes v)

/-- The sandbox that a variant gets if it runs alone. -/
def sandbox? (v : Variant) : Option Path :=
  match (EngineRun.resetDirectory (d.request.outputDirectory v)).on fs with
  | (.ok (), after) =>
    ((Sandbox.claim d.host.temporary d.request.program (d.host.suffixes v)).on after).1.toOption
  | (.error _, _) => none

def ground (v : Variant) : Set Location :=
  d.output fs v ∪ {place | ∃ q ∈ d.sandbox? fs v, place ∈ within (q.location fs.origin)}

/-- The two runs have nothing in common but what both only read: the run id is one component, and
the artifact's directory and the environment file lie outside the output directories. Sandboxes have
names of their own, which no other path leads through. -/
structure Separate : Prop where
  runId : '/' ∉ d.request.runId.toList
  inputs : ∀ v, ∀ p ∈ d.request.inputs, p.Avoids fs.origin (d.output fs v)
  sandboxesOutside : ∀ v w, ∀ q ∈ d.candidates v, q.Avoids fs.origin (d.output fs w)
  sandboxesApart : ∀ v, ∀ q ∈ d.candidates v, ∀ p ∈ d.request.inputs ++ d.candidates v.other,
    p.Avoids fs.origin (within (q.location fs.origin))

/-- What the output directories lie in need not be made any more. -/
structure Settled : Prop extends d.Separate fs where
  outputs : ∀ v, fs.locate (d.request.outputDirectory v) ≠ .error .notFound

end

section

variable {d : DualRun} {fs : FileSystem}

theorem mem_candidates {v : Variant} {q : Path} (got : q ∈ d.sandbox? fs v) :
    q ∈ d.candidates v := by
  unfold sandbox? at got
  split at got
  · next after _ =>
    rcases claimed : (Sandbox.claim d.host.temporary d.request.program (d.host.suffixes v)).on after
      with ⟨cause | sandbox, last⟩ <;> rw [claimed] at got <;> cases got
    exact (Sandbox.claim_ok claimed).1
  · cases got

namespace Separate

theorem notMem_output (separate : d.Separate fs) {v w : Variant} (apart : v ≠ w) :
    (d.request.outputDirectory w).location fs.origin ∉ d.output fs v := by
  have others := (DualRunRequest.outputsApart_of_not_climbs
    (DualRunRequest.not_climbs separate.runId) fs).others v w apart
  rwa [Bool.eq_false_iff, ne_eq, isWithin_iff] at others

/-- No output directory lies in a sandbox: its parent does not, and it is none itself. -/
theorem notMem_sandbox (separate : d.Separate fs) {v : Variant} {q : Path}
    (candidate : q ∈ d.candidates v) (w : Variant) :
    (d.request.outputDirectory w).location fs.origin ∉ within (q.location fs.origin) := by
  obtain ⟨name, ordinary, child⟩ :=
    DualRunRequest.exists_outputDirectory separate.runId w
  have outside := separate.sandboxesOutside v w q candidate _ (q.location_mem_way fs.origin)
  have parent := separate.sandboxesApart v q candidate d.request.artifactDirectory (by
    simp [DualRunRequest.inputs]) _ (Path.location_mem_way _ fs.origin)
  rw [output, child, Path.location_child _ ordinary] at outside
  rw [child, Path.location_child _ ordinary]
  intro inside
  rcases List.prefix_concat_iff.1 inside with same | inside
  · exact outside (by rw [same]; exact List.prefix_refl _)
  · exact parent inside

theorem candidate_apart (separate : d.Separate fs) {v : Variant} {q : Path}
    (candidate : q ∈ d.candidates v) : q.Apart fs.origin (d.ground fs v.other) := by
  have here := q.location_mem_way fs.origin
  have outside := separate.sandboxesOutside v v.other q candidate
  have others : ∀ q' ∈ d.sandbox? fs v.other,
      q.Avoids fs.origin (within (q'.location fs.origin)) := fun q' got =>
    separate.sandboxesApart v.other q' (mem_candidates got) q (by simp [candidate])
  constructor
  · rintro place member (inside | ⟨q', got, inside⟩)
    · exact outside place member inside
    · exact others q' got place member inside
  · rintro place behind (inside | ⟨q', got, inside⟩)
    · exact notMem_within (outside _ here) (separate.notMem_sandbox candidate v.other) place behind
        inside
    · have back := separate.sandboxesApart v q candidate q' (by simp [mem_candidates got]) _
        (q'.location_mem_way fs.origin)
      exact notMem_within (others q' got _ here) back place behind inside

theorem output_apart (separate : d.Separate fs) (v : Variant) :
    (d.request.outputDirectory v).Apart fs.origin (d.ground fs v.other) := by
  obtain ⟨name, ordinary, child⟩ :=
    DualRunRequest.exists_outputDirectory separate.runId v
  have above : d.request.artifactDirectory ∈ d.request.inputs := by simp [DualRunRequest.inputs]
  have own := Path.location_child d.request.artifactDirectory ordinary fs.origin
  rw [← child] at own
  constructor
  · intro place member inside
    rw [child, Path.mem_way_child ordinary, ← own] at member
    rcases member with member | rfl <;> rcases inside with inside | ⟨q, got, inside⟩
    · exact separate.inputs v.other _ above place member inside
    · exact separate.sandboxesApart v.other q (mem_candidates got) _
        (List.mem_append_left _ above) place member inside
    · exact separate.notMem_output v.other_ne inside
    · exact separate.notMem_sandbox (mem_candidates got) v inside
  · rintro place behind (inside | ⟨q, got, inside⟩)
    · exact notMem_within (separate.notMem_output v.other_ne)
        (separate.notMem_output v.other_ne.symm) place behind inside
    · have outside := separate.sandboxesOutside v.other v q (mem_candidates got) _
        (q.location_mem_way fs.origin)
      exact notMem_within (separate.notMem_sandbox (mem_candidates got) v) outside place behind
        inside

theorem input_avoids (separate : d.Separate fs) {p : Path} (input : p ∈ d.request.inputs)
    (v : Variant) : p.Avoids fs.origin (d.ground fs v) := by
  rintro place member (inside | ⟨q, got, inside⟩)
  · exact separate.inputs v p input place member inside
  · exact separate.sandboxesApart v q (mem_candidates got) p (List.mem_append_left _ input) place
      member inside

theorem ground_apart (separate : d.Separate fs) (v : Variant) :
    ∀ place ∈ d.ground fs v, place ∉ d.ground fs v.other := by
  rintro place (inside | ⟨q, got, inside⟩)
  · exact (separate.output_apart v).behind place inside
  · exact (separate.candidate_apart (mem_candidates got)).behind place inside

end Separate

end

end DualRun

end GuidedExploration
