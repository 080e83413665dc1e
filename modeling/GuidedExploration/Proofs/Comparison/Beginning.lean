import GuidedExploration.Proofs.Comparison.Interleaving
import GuidedExploration.Proofs.Engine.Upshot

/-!
A dual run whose artifact has no directory yet. Both runs make it together with their output
directories, and whichever comes first makes it for the other one too.
-/

set_option autoImplicit false

namespace GuidedExploration

open FileSystem EngineRun

namespace DualRun

variable {σ : Type}

/-- The file system with the artifact's directory in it, or as much of that as can be made. -/
def prepared (d : DualRun) (fs : FileSystem) : FileSystem :=
  ((Action.makeDirectories d.request.artifactDirectory).on fs).2

/-- The artifact's directory is still to be made. The way there only goes down: one that went up again
could end in a directory with something in it, which a run empties only if the way is made. -/
structure Wanting (d : DualRun) (fs : FileSystem) : Prop extends d.Separate fs where
  based : fs.isDirectory fs.origin = true
  plain : ".." ∉ d.request.artifactDirectory.steps
  missing : ∃ v, fs.locate (d.request.outputDirectory v) = .error .notFound

section

variable {d : DualRun} {fs fs' : FileSystem} {w : Worker σ}

theorem Separate.of_origin (separate : d.Separate fs) (same : fs.origin = fs'.origin) :
    d.Separate fs' := by
  cases fs
  cases fs'
  cases same
  exact ⟨separate.runId, separate.inputs, separate.sandboxesOutside, separate.sandboxesApart⟩

theorem origin_prepared (d : DualRun) (fs : FileSystem) : fs.origin = (d.prepared fs).origin :=
  (Action.makeAll_frame _ fs).origin

namespace Wanting

theorem start (wanting : d.Wanting fs) : fs.node? fs.origin = some .directory :=
  beq_iff_eq.1 wanting.based

theorem parent (wanting : d.Wanting fs) (v : Variant) :
    (d.request.outputDirectory v).properParent? = some d.request.artifactDirectory :=
  DualRunRequest.properParent?_outputDirectory wanting.runId v

theorem locate (wanting : d.Wanting fs) (v : Variant) :
    (∃ cause, cause ≠ .notFound ∧ ∀ s : FileSystem,
        s.locate (d.request.outputDirectory v) = .error cause) ∨
      Descends (d.request.outputDirectory v) ∧
        fs.locate (d.request.outputDirectory v) = .error .notFound := by
  have filled : ∀ u, (d.request.outputDirectory u).isEmpty = false := fun u =>
    Path.isEmpty_of_parent? (Path.properParent?_iff.1 (wanting.parent u)).1
  cases flaw : flaw? (d.request.outputDirectory v) with
  | some cause =>
    refine .inl ⟨cause, ?_, locate_of_flaw flaw⟩
    rintro rfl
    exact flaw?_ne_notFound (filled v) flaw
  | none =>
    obtain ⟨u, missing⟩ := wanting.missing
    have descends : ∀ {v}, flaw? (d.request.outputDirectory v) = none →
        Descends (d.request.outputDirectory v) :=
      DualRunRequest.descends_outputDirectory wanting.runId wanting.plain
    have above := ((descends (flaw?_of_missing (filled u) missing)).missing_iff
      (wanting.parent u)).1 missing
    exact .inr ⟨descends flaw, ((descends flaw).missing_iff (wanting.parent v)).2 above⟩

theorem settled (wanting : d.Wanting fs) : d.Settled (d.prepared fs) where
  toSeparate := wanting.toSeparate.of_origin (d.origin_prepared fs)
  outputs := by
    intro v
    rcases wanting.locate v with ⟨cause, obstacle, located⟩ | ⟨descends, missing⟩
    · rw [located]
      simpa using obstacle
    · exact locate_after_parent_ne wanting.start descends (wanting.parent v) missing

theorem exists?_output (wanting : d.Wanting fs) (v : Variant) {s : FileSystem}
    (either : s = fs ∨ s = d.prepared fs) : s.exists? (d.request.outputDirectory v) = false := by
  rcases wanting.locate v with ⟨cause, -, located⟩ | ⟨descends, missing⟩
  · exact exists?_of_error (located s)
  · rcases either with rfl | rfl
    · exact exists?_of_error missing
    · exact exists?_after_parent wanting.start descends (wanting.parent v) missing

/-- Making an output directory fails at once, whatever there is, or it does as well when the
artifact's directory is already made. -/
theorem makeDirectories_output (wanting : d.Wanting fs) (v : Variant) :
    (∃ cause, ∀ s,
      (Action.makeDirectories (d.request.outputDirectory v)).on s = (.error cause, s)) ∨
      (Action.makeDirectories (d.request.outputDirectory v)).on (d.prepared fs) =
        (Action.makeDirectories (d.request.outputDirectory v)).on fs := by
  rcases wanting.locate v with ⟨cause, obstacle, located⟩ | ⟨descends, missing⟩
  · exact .inl ⟨cause, fun s => Action.on_makeDirectories_of_error (located s) obstacle⟩
  · exact .inr (makeDirectories_after_parent wanting.start descends (wanting.parent v) missing)

theorem sandbox?_prepared (wanting : d.Wanting fs) (v : Variant) :
    d.sandbox? (d.prepared fs) v = d.sandbox? fs v := by
  unfold sandbox?
  rw [resetDirectory_of_free (wanting.exists?_output v (.inl rfl)),
    resetDirectory_of_free (wanting.exists?_output v (.inr rfl))]
  rcases wanting.makeDirectories_output v with ⟨cause, stuck⟩ | same
  · rw [stuck, stuck]
  · rw [same]

theorem ground_prepared (wanting : d.Wanting fs) (v : Variant) :
    d.ground (d.prepared fs) v = d.ground fs v := by
  rw [ground, ground, output, output, wanting.sandbox?_prepared, ← d.origin_prepared fs]

theorem confined (wanting : d.Wanting fs) (confined : d.Confined fs w) :
    d.Confined (d.prepared fs) w where
  launcher := confined.launcher
  keeps := by
    intro v environment sandbox state got
    rw [wanting.sandbox?_prepared] at got
    rw [wanting.ground_prepared, wanting.ground_prepared, ← d.origin_prepared fs]
    exact confined.keeps v environment sandbox state got

theorem reset (wanting : d.Wanting fs) (w : Worker σ) (v : Variant) {s : FileSystem}
    (either : s = fs ∨ s = d.prepared fs) :
    (d.run v).act w (.standing .reset) s = (.standing .make, s) := by
  have own : (d.run v).outputDirectory = d.request.outputDirectory v := rfl
  rw [act_reset, own]
  dsimp only
  rw [clearDirectory_of_free (wanting.exists?_output v either)]
  rfl

theorem make (wanting : d.Wanting fs) (w : Worker σ) (v : Variant) :
    (∃ record, ∀ s, (d.run v).act w (.standing .make) s = (.standing (.done record), s)) ∨
      (d.run v).act w (.standing .make) (d.prepared fs) =
        (d.run v).act w (.standing .make) fs := by
  have own : (d.run v).outputDirectory = d.request.outputDirectory v := rfl
  rw [act_make, own]
  dsimp only
  rcases wanting.makeDirectories_output v with ⟨cause, stuck⟩ | same
  · refine .inl ⟨(d.run v).notStarted cause.message, fun s => ?_⟩
    rw [stuck]
    rfl
  · rw [same]
    exact .inr rfl

theorem exists_make (wanting : d.Wanting fs) (w : Worker σ) :
    ∃ u, (d.run u).act w (.standing .make) (d.prepared fs) =
      (d.run u).act w (.standing .make) fs := by
  obtain ⟨u, missing⟩ := wanting.missing
  refine ⟨u, ?_⟩
  rcases wanting.locate u with ⟨cause, obstacle, located⟩ | ⟨descends, -⟩
  · rw [located] at missing
    cases missing
    exact absurd rfl obstacle
  · have own : (d.run u).outputDirectory = d.request.outputDirectory u := rfl
    have same := makeDirectories_after_parent wanting.start descends (wanting.parent u) missing
    rw [act_make, own]
    dsimp only
    rw [prepared, same]

end Wanting

def Pending (a : Activity σ) : Prop := a = .standing .reset ∨ a = .standing .make

/-- Until a run acts that makes the artifact's directory, it may as well be there. -/
theorem Wanting.outcome?_pursue (wanting : d.Wanting fs) (w : Worker σ) {u : Variant}
    (makes : (d.run u).act w (.standing .make) (d.prepared fs) =
      (d.run u).act w (.standing .make) fs) (order : List Variant)
    {activity : Variant → Activity σ} (waiting : Pending (activity u))
    (early : ∀ v, Pending (activity v) ∨ ∃ record, activity v = .standing (.done record)) :
    d.outcome? (d.pursue w order ⟨activity, d.prepared fs⟩) =
      d.outcome? (d.pursue w order ⟨activity, fs⟩) := by
  induction order generalizing activity with
  | nil => rcases waiting with waiting | waiting <;> cases u <;> simp [pursue, outcome?, waiting]
  | cons v order ih =>
    change d.outcome? (d.pursue w order (d.advance w ⟨activity, d.prepared fs⟩ v)) =
      d.outcome? (d.pursue w order (d.advance w ⟨activity, fs⟩ v))
    -- An act that leaves the files alone brings both to the same activities.
    have idle : ∀ a, (∀ s, s = fs ∨ s = d.prepared fs → (d.run v).act w (activity v) s = (a, s)) →
        (v = u → Pending a) → (Pending a ∨ ∃ record, a = .standing (.done record)) →
          d.outcome? (d.pursue w order (d.advance w ⟨activity, d.prepared fs⟩ v)) =
            d.outcome? (d.pursue w order (d.advance w ⟨activity, fs⟩ v)) := by
      intro a acts own later
      simp only [advance, acts _ (.inl rfl), acts _ (.inr rfl)]
      apply ih
      · rcases eq_or_ne u v with rfl | apart
        · rw [Function.update_self]
          exact own rfl
        · rwa [Function.update_of_ne apart]
      · intro v'
        rcases eq_or_ne v' v with rfl | apart
        · rwa [Function.update_self]
        · rw [Function.update_of_ne apart]
          exact early v'
    rcases early v with (reset | make) | ⟨record, done⟩
    · apply idle (.standing .make)
      · intro s either
        rw [reset, wanting.reset w v either]
      · exact fun _ => .inr rfl
      · exact .inl (.inr rfl)
    · by_cases same : (d.run v).act w (.standing .make) (d.prepared fs) =
        (d.run v).act w (.standing .make) fs
      · simp only [advance, make, same]
      · obtain ⟨record, acts⟩ := (wanting.make w v).resolve_right same
        apply idle (.standing (.done record))
        · intro s _
          rw [make, acts]
        · rintro rfl
          exact absurd makes same
        · exact .inr ⟨record, rfl⟩
    · apply idle (.standing (.done record))
      · intro s _
        rw [done]
        rfl
      · rintro rfl
        rcases waiting with waiting | waiting <;> rw [done] at waiting <;> cases waiting
      · exact .inr ⟨record, rfl⟩

theorem Separate.settled (separate : d.Separate fs)
    (known : fs.lookup d.request.artifactDirectory ≠ .error .notFound) : d.Settled fs where
  toSeparate := separate
  outputs := by
    intro v
    have found := DualRunRequest.properParent?_outputDirectory separate.runId v
    obtain ⟨name, ordinary, child⟩ := DualRunRequest.exists_outputDirectory separate.runId v
    rw [child] at found ⊢
    exact Action.locate_child_ne ordinary found known

theorem Wanting.eq_inTurn (wanting : d.Wanting fs) (confined : d.Confined fs w)
    (order : List Variant) :
    ∀ outcome ∈ d.outcome? (d.pursue w order (.start fs)), outcome = d.inTurn fs := by
  obtain ⟨u, makes⟩ := wanting.exists_make w
  have settled : ∀ order, ∀ outcome ∈ d.outcome? (d.pursue w order (.start fs)),
      outcome = d.inTurn (d.prepared fs) := by
    intro order outcome ended
    have late : d.outcome? (d.pursue w order (.start (d.prepared fs))) =
        d.outcome? (d.pursue w order (.start fs)) :=
      wanting.outcome?_pursue w makes order (.inl rfl) fun _ => .inl (.inl rfl)
    rw [← late] at ended
    exact eq_inTurn_of_settled wanting.settled (wanting.confined confined) order outcome ended
  -- One run after the other is such an order as well.
  obtain ⟨turns, given⟩ := exists_order confined.launcher [] fs
  intro outcome ended
  rw [settled order outcome ended]
  exact (settled turns _ given).symm

/-- In whatever order the two runs act, once they are done the outcome is that of the baseline run
first and the other one after it, the names of the sandboxes being given; and done they are as soon
as each has acted often enough. It is no different if some steps are taken as a whole and the runs are
finished one after the other then. The artifact's directory may be there, or be missing for both. -/
theorem outcome_of_any_order (separate : d.Separate fs)
    (artifact : fs.lookup d.request.artifactDirectory ≠ .error .notFound ∨
      fs.isDirectory fs.origin = true ∧ ".." ∉ d.request.artifactDirectory.steps)
    (confined : d.Confined fs w) (order : List Variant) :
    (∀ outcome ∈ d.outcome? (d.pursue w order (.start fs)), outcome = d.inTurn fs) ∧
    ((∀ v, w.pieces d.engine.limit + 8 ≤ order.count v) →
      d.outcome? (d.pursue w order (.start fs)) = some (d.inTurn fs)) ∧
    d.interleave order fs = d.inTurn fs := by
  have same : ∀ order, ∀ outcome ∈ d.outcome? (d.pursue w order (.start fs)),
      outcome = d.inTurn fs := by
    by_cases outputs : ∀ v, fs.locate (d.request.outputDirectory v) ≠ .error .notFound
    · exact eq_inTurn_of_settled ⟨separate, outputs⟩ confined
    · simp only [not_forall, not_not] at outputs
      rcases artifact with known | ⟨based, plain⟩
      · obtain ⟨v, missing⟩ := outputs
        exact absurd missing ((separate.settled known).outputs v)
      · exact Wanting.eq_inTurn ⟨separate, based, plain, outputs⟩ confined
  refine ⟨same order, fun enough => ?_, ?_⟩
  · obtain ⟨outcome, ended⟩ := exists_outcome d w fs enough
    rw [ended, same order outcome ended]
  · obtain ⟨acts, ended⟩ := exists_order confined.launcher order fs
    exact same acts _ ended

end

def recorded : DualRun where
  host := { launch := scribe.launcher, temporary := ⟨"/tmp"⟩, suffixes := fun v => [v.name] }
  engine := { program := ⟨"klee"⟩ }
  request := .ofRunId "20250102-030405"

def leftBefore : FileSystem :=
  (DualRunRequest.leftBehind ["klee-baseline-out-20250102-030405"]
    "klee-baseline-out-20250102-030405").put ["tmp"] .directory

theorem separate_recorded : recorded.Separate leftBefore where
  runId := by decide
  inputs := by
    intro v
    cases v <;> decide +kernel
  sandboxesOutside := by
    intro v w
    cases v <;> cases w <;> decide +kernel
  sandboxesApart := by
    intro v
    cases v <;> decide +kernel

theorem outcome_of_turns :
    recorded.outcome? (recorded.pursue scribe
        (List.replicate 10 [Variant.profileGuided, .baseline]).flatten (.start leftBefore)) =
      some (recorded.inTurn leftBefore) := by
  have confined : recorded.Confined leftBefore scribe := confined_scribe separate_recorded rfl
  have there : leftBefore.lookup recorded.request.artifact = .ok (.file "code".toUTF8 false) := by
    decide +kernel
  have known : leftBefore.lookup recorded.request.artifactDirectory ≠ .error .notFound := by
    rw [DualRunRequest.lookup_artifactDirectory there]
    exact nofun
  refine (outcome_of_any_order separate_recorded (.inl known) confined _).2.1 ?_
  intro v
  cases v <;> decide

/-- An evaluation whose artifact is named by way of a directory that is not there. -/
def detoured : DualRun where
  host := recorded.host
  engine := recorded.engine
  request := .forProgram "ls" none none ⟨"/art/missing/../ls.bc"⟩ ⟨"/art/map.json"⟩ "r1"

/-- The artifact, and a test in each output directory of an earlier evaluation. There is no place for
sandboxes. -/
def leftByBoth : FileSystem where
  nodes := .ofList
    [(["art"], .directory), (["art", "ls.bc"], .file "code".toUTF8 false),
      (["art", "klee-baseline-out-r1"], .directory),
      (["art", "klee-baseline-out-r1", "test000001.ktest"], .file .empty false),
      (["art", "klee-profile-out-r1"], .directory),
      (["art", "klee-profile-out-r1", "test000001.ktest"], .file .empty false)]
  origin := []

theorem separate_detoured : detoured.Separate leftByBoth where
  runId := by decide
  inputs := by
    intro v
    cases v <;> decide +kernel
  sandboxesOutside := by
    intro v w
    cases v <;> cases w <;> decide +kernel
  sandboxesApart := by
    intro v
    cases v <;> decide +kernel

theorem inTurn_eq (d : DualRun) (fs : FileSystem) :
    d.inTurn fs =
      let baseline := (d.run .baseline).perform fs
      let profileGuided := (d.run .profileGuided).perform baseline.2
      (.ofRuns d.request.program d.request.runId baseline.1 profileGuided.1, profileGuided.2) := rfl

/-- Where the way to the output directories is still to be made and leads up again, whoever makes it
lets the other run see what an earlier one has left. Side by side both look before it is made, and
the old tests stay; in turn the profile-guided run removes its own. -/
theorem outcome_depends_on_order :
    detoured.Separate leftByBoth ∧ detoured.Confined leftByBoth scribe ∧
    (detoured.outcome? (detoured.pursue scribe preparation (.start leftByBoth))).map
      (fun outcome => countTests outcome.2 ⟨"/art/klee-profile-out-r1"⟩) = some 1 ∧
    countTests (detoured.inTurn leftByBoth).2 ⟨"/art/klee-profile-out-r1"⟩ = 0 := by
  refine ⟨separate_detoured, confined_scribe separate_detoured rfl, ?_, ?_⟩
  · decide +kernel
  · simp only [inTurn_eq, perform_eq]
    decide +kernel

end DualRun

end GuidedExploration
