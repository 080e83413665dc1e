import GuidedExploration.Batch.EngineStages
import GuidedExploration.Configuration.Settings
import GuidedExploration.Proofs.Batch.Work
import GuidedExploration.Proofs.FileSystem.Location
import GuidedExploration.Shell.Launch

/-!
Where a profiling command writes its trace and where the trace is then looked for. Both are told by
one path, but the command follows it from the directory of the program and the batch from its own.
-/

set_option autoImplicit false

namespace GuidedExploration

/-- A directory whose path leads back to it from inside: an absolute one, one that goes as far down
as up, or the root, if the path goes up to it from both places. -/
def Path.IsReentrant (p : Path) (origin : Location) : Prop :=
  p.isAbsolute = true ∨ (Bearing.ofSteps p.steps).down.length = (Bearing.ofSteps p.steps).up ∨
    (origin.length ≤ (Bearing.ofSteps p.steps).up ∧
      (Bearing.ofSteps p.steps).down.length ≤ (Bearing.ofSteps p.steps).up)

instance (p : Path) (origin : Location) : Decidable (p.IsReentrant origin) := by
  unfold Path.IsReentrant
  infer_instance

/-- Below a relative root without dots the path of a directory never leads back to it. -/
theorem Path.not_isReentrant {p : Path} (relative : p.isAbsolute = false) (origin : Location)
    (plain : ".." ∉ p.steps) (named : ∃ name ∈ p.steps, name ≠ ".") : ¬p.IsReentrant origin := by
  obtain ⟨level, down⟩ := Bearing.ofSteps_of_notMem plain
  have lower : 0 < (Bearing.ofSteps p.steps).down.length := by
    obtain ⟨name, member, different⟩ := named
    rw [down]
    exact List.length_pos_of_mem (List.mem_filter.2 ⟨member, by simpa using different⟩)
  rintro (rooted | same | ⟨_, low⟩)
  · rw [relative] at rooted
    cases rooted
  · omega
  · omega

theorem Path.location_location_iff (p : Path) (origin : Location) :
    p.location (p.location origin) = p.location origin ↔ p.IsReentrant origin := by
  by_cases rooted : p.isAbsolute = true
  · simp [location_eq_lead, start, rooted, IsReentrant]
  · simp only [location_eq_lead, start, rooted, IsReentrant, Bool.false_eq_true, if_false, false_or]
    exact Bearing.lead_lead_iff _ _

theorem Shell.eq_of_enter {command : Command} {p : Path} {fs view : FileSystem}
    (directed : command.directory = some p) (entered : (enter command).on fs = (.ok (), view)) :
    view = { fs with origin := p.location fs.origin } := by
  simp only [enter, directed, FileSystem.Action.on_bind, FileSystem.Action.on_ask] at entered
  cases located : fs.locate p with
  | error cause => simp [located] at entered
  | ok location =>
    have reached := FileSystem.eq_of_locate located
    cases found : fs.lookup p with
    | error cause => simp [located, found] at entered
    | ok node =>
      cases node with
      | file contents executable => simp [located, found] at entered
      | directory =>
        simp only [located, found, FileSystem.Action.on_modify, Prod.mk.injEq] at entered
        rw [← reached, ← entered.2]

namespace EngineStages

theorem ordinary_traceFile : Path.Ordinary traceFile := by decide

theorem execute_of_runProfiling {σ : Type} {s : EngineStages} {a : Assignment}
    {words : List String} {w after : World σ}
    (ran : (s.runProfiling a words).on w = (.ok (), after)) :
    ∃ exe arguments ending output, words.map (substituted a.program) = exe :: arguments ∧
      (Command.execute s.host.launch (profileCommand a exe arguments) s.profileLimit).on w.files =
        (.ok (.ended ending output), after.files) := by
  unfold runProfiling at ran
  split at ran
  · cases ran
  · next exe arguments given =>
    rw [Work.on_bind, Work.on_files, FileSystem.Operation.on_at] at ran
    rcases executed : (Command.execute s.host.launch (profileCommand a exe arguments)
      s.profileLimit).on w.files with ⟨cause | ⟨ending, output⟩ | _, files⟩
    · rw [executed] at ran
      cases ran
    · rw [executed] at ran
      cases ran
      exact ⟨exe, arguments, ending, output, given, executed⟩
    · rw [executed] at ran
      cases ran

theorem profile_of_runProfiling {σ : Type} {s : EngineStages} {a : Assignment}
    {words : List String} {w after : World σ} (commanded : a.settings.profileCommand = some words)
    (ran : (s.runProfiling a words).on w = (.ok (), after)) :
    ((s.profile a).on w).2.files =
      ((ValueMap.generate (a.directory.child traceFile) (a.directory.child mapFile)
        a.settings.thresholds).on after.files).2 := by
  simp only [profile, commanded, Work.on_bind, ran, Work.on_files]
  rcases (ValueMap.generate (a.directory.child traceFile) (a.directory.child mapFile)
    a.settings.thresholds).on after.files with ⟨fault | ⟨map, report⟩, files⟩ <;> rfl

/-- The trace file that a profiling command is told to write is the one that a map is then made of
exactly when the path of the directory is reentrant, and so it is with the directory itself.
Whatever the files are by then, the paths lead to these places if they can be followed. -/
theorem profile_agrees_iff {σ : Type} {s : EngineStages} {a : Assignment} {words : List String}
    {w after : World σ} (commanded : a.settings.profileCommand = some words)
    (ran : (s.runProfiling a words).on w = (.ok (), after)) :
    ∃ (command : Command) (ending : Ending) (output log directory : String) (trace : Path),
      (command.execute s.host.launch s.profileLimit).on w.files =
        (.ok (.ended ending output), after.files) ∧
      command.directory = some a.directory ∧
      command.environment = [("VASE_LOG", log), ("VASE_DIR", directory)] ∧
      trace = a.directory.child traceFile ∧
      ((s.profile a).on w).2.files =
        ((ValueMap.generate trace (a.directory.child mapFile) a.settings.thresholds).on
          after.files).2 ∧
      ∀ view : FileSystem, (Shell.enter command).on w.files = (.ok (), view) →
        (Path.location ⟨log⟩ view.origin = trace.location w.files.origin ↔
          a.directory.IsReentrant w.files.origin) ∧
        (Path.location ⟨directory⟩ view.origin = a.directory.location w.files.origin ↔
          a.directory.IsReentrant w.files.origin) ∧
        (∀ (fs : FileSystem) (location : Location), fs.origin = view.origin → fs.locate ⟨log⟩ = .ok location →
          location = Path.location ⟨log⟩ view.origin) ∧
        (∀ (fs : FileSystem) (location : Location), fs.origin = w.files.origin → fs.locate trace = .ok location →
          location = trace.location w.files.origin) := by
  obtain ⟨exe, arguments, ending, output, given, executed⟩ := execute_of_runProfiling ran
  refine ⟨profileCommand a exe arguments, ending, output, (a.directory.child traceFile).text,
    a.directory.text, a.directory.child traceFile, executed, rfl, rfl, rfl,
    profile_of_runProfiling commanded ran, fun view entered => ?_⟩
  have inside := Shell.eq_of_enter rfl entered
  subst inside
  refine ⟨?_, ?_, ?_, ?_⟩
  -- The trace file lies directly in the directory on both sides, so the directory decides.
  · show (a.directory.child traceFile).location _ = _ ↔ _
    rw [Path.location_child _ ordinary_traceFile, Path.location_child _ ordinary_traceFile,
      List.append_left_inj]
    exact a.directory.location_location_iff w.files.origin
  · exact a.directory.location_location_iff w.files.origin
  · intro fs location same reached
    rw [FileSystem.eq_of_locate reached, same]
  · intro fs location same reached
    rw [FileSystem.eq_of_locate reached, same]

def workshop : FileSystem where
  nodes := .ofList ([["work"], ["work", "evp_artifacts"], ["work", "evp_artifacts", "coreutils"],
    ["work", "evp_artifacts", "coreutils", "ls"]].map fun location => (location, .directory))
  origin := ["work"]

def listing (root : Path) : Assignment where
  category := "coreutils"
  program := "ls"
  settings := { profileCommand := some ["sh"] }
  configuration := .empty
  directory := GuidedExploration.programDirectory root "coreutils" "ls"

def idle : EngineStages where
  host :=
    { launch := fun _ _ => pure (.ended (.exited 0) [] [])
      temporary := ⟨"/tmp"⟩
      suffixes := fun _ => [] }
  engine := { program := ⟨"klee"⟩ }
  runId := fun _ => "run"

theorem profile_agrees_below_absolute_root :
    (listing ⟨"/work/evp_artifacts"⟩).settings.profileCommand = some ["sh"] ∧
    (idle.runProfiling (listing ⟨"/work/evp_artifacts"⟩) ["sh"]).on (.ofFiles workshop ()) =
      (.ok (), .ofFiles workshop ()) ∧
    ∃ (command : Command) (view : FileSystem) (log : String),
      (Shell.enter command).on workshop = (.ok (), view) ∧
      command.environment.lookup "VASE_LOG" = some log ∧
      Path.location ⟨log⟩ view.origin =
        ((listing ⟨"/work/evp_artifacts"⟩).directory.child traceFile).location workshop.origin := by
  have ran : (idle.runProfiling (listing ⟨"/work/evp_artifacts"⟩) ["sh"]).on
      (.ofFiles workshop ()) = (.ok (), .ofFiles workshop ()) := rfl
  obtain ⟨command, ending, output, log, directory, trace, executed, directed, told, rfl, made,
    agrees⟩ := profile_agrees_iff rfl ran
  have entered : (Shell.enter command).on workshop =
      (.ok (), { workshop with origin := ["work", "evp_artifacts", "coreutils", "ls"] }) := by
    simp only [Shell.enter, directed]
    rfl
  exact ⟨rfl, ran, command, _, log, entered, by rw [told]; rfl,
    (agrees _ entered).1.2 (by decide)⟩

/-- Below the root that is meant when none is given, the trace is written in one place and looked
for in another one. -/
theorem default_root_disagrees :
    ∃ (root : Path) (view : FileSystem) (log : String),
      (EngineSettings.ofEnvironment fun _ => none).artifactsRoot = root ∧
      (Shell.enter (profileCommand (listing root) "sh" [])).on workshop = (.ok (), view) ∧
      (profileCommand (listing root) "sh" []).environment.lookup "VASE_LOG" = some log ∧
      Path.location ⟨log⟩ view.origin ≠ ((listing root).directory.child traceFile).location workshop.origin :=
  ⟨⟨"./evp_artifacts"⟩,
    { workshop with origin := ["work", "evp_artifacts", "coreutils", "ls"] }, _, rfl, rfl, rfl,
    by decide⟩

end EngineStages

end GuidedExploration
