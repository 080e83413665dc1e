import GuidedExploration.Batch.EngineStages
import GuidedExploration.Proofs.Batch.Work
import GuidedExploration.Proofs.Engine.Piecework
import GuidedExploration.Proofs.ValueMap.Reported

/-!
How profiling a program goes. Its command has to start and to end in time; then a map is made of the
trace that is there by then, however the command ended. Otherwise nothing more is done.
-/

set_option autoImplicit false

namespace GuidedExploration

theorem ValueMap.generate_error {trace out : Path} {t : Thresholds} {fs after : FileSystem}
    {fault : Fault} (failed : (generate trace out t).on fs = (.error fault, after)) :
    ∃ p cause, fault = .io p cause := by
  rw [on_generate_eq, generateFrom_eq, FileSystem.Operation.on_bind] at failed
  rcases saved : (((Trace.settled (fs.source trace)).table.buildMap t).save out).on fs with
    ⟨other | ⟨⟩, between⟩
  · rw [saved] at failed
    cases failed
    exact FileSystem.writeText_error saved
  · rw [saved] at failed
    cases failed

namespace EngineStages

open FileSystem

variable {σ : Type} {s : EngineStages} {a : Assignment}

def commandLine? (a : Assignment) : Option (List String) :=
  a.settings.profileCommand.map (List.map (substituted a.program))

/-- How it goes until a map is made: there is no command, or it ended in some way, or there is a
fault; and the files that are there then. -/
inductive Profiling (s : EngineStages) (a : Assignment) (fs : FileSystem) :
    Except Fault (Option Ending) → FileSystem → Prop where
  | unasked : commandLine? a = none → Profiling s a fs (.ok none) fs
  | wordless : commandLine? a = some [] →
      Profiling s a fs (.error (CategoryFlaw.emptyProfileCommand.fault a.category)) fs
  | ended {exe : String} {arguments : List String} {ending : Ending} {output : String}
      {files : FileSystem} : commandLine? a = some (exe :: arguments) →
      ((profileCommand a exe arguments).execute s.host.launch s.profileLimit).on fs =
        (.ok (.ended ending output), files) →
      Profiling s a fs (.ok (some ending)) files
  | timedOut {exe : String} {arguments : List String} {files : FileSystem} :
      commandLine? a = some (exe :: arguments) →
      ((profileCommand a exe arguments).execute s.host.launch s.profileLimit).on fs =
        (.ok .timedOut, files) →
      Profiling s a fs (.error (.phase .profile
        s!"profiling command timed out after {Command.seconds s.profileLimit}s")) files
  | unstarted {exe : String} {arguments : List String} {cause : Cause} {files : FileSystem} :
      commandLine? a = some (exe :: arguments) →
      ((profileCommand a exe arguments).execute s.host.launch s.profileLimit).on fs =
        (.error cause, files) →
      Profiling s a fs (.error (.io ⟨exe⟩ cause)) files

theorem exists_profiling (s : EngineStages) (a : Assignment) (fs : FileSystem) :
    ∃ result files, Profiling s a fs result files := by
  rcases given : commandLine? a with _ | _ | ⟨exe, arguments⟩
  · exact ⟨_, _, .unasked given⟩
  · exact ⟨_, _, .wordless given⟩
  · rcases executed : ((profileCommand a exe arguments).execute s.host.launch s.profileLimit).on fs
      with ⟨cause | ⟨ending, output⟩ | _, files⟩
    · exact ⟨_, _, .unstarted given executed⟩
    · exact ⟨_, _, .ended given executed⟩
    · exact ⟨_, _, .timedOut given executed⟩

theorem Profiling.unique {fs files files' : FileSystem} {result result' : Except Fault (Option Ending)}
    (went : Profiling s a fs result files) (went' : Profiling s a fs result' files') :
    result = result' ∧ files = files' := by
  -- The command line tells the first two ways apart from the others, its execution these.
  cases went with
  | unasked given | wordless given =>
    cases went' <;> simp_all
  | ended given executed | timedOut given executed | unstarted given executed =>
    cases went' with
    | unasked given' | wordless given' =>
      rw [given] at given'
      cases given'
    | ended given' executed' | timedOut given' executed' | unstarted given' executed' =>
      cases given.symm.trans given'
      cases executed.symm.trans executed' <;> exact ⟨rfl, rfl⟩

def askCommand (s : EngineStages) (a : Assignment) : Work σ Unit :=
  match a.settings.profileCommand with
  | none => pure ()
  | some words => s.runProfiling a words

def makeMap (a : Assignment) : Work σ Path := do
  let map := a.directory.child mapFile
  let (_, report) ←
    Work.files (ValueMap.generate (a.directory.child traceFile) map a.settings.thresholds)
  Work.print (mapMessage map report)
  return map

theorem on_profile (s : EngineStages) (a : Assignment) (w : World σ) :
    (s.profile a).on w =
      match (s.askCommand a).on w with
      | (.ok _, after) => (makeMap a).on after
      | (.error failure, after) => (.error failure, after) := by
  unfold profile askCommand makeMap
  cases a.settings.profileCommand with
  | none => simp only [Work.on_bind, Work.on_pure]
  | some words =>
    simp only [Work.on_bind]
    rcases (s.runProfiling a words).on w with ⟨failure | ⟨⟩, after⟩ <;> rfl

theorem on_askCommand {w : World σ} {result : Except Fault (Option Ending)} {files : FileSystem}
    (went : Profiling s a w.files result files) :
    (s.askCommand a).on w =
      ((result.map fun _ => ()).mapError Failure.fault, { w with files }) := by
  have commanded : ∀ {line}, commandLine? a = some line → ∃ words,
      a.settings.profileCommand = some words ∧ words.map (substituted a.program) = line :=
    fun given => Option.map_eq_some_iff.1 given
  unfold askCommand
  cases went with
  | unasked given =>
    rw [Option.map_eq_none_iff.1 given]
    rfl
  | wordless given =>
    obtain ⟨words, asked, line⟩ := commanded given
    simp only [asked, runProfiling, line]
    rfl
  | ended given executed | timedOut given executed | unstarted given executed =>
    obtain ⟨words, asked, line⟩ := commanded given
    simp only [asked, runProfiling, line, Work.on_bind, Work.on_files, Operation.on_at, executed]
    rfl

theorem on_makeMap (a : Assignment) (w : World σ) :
    (makeMap a).on w =
      match (ValueMap.generate (a.directory.child traceFile) (a.directory.child mapFile)
          a.settings.thresholds).on w.files with
      | (.ok (_, report), files) =>
        (.ok (a.directory.child mapFile),
          { w with files }.display (mapMessage (a.directory.child mapFile) report))
      | (.error fault, files) => (.error (.fault fault), { w with files }) := by
  rw [makeMap, Work.on_bind, Work.on_files]
  rcases (ValueMap.generate (a.directory.child traceFile) (a.directory.child mapFile)
    a.settings.thresholds).on w.files with ⟨fault | ⟨map, report⟩, files⟩ <;> rfl

theorem on_profile_of_ok {w : World σ} {ending : Option Ending} {files : FileSystem}
    (went : Profiling s a w.files (.ok ending) files) :
    (s.profile a).on w = (makeMap a).on { w with files } := by
  rw [on_profile, on_askCommand went]
  rfl

theorem on_profile_of_error {w : World σ} {fault : Fault} {files : FileSystem}
    (went : Profiling s a w.files (.error fault) files) :
    (s.profile a).on w = (.error (.fault fault), { w with files }) := by
  rw [on_profile, on_askCommand went]
  rfl

/-! ## What is left behind -/

/-- Whatever is run in the directory of the program leaves the map file there as it is. -/
def SparesMap (s : EngineStages) (a : Assignment) (fs : FileSystem) : Prop :=
  ∀ exe arguments,
    ((s.host.launch (profileCommand a exe arguments) s.profileLimit).on fs).2.bytes
      (a.directory.child mapFile) = fs.bytes (a.directory.child mapFile)

theorem bytes_of_profiling {fs files : FileSystem} {result : Except Fault (Option Ending)}
    (spares : s.SparesMap a fs) (went : Profiling s a fs result files) :
    files.bytes (a.directory.child mapFile) = fs.bytes (a.directory.child mapFile) := by
  -- Starting in the directory may fail; then nothing is run.
  have executed : ∀ {exe arguments result},
      ((profileCommand a exe arguments).execute s.host.launch s.profileLimit).on fs =
        (result, files) →
      files.bytes (a.directory.child mapFile) = fs.bytes (a.directory.child mapFile) := by
    intro exe arguments result executed
    rw [Command.on_execute] at executed
    split_ifs at executed
    · cases executed
      rfl
    · cases executed
      exact spares exe arguments
  cases went with
  | unasked | wordless => rfl
  | ended _ ran | timedOut _ ran | unstarted _ ran => exact executed ran

theorem profile_ok {w after : World σ} {p : Path} (done : (s.profile a).on w = (.ok p, after)) :
    p = a.directory.child mapFile ∧ ∃ ending files, Profiling s a w.files (.ok ending) files ∧
      ValueMap.load after.files p =
        .ok ((Trace.settled (files.source (a.directory.child traceFile))).table.buildMap
          a.settings.thresholds) := by
  obtain ⟨fault | ending, files, went⟩ := exists_profiling s a w.files
  · rw [on_profile_of_error went] at done
    cases done
  · rw [on_profile_of_ok went, on_makeMap] at done
    split at done
    · next map report last made =>
      cases done
      obtain ⟨rfl, saved⟩ := ValueMap.generate_ok made
      exact ⟨rfl, ending, files, went, ValueMap.load_of_text (Records.writeJson_ok saved).1⟩
    · cases done

/-- A map of a program lists what the accepted lines say that were in its trace when the command had
ended. -/
theorem lists_of_profile {w after : World σ} {p : Path}
    (done : (s.profile a).on w = (.ok p, after)) :
    ∃ ending files, Profiling s a w.files (.ok ending) files ∧
      ∀ contents, files.bytes (a.directory.child traceFile) = .ok contents →
        ∃ map, ValueMap.load after.files p = .ok map ∧
          ObservationTable.Lists map a.settings.thresholds
            (Trace.ofBytes contents.toList).observations := by
  obtain ⟨-, ending, files, went, loaded⟩ := profile_ok done
  refine ⟨ending, files, went, fun contents found => ⟨_, loaded, ?_⟩⟩
  rw [Trace.settled_source_of_bytes found]
  exact ObservationTable.lists_buildMap _ _

theorem profile_error {w after : World σ} {failure : Failure} {ending : Option Ending}
    {files : FileSystem} (went : Profiling s a w.files (.ok ending) files)
    (failed : (s.profile a).on w = (.error failure, after)) :
    ∃ fault, failure = .fault fault ∧
      (ValueMap.generate (a.directory.child traceFile) (a.directory.child mapFile)
        a.settings.thresholds).on files = (.error fault, after.files) := by
  rw [on_profile_of_ok went, on_makeMap] at failed
  split at failed
  · cases failed
  · next fault last unmade =>
    cases failed
    exact ⟨fault, rfl, unmade⟩

theorem profile_configuration_iff {w : World σ} :
    (∃ problem after, (s.profile a).on w = (.error (.fault (.configuration problem)), after)) ↔
      a.settings.profileCommand = some [] := by
  have wordless : commandLine? a = some [] ↔ a.settings.profileCommand = some [] := by
    simp [commandLine?]
  rw [← wordless]
  constructor
  · rintro ⟨problem, after, failed⟩
    obtain ⟨fault | ending, files, went⟩ := exists_profiling s a w.files
    · rw [on_profile_of_error went] at failed
      cases failed
      cases went with
      | wordless given => exact given
    -- After the command only the map can fail, and not through the configuration.
    · obtain ⟨fault, same, unmade⟩ := profile_error went failed
      cases same
      obtain ⟨p, cause, other⟩ := ValueMap.generate_error unmade
      cases other
  · intro given
    exact ⟨_, _, on_profile_of_error (.wordless given)⟩

theorem exists_profile {w : World σ} {ending : Option Ending} {files : FileSystem}
    (went : Profiling s a w.files (.ok ending) files)
    (ready : Writable files (a.directory.child mapFile)) :
    ∃ after, (s.profile a).on w = (.ok (a.directory.child mapFile), after) := by
  obtain ⟨map, report, after, made⟩ :=
    ValueMap.exists_generate ready (a.directory.child traceFile) a.settings.thresholds
  rw [on_profile_of_ok went, on_makeMap]
  dsimp only
  rw [made]
  exact ⟨_, rfl⟩

/-- Profiling that succeeds gives the map file of the program, which holds the map of the trace that
was there when the command had ended, or no keys if none could be read then. Any ending will do, so
that only writing the map can still fail. A command that cannot be started or that takes too long is
a fault, and the files are then as it left them, an older map among them. -/
theorem profile_by_course (s : EngineStages) (a : Assignment) (w : World σ) :
    (∃ result files, Profiling s a w.files result files) ∧
    (∀ p after, (s.profile a).on w = (.ok p, after) → p = a.directory.child mapFile ∧
      ∃ ending files, Profiling s a w.files (.ok ending) files ∧
        (∀ contents, files.bytes (a.directory.child traceFile) = .ok contents →
          ValueMap.load after.files p =
            .ok ((Trace.ofBytes contents.toList).table.buildMap a.settings.thresholds)) ∧
        ∀ cause, files.bytes (a.directory.child traceFile) = .error cause →
          ValueMap.load after.files p = .ok .empty) ∧
    (∀ ending files, Profiling s a w.files (.ok ending) files →
      (Writable files (a.directory.child mapFile) →
        ∃ after, (s.profile a).on w = (.ok (a.directory.child mapFile), after)) ∧
      ∀ failure after, (s.profile a).on w = (.error failure, after) →
        ∃ fault, failure = .fault fault ∧
          (ValueMap.generate (a.directory.child traceFile) (a.directory.child mapFile)
            a.settings.thresholds).on files = (.error fault, after.files)) ∧
    ∀ fault files, Profiling s a w.files (.error fault) files →
      (s.profile a).on w = (.error (.fault fault), { w with files }) ∧
        (s.SparesMap a w.files →
          files.bytes (a.directory.child mapFile) = w.files.bytes (a.directory.child mapFile)) := by
  refine ⟨exists_profiling s a w.files, fun p after done => ?_, fun ending files went => ?_,
    fun fault files went => ⟨on_profile_of_error went, fun spares => bytes_of_profiling spares went⟩⟩
  · obtain ⟨same, ending, files, went, loaded⟩ := profile_ok done
    refine ⟨same, ending, files, went, fun contents found => ?_, fun cause unread => ?_⟩
    · rw [loaded, Trace.settled_source_of_bytes found]
    · rw [loaded, Trace.table, Trace.observations_of_unread unread]
      exact congrArg Except.ok (ObservationTable.buildMap_empty _)
  · exact ⟨exists_profile went, fun failure after failed => profile_error went failed⟩

def traced : ByteArray := "loc:1:branch:0\tx:1\n".toUTF8

def tracing (fate : Fate) : EngineStages where
  host :=
    { launch := fun _ _ => do
        Action.write ⟨"/ls/vase_value_log.txt"⟩ traced
        return fate
      temporary := ⟨"/tmp"⟩
      suffixes := fun _ => [] }
  engine := { program := ⟨"klee"⟩ }
  runId := fun _ => "run"

def desk : FileSystem where
  nodes := .ofList [(["ls"], .directory),
    (["ls", "limitedValuedMap.json"], .file "old".toUTF8 false)]
  origin := []

def trial : Assignment where
  category := "coreutils"
  program := "ls"
  settings :=
    { thresholds := { minOccurrence := 1 }
      profileCommand := some ["./\x7bprogram\x7d", "-l"] }
  configuration := .empty
  directory := ⟨"/ls"⟩

theorem launch_tracing (fate : Fate) (command : Command) (limit : Nat) :
    ((tracing fate).host.launch command limit).on desk =
      (.ok fate, desk.put ["ls", "vase_value_log.txt"] (.file traced false)) := by
  have wrote : (Action.write ⟨"/ls/vase_value_log.txt"⟩ traced).on desk =
      (.ok (), desk.put ["ls", "vase_value_log.txt"] (.file traced false)) := by
    decide +kernel
  rw [tracing, Action.on_bind, wrote]
  rfl

theorem execute_tracing (fate : Fate) :
    ((profileCommand trial "./ls" ["-l"]).execute (tracing fate).host.launch
      (tracing fate).profileLimit).on desk =
      (.ok fate.execution,
        desk.put ["ls", "vase_value_log.txt"] (.file traced false)) := by
  rw [Command.on_execute, if_neg (by decide +kernel), launch_tracing]
  rfl

/-- A command that is not successful leads to the map of its trace, and one that takes too long, with
the same trace, leaves the older map. -/
theorem profile_by_unsuccessful_and_late_command :
    (∃ after, ((tracing (.ended (.exited 3) [] [])).profile trial).on (.ofFiles desk ()) =
        (.ok ⟨"/ls/limitedValuedMap.json"⟩, after) ∧
      ∃ map, ValueMap.load after.files ⟨"/ls/limitedValuedMap.json"⟩ = .ok map ∧
        map = (Trace.ofBytes traced.toList).table.buildMap trial.settings.thresholds ∧
        map.values? (.ofBranch 1 0) "x" = some [.plain "1"] ∧
        map.values? (.ofSite 1) "x" = some [.plain "1"]) ∧
    ∃ fault files, ((tracing .stopped).profile trial).on (.ofFiles desk ()) =
        (.error (.fault fault), { files, shown := "", memory := () }) ∧
      files.bytes ⟨"/ls/vase_value_log.txt"⟩ = .ok traced ∧
      files.bytes ⟨"/ls/limitedValuedMap.json"⟩ = .ok "old".toUTF8 := by
  have given : commandLine? trial = some ["./ls", "-l"] := by decide +kernel
  have written : (desk.put ["ls", "vase_value_log.txt"] (.file traced false)).bytes
      ⟨"/ls/vase_value_log.txt"⟩ = .ok traced := rfl
  constructor
  · obtain ⟨-, succeeded, any, -⟩ :=
      profile_by_course (tracing (.ended (.exited 3) [] [])) trial (.ofFiles desk ())
    have went := Profiling.ended given (execute_tracing (.ended (.exited 3) [] []))
    have ready : Writable (desk.put ["ls", "vase_value_log.txt"] (.file traced false))
        ⟨"/ls/limitedValuedMap.json"⟩ :=
      ⟨by rw [Action.NamesFile]; decide +kernel, by decide +kernel,
        ["ls", "limitedValuedMap.json"], rfl, by decide +kernel⟩
    obtain ⟨after, done⟩ := (any _ _ went).1 ready
    obtain ⟨-, ending, files, last, whole, -⟩ := succeeded _ _ done
    rw [← (went.unique last).2] at whole
    exact ⟨after, done, _, whole _ written, rfl, by decide +kernel, by decide +kernel⟩
  · obtain ⟨-, -, -, failed⟩ := profile_by_course (tracing .stopped) trial (.ofFiles desk ())
    have went := Profiling.timedOut given (execute_tracing .stopped)
    have spares : (tracing .stopped).SparesMap trial desk := by
      intro exe arguments
      rw [launch_tracing]
      decide +kernel
    obtain ⟨stopped, kept⟩ := failed _ _ went
    exact ⟨_, _, stopped, written, (kept spares).trans rfl⟩

end EngineStages

end GuidedExploration
