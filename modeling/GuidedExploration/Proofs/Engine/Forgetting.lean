import GuidedExploration.Proofs.Engine.Cleanup

/-!
What earlier runs have left in an output directory does not matter to a run that can replace it: its
record, its files and what the engine finds are the same as in an empty directory. That goes for what
the sandbox is called too.
-/

set_option autoImplicit false

namespace GuidedExploration

open FileSystem

namespace EngineRun

/-- A directory is absent as a run asks for it, which is to follow the path. Where the path cannot be
followed yet, there may be something in its place all the same. -/
def Unseen (p : Path) (fs : FileSystem) : Prop := fs.exists? p = false

instance (p : Path) (fs : FileSystem) : Decidable (Unseen p fs) :=
  inferInstanceAs (Decidable (fs.exists? p = false))

/-- A directory is absent by its place, where there is nothing, or it can be removed. -/
def Replaceable (p : Path) (fs : FileSystem) : Prop :=
  (∀ place ∈ within (p.location fs.origin), fs.node? place = none) ∨
    ((Action.removeDirectory p).on fs).1 = .ok ()

section

variable {p : Path} {fs fs' : FileSystem}

theorem unseen_of_free (free : ∀ place ∈ within (p.location fs.origin), fs.node? place = none) :
    Unseen p fs := by
  cases located : fs.locate p with
  | error cause => exact exists?_of_error located
  | ok location =>
    apply exists?_of_free located
    rw [eq_of_locate located]
    exact free _ (List.prefix_refl _)

theorem on_resetDirectory_of_replaceable (fresh : Replaceable p fs) :
    (resetDirectory p).on fs =
      (Action.makeDirectories p).on (fs.prune (p.location fs.origin)) := by
  rcases fresh with free | removed
  · rw [resetDirectory_of_free (unseen_of_free free), prune_of_free free]
  · rcases done : (Action.removeDirectory p).on fs with ⟨cause | ⟨⟩, between⟩ <;>
      rw [done] at removed
    · cases removed
    · obtain ⟨there, rfl⟩ := Action.removeDirectory_ok done
      rw [on_resetDirectory, on_clearDirectory, if_pos there, done]

theorem resetDirectory_congr (agree : AgreeOff (within (p.location fs.origin)) fs fs')
    (fresh : Replaceable p fs) (fresh' : Replaceable p fs') :
    (resetDirectory p).on fs = (resetDirectory p).on fs' := by
  rw [on_resetDirectory_of_replaceable fresh, on_resetDirectory_of_replaceable fresh',
    ← agree.origin, prune_congr agree]

theorem perform_congr (run : EngineRun)
    (agree : AgreeOff (within (run.outputDirectory.location fs.origin)) fs fs')
    (fresh : Replaceable run.outputDirectory fs) (fresh' : Replaceable run.outputDirectory fs') :
    run.perform fs = run.perform fs' := by
  rw [perform_eq, perform_eq, resetDirectory_congr agree fresh fresh']

theorem seeded?_congr (run : EngineRun)
    (agree : AgreeOff (within (run.outputDirectory.location fs.origin)) fs fs')
    (fresh : Replaceable run.outputDirectory fs) (fresh' : Replaceable run.outputDirectory fs') :
    run.seeded? fs = run.seeded? fs' := by
  rw [seeded?, seeded?, resetDirectory_congr agree fresh fresh']

theorem nodes_of_unseen {location : Location} {node : Node} (unseen : Unseen p fs)
    (there : fs.nodes.get? location = some node) :
    ((resetDirectory p).on fs).2.nodes.get? location = some node := by
  rw [resetDirectory_of_free unseen]
  exact nodes_of_makeDirectories there

end

/-! ## Other names for the sandbox -/

structure Renamed (place place' : Location) (fs fs' : FileSystem) : Prop where
  outside : AgreeOff (within place ∪ within place') fs fs'
  inside : ∀ names, fs.node? (place ++ names) = fs'.node? (place' ++ names)

def work (run : EngineRun) (environment : Option Path) (sandbox : Path) : Action Execution :=
  (run.commandWith environment sandbox).execute run.host.launch run.engine.limit

theorem on_launchEngine_eq_work (run : EngineRun) (sandbox : Path) (fs : FileSystem) :
    (run.launchEngine sandbox).on fs =
      (run.work (run.invocation.presentEnvironment fs) sandbox).on fs := by
  rw [launchEngine, Action.on_bind, Action.on_get]
  rfl

/-- The engine does the same under either name of its sandbox, and stays in the working directory. -/
def Blind (run : EngineRun) (sandbox sandbox' : Path) : Prop :=
  ∀ environment fs fs',
    Renamed (sandbox.location fs.origin) (sandbox'.location fs.origin) fs fs' →
      ((run.work environment sandbox).on fs).1 = ((run.work environment sandbox').on fs').1 ∧
      AgreeOff (within (sandbox.location fs.origin) ∪ within (sandbox'.location fs.origin))
        ((run.work environment sandbox).on fs).2 ((run.work environment sandbox').on fs').2 ∧
      ((run.work environment sandbox).on fs).2.origin = fs.origin

def withSuffixes (run : EngineRun) (suffixes : Variant → List String) : EngineRun :=
  { run with host := { run.host with suffixes } }

section

variable {run : EngineRun} {suffixes : Variant → List String} {sandbox sandbox' : Path}
  {fs seeded seeded' : FileSystem}

theorem node?_seeded (got : run.seeded? fs = some (sandbox, seeded)) (names : List String) :
    seeded.node? (sandbox.location fs.origin ++ names) = Sandbox.contents names := by
  have origin := origin_resetDirectory run.outputDirectory fs
  obtain ⟨prepared, reset, created⟩ := exists_prepared got
  rw [reset] at origin
  rw [origin]
  exact Sandbox.node?_create created names

theorem renamed_of_seeded (got : run.seeded? fs = some (sandbox, seeded))
    (got' : (run.withSuffixes suffixes).seeded? fs = some (sandbox', seeded')) :
    Renamed (sandbox.location fs.origin) (sandbox'.location fs.origin) seeded seeded' := by
  have made := (occupies_of_seeded got).inside
  have made' := (occupies_of_seeded got').inside
  rw [← origin_resetDirectory] at made made'
  constructor
  · exact (made.symm.mono Set.subset_union_left).trans (made'.mono Set.subset_union_right)
  · intro names
    rw [node?_seeded got, node?_seeded got']

theorem report_congr {region : Set Location} {left left' : FileSystem}
    (agree : AgreeOff region left left') (apart : run.outputDirectory.Apart left.origin region)
    (execution : Except Cause Execution) :
    run.report execution left = run.report execution left' := by
  rcases execution with cause | ⟨ending, output⟩ | _
  · rfl
  · have statistics := ofFile_congr agree
      (apart.child (by decide : Path.Ordinary Statistics.fileName)).avoids
    rw [report, report, statistics, countTests_congr agree apart.avoids apart.behind]
  · rfl

/-- Neither the output directory nor the environment file has to do with the region. -/
structure Aside (run : EngineRun) (origin : Location) (region : Set Location) : Prop where
  output : run.outputDirectory.Apart origin region
  environment : ∀ file ∈ run.invocation.environmentFile, file.Avoids origin region

theorem perform_withSuffixes (got : run.seeded? fs = some (sandbox, seeded))
    (got' : (run.withSuffixes suffixes).seeded? fs = some (sandbox', seeded'))
    (aside : run.Aside fs.origin
      (within (sandbox.location fs.origin) ∪ within (sandbox'.location fs.origin)))
    (blind : run.Blind sandbox sandbox') :
    (run.perform fs).1 = ((run.withSuffixes suffixes).perform fs).1 ∧
      ∀ place ∈ within (run.outputDirectory.location fs.origin),
        (run.perform fs).2.node? place = ((run.withSuffixes suffixes).perform fs).2.node? place := by
  obtain ⟨apart, environment⟩ := aside
  have renamed := renamed_of_seeded got got'
  have begun : fs.origin = seeded.origin :=
    (origin_resetDirectory _ fs).trans (occupies_of_seeded got).changes.origin
  rw [begun] at renamed apart environment ⊢
  have present := Invocation.presentEnvironment_congr renamed.outside environment
  obtain ⟨answer, agree, stays⟩ := blind (run.invocation.presentEnvironment seeded) seeded seeded'
    renamed
  rw [perform_of_seeded got, perform_of_seeded got']
  change run.report ((run.launchEngine sandbox).on seeded).1 (run.left sandbox seeded) =
      run.report ((run.launchEngine sandbox').on seeded').1 (run.left sandbox' seeded') ∧
    ∀ place ∈ _, (run.removeSandbox sandbox (run.left sandbox seeded)).node? place =
      (run.removeSandbox sandbox' (run.left sandbox' seeded')).node? place
  simp only [left, on_launchEngine_eq_work, ← present]
  constructor
  · rw [answer]
    exact report_congr agree (by rwa [stays]) _
  · intro place inside
    obtain ⟨outside, outside'⟩ := not_or.1 (apart.behind place inside)
    have removed := Sandbox.remove_frame (run.host.stuckAfter sandbox) sandbox
      ((run.work (run.invocation.presentEnvironment seeded) sandbox).on seeded).2
    have removed' := Sandbox.remove_frame (run.host.stuckAfter sandbox') sandbox'
      ((run.work (run.invocation.presentEnvironment seeded) sandbox').on seeded').2
    rw [stays] at removed
    rw [← agree.origin, stays] at removed'
    calc (run.removeSandbox sandbox _).node? place
        = ((run.work _ sandbox).on seeded).2.node? place := (removed.node? outside).symm
      _ = ((run.work _ sandbox').on seeded').2.node? place :=
        agree.node? (apart.behind place inside)
      _ = (run.removeSandbox sandbox' _).node? place := removed'.node? outside'

end

/-- If the output directory can be replaced, a run comes to the same whatever was in it, and, as long
as the engine does not mind, whatever the sandbox is called. But where the directory is not seen,
nothing in its place is removed. -/
theorem perform_forgets (run : EngineRun) {fs fs' : FileSystem}
    (agree : AgreeOff (within (run.outputDirectory.location fs.origin)) fs fs')
    (fresh : Replaceable run.outputDirectory fs) (fresh' : Replaceable run.outputDirectory fs') :
    run.perform fs = run.perform fs' ∧
    (∀ suffixes sandbox sandbox' seeded seeded',
      run.seeded? fs = some (sandbox, seeded) →
      (run.withSuffixes suffixes).seeded? fs' = some (sandbox', seeded') →
      run.Aside fs.origin
        (within (sandbox.location fs.origin) ∪ within (sandbox'.location fs.origin)) →
      run.Blind sandbox sandbox' →
      (run.perform fs).1 = ((run.withSuffixes suffixes).perform fs').1 ∧
        ∀ place ∈ within (run.outputDirectory.location fs.origin),
          (run.perform fs).2.node? place =
            ((run.withSuffixes suffixes).perform fs').2.node? place) ∧
    ∀ s : FileSystem, Unseen run.outputDirectory s →
      ∀ location node, s.nodes.get? location = some node →
        ((resetDirectory run.outputDirectory).on s).2.nodes.get? location = some node := by
  refine ⟨run.perform_congr agree fresh fresh', ?_, fun s unseen _ _ => nodes_of_unseen unseen⟩
  intro suffixes sandbox sandbox' seeded seeded' got got' aside blind
  rw [← (run.withSuffixes suffixes).perform_congr agree fresh fresh']
  rw [← (run.withSuffixes suffixes).seeded?_congr agree fresh fresh'] at got'
  exact perform_withSuffixes got got' aside blind

def noted (output : Path) : EngineRun :=
  { killed with
    host := { killed.host with
      launch := fun _ _ => do
        Action.write ⟨"/work/out/info"⟩ "NumQueries: 3".toUTF8
        return .ended (.exited 0) [] [] }
    invocation := { killed.invocation with outputDirectory := output } }

theorem blind_noted (output : Path) :
    (noted output).Blind ⟨"/tmp/ls-klee-s"⟩ ⟨"/tmp/ls-klee-t"⟩ := by
  intro environment fs fs' renamed
  have zero : ((noted output).commandWith environment ⟨"/tmp/ls-klee-s"⟩).hasZero =
      ((noted output).commandWith environment ⟨"/tmp/ls-klee-t"⟩).hasZero := by
    have plain : ("--run-in-dir=" ++ "/tmp/ls-klee-s").toList.contains (Char.ofNat 0) =
        ("--run-in-dir=" ++ "/tmp/ls-klee-t").toList.contains (Char.ofNat 0) := by
      decide +kernel
    simp only [Command.hasZero, Command.texts, commandWith, Invocation.argumentsWith,
      List.any_append, List.any_cons, plain]
  have avoids : Path.Avoids ⟨"/work/out/info"⟩ fs.origin
      (within (Path.location ⟨"/tmp/ls-klee-s"⟩ fs.origin) ∪
        within (Path.location ⟨"/tmp/ls-klee-t"⟩ fs.origin)) := by
    -- Absolute paths lead to the same places from everywhere.
    have start : ∀ p : Path, p.isAbsolute = true → p.start fs.origin = [] := fun p rooted =>
      if_pos rooted
    rw [Path.Avoids, Path.way, Path.location, Path.location,
      start ⟨"/work/out/info"⟩ (by decide +kernel),
      start ⟨"/tmp/ls-klee-s"⟩ (by decide +kernel), start ⟨"/tmp/ls-klee-t"⟩ (by decide +kernel)]
    change ∀ place ∈ _, ¬(_ <+: place ∨ _ <+: place)
    decide +kernel
  unfold work
  rw [Command.on_execute, Command.on_execute, ← zero]
  split_ifs
  · exact ⟨rfl, renamed.outside, rfl⟩
  · obtain ⟨answer, start, agree⟩ := Action.bind_ignores
      (Action.write_ignores avoids "NumQueries: 3".toUTF8)
      (fun _ _ _ _ => Action.pure_ignores (Fate.ended (.exited 0) [] []))
      fs fs' ⟨rfl, renamed.outside⟩
    exact ⟨congrArg (Except.map Fate.execution) answer, agree, start⟩

def stale : FileSystem :=
  ((bench.put ["work", "out"] .directory).put ["work", "out", "info"]
    (.file "SolverTime: 3".toUTF8 false)).put ["work", "out", "test000001.ktest"]
    (.file "stale".toUTF8 false)

theorem agreeOff_stale : AgreeOff (within ["work", "out"]) bench stale := by
  have inside : ∀ name, ["work", "out", name] ∈ within ["work", "out"] := fun name => ⟨[name], rfl⟩
  exact ((agreeOff_put bench _ (List.prefix_refl _)).trans (agreeOff_put _ _ (inside _))).trans
    (agreeOff_put _ _ (inside _))

theorem perform_forgets_stale :
    AgreeOff (within ["work", "out"]) bench stale ∧
    Replaceable ⟨"/work/out"⟩ bench ∧ Replaceable ⟨"/work/out"⟩ stale ∧
    (noted ⟨"/work/out"⟩).perform bench = (noted ⟨"/work/out"⟩).perform stale ∧
    ((noted ⟨"/work/out"⟩).perform bench).1 =
      (((noted ⟨"/work/out"⟩).withSuffixes fun _ => ["t"]).perform stale).1 := by
  have fresh : Replaceable ⟨"/work/out"⟩ bench :=
    .inl (free_within (by decide +kernel))
  have fresh' : Replaceable ⟨"/work/out"⟩ stale := .inr (by decide +kernel)
  obtain ⟨same, renamed, -⟩ := perform_forgets (noted ⟨"/work/out"⟩) agreeOff_stale fresh fresh'
  have made : ((noted ⟨"/work/out"⟩).seeded? bench).map Prod.fst = some ⟨"/tmp/ls-klee-s"⟩ := by
    decide +kernel
  have made' : (((noted ⟨"/work/out"⟩).withSuffixes fun _ => ["t"]).seeded? stale).map Prod.fst =
      some ⟨"/tmp/ls-klee-t"⟩ := by
    decide +kernel
  obtain ⟨⟨sandbox, seeded⟩, got, here⟩ := Option.map_eq_some_iff.1 made
  obtain ⟨⟨sandbox', seeded'⟩, got', here'⟩ := Option.map_eq_some_iff.1 made'
  dsimp only at here here'
  subst here here'
  refine ⟨agreeOff_stale, fresh, fresh', same,
    (renamed _ _ _ _ _ got got' ?_ (blind_noted _)).1⟩
  refine ⟨⟨?_, ?_⟩, fun file given => nomatch given⟩
  · change ∀ place ∈ _, ¬(_ <+: place ∨ _ <+: place)
    decide +kernel
  · have apart : ∀ name ∈ ["ls-klee-s", "ls-klee-t"], ["work", "out"] ∉ within ["tmp", name] ∧
        ["tmp", name] ∉ within ["work", "out"] := by
      change ∀ name ∈ _, ¬_ <+: _ ∧ ¬_ <+: _
      decide
    simp only [List.forall_mem_cons] at apart
    rintro place inside (beneath | beneath)
    · exact notMem_within apart.1.1 apart.1.2 place inside beneath
    · exact notMem_within apart.2.1.1 apart.2.1.2 place inside beneath

/-- Two file systems that differ in the output directory only, which is absent from both as a run asks
for it: the way to it is still to be made. It is not emptied then, and an old test is counted. -/
theorem perform_remembers :
    AgreeOff (within ((noted ⟨"/work/missing/../out"⟩).outputDirectory.location bench.origin))
      bench stale ∧
    Unseen (noted ⟨"/work/missing/../out"⟩).outputDirectory bench ∧
    Unseen (noted ⟨"/work/missing/../out"⟩).outputDirectory stale ∧
    ((noted ⟨"/work/missing/../out"⟩).perform bench).1.artifactCount = 0 ∧
    ((noted ⟨"/work/missing/../out"⟩).perform stale).1.artifactCount = 1 := by
  refine ⟨agreeOff_stale, by decide +kernel, by decide +kernel, ?_, ?_⟩
  · rw [perform_eq]
    decide +kernel
  · rw [perform_eq]
    decide +kernel

end EngineRun

end GuidedExploration
