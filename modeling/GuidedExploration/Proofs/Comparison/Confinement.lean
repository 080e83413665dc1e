import GuidedExploration.Proofs.Comparison.Grounds
import GuidedExploration.Proofs.Engine.Piecework

/-!
A run among the two of a dual run keeps to its own places: whatever it does, step by step and as a
whole, changes nothing else and is the same whatever the other run has done so far.
-/

set_option autoImplicit false

namespace GuidedExploration

open FileSystem EngineRun

namespace DualRun

variable {σ : Type}

section

variable (d : DualRun) (fs : FileSystem) (w : Worker σ)

/-- An engine that changes nothing but the places of its own run, and whose work does not depend on
what is at those of the other one. -/
structure Confined : Prop where
  launcher : d.host.launch = w.launcher
  keeps : ∀ v environment sandbox state, sandbox ∈ d.sandbox? fs v →
    KeepsTo (fun s => s.origin = fs.origin) (d.ground fs v) (d.ground fs v.other)
      (w.piece ((d.run v).commandWith environment sandbox) state).on

/-- What holds whenever a run is about to act: until it has a sandbox, the other run and its own
clearing and making are all that has changed anything, and afterwards the sandbox is the one it gets
alone. -/
def Sound (v : Variant) (a : Activity σ) (s : FileSystem) : Prop :=
  s.origin = fs.origin ∧
    match a with
    | .standing .reset => AgreeOff (d.ground fs v.other) fs s
    | .standing .make =>
      ((clearDirectory (d.request.outputDirectory v)).on fs).1 = .ok () ∧
        AgreeOff (d.ground fs v.other) ((clearDirectory (d.request.outputDirectory v)).on fs).2 s
    | .standing .seed =>
      ((resetDirectory (d.request.outputDirectory v)).on fs).1 = .ok () ∧
        AgreeOff (d.ground fs v.other) ((resetDirectory (d.request.outputDirectory v)).on fs).2 s
    | .standing (.launch sandbox) | .standing (.readStatistics sandbox _ _)
    | .standing (.countTests sandbox _ _ _) | .standing (.removeSandbox sandbox _) =>
      sandbox ∈ d.sandbox? fs v
    | .standing (.done _) => True
    | .working sandbox command _ _ =>
      sandbox ∈ d.sandbox? fs v ∧
        ∃ environment, command = (d.run v).commandWith environment sandbox

end

section

variable {d : DualRun} {fs s s' : FileSystem} {w : Worker σ} {v : Variant}

theorem within_sandbox_subset {q : Path} (got : q ∈ d.sandbox? fs v) :
    within (q.location fs.origin) ⊆ d.ground fs v :=
  fun _ inside => .inr ⟨q, got, inside⟩

theorem Sound.of_agree {a : Activity σ} (sound : d.Sound fs v a s)
    (agree : AgreeOff (d.ground fs v.other) s s') : d.Sound fs v a s' := by
  have origin : s'.origin = fs.origin := agree.origin.symm.trans sound.1
  cases a with
  | standing stage =>
    cases stage with
    | reset => exact ⟨origin, sound.2.trans agree⟩
    | make => exact ⟨origin, sound.2.1, sound.2.2.trans agree⟩
    | seed => exact ⟨origin, sound.2.1, sound.2.2.trans agree⟩
    | _ => exact ⟨origin, sound.2⟩
  | working => exact ⟨origin, sound.2⟩

theorem sound_afterLaunch {q : Path} (got : q ∈ d.sandbox? fs v) (origin : s.origin = fs.origin)
    (execution : Except Cause Execution) :
    d.Sound fs v (.standing ((d.run v).afterLaunch q execution) : Activity σ) s := by
  rcases execution with cause | ⟨ending, output⟩ | _
  · exact ⟨origin, got⟩
  · exact ⟨origin, got⟩
  · exact ⟨origin, got⟩

theorem sound_begin {q : Path} (got : q ∈ d.sandbox? fs v) (origin : s.origin = fs.origin)
    (environment : Option Path) : d.Sound fs v ((d.run v).begin w q environment) s := by
  unfold begin
  split_ifs
  · exact sound_afterLaunch got origin _
  · exact ⟨origin, got, environment, rfl⟩

theorem mem_sandbox? (separate : d.Separate fs) (origin : s.origin = fs.origin)
    (emptied : ((resetDirectory (d.request.outputDirectory v)).on fs).1 = .ok ())
    (agree : AgreeOff (d.ground fs v.other)
      ((resetDirectory (d.request.outputDirectory v)).on fs).2 s) {q : Path}
    (claimed : ((Sandbox.claim d.host.temporary d.request.program (d.host.suffixes v)).on s).1 =
      .ok q) : q ∈ d.sandbox? fs v := by
  have avoid : ∀ q ∈ d.candidates v, q.Avoids fs.origin (d.ground fs v.other) :=
    fun q candidate => (separate.candidate_apart candidate).avoids
  unfold sandbox?
  rcases done : (resetDirectory (d.request.outputDirectory v)).on fs with ⟨cause | ⟨⟩, after⟩ <;>
    rw [done] at emptied agree
  · cases emptied
  · obtain ⟨same, -⟩ := Sandbox.claim_ignores avoid after s ⟨agree.origin.trans origin, agree⟩
    dsimp only
    rw [same, claimed]
    rfl

/-! ## Every act keeps to the places of its run -/

theorem variant_run (d : DualRun) (v : Variant) : (d.run v).invocation.variant = v := by
  cases v <;> rfl

theorem createSandbox_run (d : DualRun) (v : Variant) :
    (d.run v).createSandbox =
      Sandbox.create d.host.stuck d.host.temporary d.request.program (d.host.suffixes v) := by
  funext s
  rw [createSandbox, variant_run]
  rfl

theorem reset_keeps (separate : d.Separate fs) :
    KeepsTo (d.Sound fs v (.standing .reset : Activity σ)) (d.ground fs v) (d.ground fs v.other)
      ((d.run v).act w (.standing .reset)) := by
  have keeps : KeepsTo (d.Sound fs v (.standing .reset : Activity σ)) (d.ground fs v)
      (d.ground fs v.other) (clearDirectory (d.request.outputDirectory v)).on := by
    refine .of_ignores (fun s sound => sound.1) (fun s sound => ?_)
      fun _ _ => clearDirectory_ignores (separate.output_apart v).avoids
    rw [ground, output, ← sound.1]
    exact (clearDirectory_frame _ s).mono Set.subset_union_left
  rw [act_reset]
  exact keeps.map fun answer => Activity.standing ((d.run v).afterReset answer)

theorem makeDirectories_output_frame (settled : d.Settled fs)
    (sound : d.Sound fs v (.standing .make : Activity σ) s) :
    AgreeOff (d.output fs v) s
      ((Action.makeDirectories (d.request.outputDirectory v)).on s).2 := by
  obtain ⟨origin, -, agree⟩ := sound
  have avoids := (settled.output_apart v).avoids
  have cleared := clearDirectory_frame (d.request.outputDirectory v) fs
  cases located : fs.locate (d.request.outputDirectory v) with
  | error cause =>
    have obstacle : cause ≠ .notFound := by
      rintro rfl
      exact settled.outputs v located
    rw [clearDirectory_of_free (exists?_of_error located)] at agree
    rw [locate_congr agree avoids] at located
    rw [Action.on_makeDirectories_of_error located obstacle]
    exact .refl _ s
  -- All that lies above is there, so only the directory itself is made.
  | ok location =>
    apply Action.makeDirectories_frame
    intro place member unused
    rw [origin] at member
    rcases node?_of_locate located member with rfl | there
    · rw [eq_of_locate located]
      exact List.prefix_refl _
    · by_contra outside
      rw [cleared.node? outside, agree.node? (avoids place member), unused] at there
      cases there

theorem make_keeps (settled : d.Settled fs) :
    KeepsTo (d.Sound fs v (.standing .make : Activity σ)) (d.ground fs v) (d.ground fs v.other)
      ((d.run v).act w (.standing .make)) := by
  have keeps : KeepsTo (d.Sound fs v (.standing .make : Activity σ)) (d.ground fs v)
      (d.ground fs v.other) (Action.makeDirectories (d.request.outputDirectory v)).on := by
    refine .of_ignores (fun s sound => sound.1) (fun s sound => ?_)
      fun _ _ => Action.makeDirectories_ignores (settled.output_apart v).avoids
    exact (makeDirectories_output_frame settled sound).mono Set.subset_union_left
  rw [act_make]
  exact keeps.map fun answer => Activity.standing ((d.run v).afterMake answer)

theorem seed_keeps (separate : d.Separate fs) :
    KeepsTo (d.Sound fs v (.standing .seed : Activity σ)) (d.ground fs v) (d.ground fs v.other)
      ((d.run v).act w (.standing .seed)) := by
  have keeps : KeepsTo (d.Sound fs v (.standing .seed : Activity σ)) (d.ground fs v)
      (d.ground fs v.other) (d.run v).createSandbox := by
    rw [createSandbox_run]
    refine .of_ignores (fun s sound => sound.1) (fun s sound => ?_)
      fun _ _ => Sandbox.create_ignores fun q candidate => separate.candidate_apart candidate
    obtain ⟨origin, emptied, agree⟩ := sound
    refine (Sandbox.create_frame _ _ _ _ s).mono ?_
    rintro place ⟨q, claimed, inside⟩
    rw [origin] at inside
    exact .inr ⟨q, mem_sandbox? separate origin emptied agree claimed, inside⟩
  rw [act_seed]
  exact keeps.map fun answer => Activity.standing ((d.run v).afterSeed answer)

theorem launch_keeps (separate : d.Separate fs) (q : Path) :
    KeepsTo (d.Sound fs v (.standing (.launch q) : Activity σ)) (d.ground fs v)
      (d.ground fs v.other) ((d.run v).act w (.standing (.launch q))) := by
  apply KeepsTo.of_question
  intro s s' sound agree
  have present : (d.run v).invocation.presentEnvironment s =
      (d.run v).invocation.presentEnvironment s' := by
    apply Invocation.presentEnvironment_congr agree
    intro file found
    have input : file ∈ d.request.inputs :=
      List.mem_cons_of_mem _ (Option.mem_toList.2 found)
    exact sound.1 ▸ separate.input_avoids input v.other
  rw [present]

theorem readStatistics_keeps (separate : d.Separate fs) (q : Path) (ending : Ending)
    (text : String) :
    KeepsTo (d.Sound fs v (.standing (.readStatistics q ending text) : Activity σ)) (d.ground fs v)
      (d.ground fs v.other) ((d.run v).act w (.standing (.readStatistics q ending text))) := by
  apply KeepsTo.of_question
  intro s s' sound agree
  have file : ((d.run v).outputDirectory.child Statistics.fileName).Avoids s.origin
      (d.ground fs v.other) := by
    rw [sound.1]
    exact ((separate.output_apart v).child (by decide)).avoids
  rw [EngineRun.step, EngineRun.step, ofFile_congr agree file]

theorem countTests_keeps (separate : d.Separate fs) (q : Path) (ending : Ending) (text : String)
    (statistics : Statistics) :
    KeepsTo (d.Sound fs v (.standing (.countTests q ending text statistics) : Activity σ))
      (d.ground fs v) (d.ground fs v.other)
      ((d.run v).act w (.standing (.countTests q ending text statistics))) := by
  apply KeepsTo.of_question
  intro s s' sound agree
  have apart : (d.run v).outputDirectory.Apart s.origin (d.ground fs v.other) := by
    rw [sound.1]
    exact separate.output_apart v
  rw [EngineRun.step, EngineRun.step, countTests_congr agree apart.avoids apart.behind]

theorem removeSandbox_keeps (separate : d.Separate fs) (q : Path) (record : RunRecord) :
    KeepsTo (d.Sound fs v (.standing (.removeSandbox q record) : Activity σ)) (d.ground fs v)
      (d.ground fs v.other) ((d.run v).act w (.standing (.removeSandbox q record))) := by
  have keeps : KeepsTo (d.Sound fs v (.standing (.removeSandbox q record) : Activity σ))
      (d.ground fs v) (d.ground fs v.other) fun s => ((), (d.run v).removeSandbox q s) := by
    refine .of_ignores (fun s sound => sound.1) (fun s sound => ?_) fun s sound =>
      Sandbox.remove_ignores (separate.candidate_apart (mem_candidates sound.2))
    refine (Sandbox.remove_frame _ q s).mono ?_
    rw [sound.1]
    exact within_sandbox_subset sound.2
  exact keeps.map fun _ => Activity.standing (.done record)

theorem working_keeps (confined : d.Confined fs w) (q : Path) (command : Command) (left : Nat)
    (state : σ) :
    KeepsTo (d.Sound fs v (.working q command left state)) (d.ground fs v) (d.ground fs v.other)
      ((d.run v).act w (.working q command left state)) := by
  cases left with
  | zero =>
    apply KeepsTo.of_question
    exact fun _ _ _ _ => rfl
  | succ left =>
    have keeps : KeepsTo (d.Sound fs v (.working q command (left + 1) state)) (d.ground fs v)
        (d.ground fs v.other) (w.piece command state).on := by
      constructor
      · rintro s ⟨origin, got, environment, rfl⟩
        exact (confined.keeps v environment q state got).changes s origin
      · rintro s s' ⟨origin, got, environment, rfl⟩ agree
        exact (confined.keeps v environment q state got).ignores s s' origin agree
    exact keeps.map ((d.run v).afterPiece q command left)

theorem act_keeps (settled : d.Settled fs) (confined : d.Confined fs w) (a : Activity σ) :
    KeepsTo (d.Sound fs v a) (d.ground fs v) (d.ground fs v.other) ((d.run v).act w a) := by
  have separate := settled.toSeparate
  cases a with
  | standing stage =>
    cases stage with
    | reset => exact reset_keeps separate
    | make => exact make_keeps settled
    | seed => exact seed_keeps separate
    | launch q => exact launch_keeps separate q
    | readStatistics q ending text => exact readStatistics_keeps separate q ending text
    | countTests q ending text statistics =>
      exact countTests_keeps separate q ending text statistics
    | removeSandbox q record => exact removeSandbox_keeps separate q record
    | done record =>
      apply KeepsTo.of_question
      exact fun _ _ _ _ => rfl
  | working q command left state => exact working_keeps confined q command left state

theorem origin_act (settled : d.Settled fs) (confined : d.Confined fs w) {a : Activity σ}
    (sound : d.Sound fs v a s) : ((d.run v).act w a s).2.origin = fs.origin :=
  ((act_keeps settled confined a).changes s sound).origin.symm.trans sound.1

theorem sound_reset (settled : d.Settled fs) (confined : d.Confined fs w)
    (sound : d.Sound fs v (.standing .reset : Activity σ) s) :
    d.Sound fs v ((d.run v).act w (.standing .reset) s).1
      ((d.run v).act w (.standing .reset) s).2 := by
  have origin := origin_act settled confined sound
  obtain ⟨same, after⟩ := clearDirectory_ignores (settled.output_apart v).avoids fs s
    ⟨rfl, sound.2⟩
  rw [act_reset] at origin ⊢
  dsimp only at origin ⊢
  cases answer : ((clearDirectory (d.run v).outputDirectory).on s).1 with
  | error cause => exact ⟨origin, trivial⟩
  | ok _ => exact ⟨origin, same.trans answer, after.2⟩

theorem sound_make (settled : d.Settled fs) (confined : d.Confined fs w)
    (sound : d.Sound fs v (.standing .make : Activity σ) s) :
    d.Sound fs v ((d.run v).act w (.standing .make) s).1
      ((d.run v).act w (.standing .make) s).2 := by
  have origin := origin_act settled confined sound
  obtain ⟨-, cleared, agree⟩ := sound
  obtain ⟨same, after⟩ := Action.makeDirectories_ignores (settled.output_apart v).avoids _ s
    ⟨(clearDirectory_frame _ fs).origin.symm, agree⟩
  rw [act_make] at origin ⊢
  dsimp only at origin ⊢
  cases answer : ((Action.makeDirectories (d.run v).outputDirectory).on s).1 with
  | error cause => exact ⟨origin, trivial⟩
  | ok _ =>
    have whole := on_resetDirectory_of_cleared cleared
    exact ⟨origin, by rw [whole]; exact same.trans answer, by rw [whole]; exact after.2⟩

theorem sound_seed (settled : d.Settled fs) (confined : d.Confined fs w)
    (sound : d.Sound fs v (.standing .seed : Activity σ) s) :
    d.Sound fs v ((d.run v).act w (.standing .seed) s).1
      ((d.run v).act w (.standing .seed) s).2 := by
  have origin := origin_act settled confined sound
  obtain ⟨start, emptied, agree⟩ := sound
  rw [act_seed] at origin ⊢
  dsimp only at origin ⊢
  cases answer : ((d.run v).createSandbox s).1 with
  | error refusal => exact ⟨origin, trivial⟩
  | ok q =>
    rw [createSandbox_run] at answer
    have claimed := Sandbox.create_ok (Prod.ext answer rfl)
    exact ⟨origin, mem_sandbox? settled.toSeparate start emptied agree claimed⟩

theorem sound_working (settled : d.Settled fs) (confined : d.Confined fs w) {q : Path}
    {command : Command} {left : Nat} {state : σ} (sound : d.Sound fs v (.working q command left state) s) :
    d.Sound fs v ((d.run v).act w (.working q command left state) s).1
      ((d.run v).act w (.working q command left state) s).2 := by
  have origin := origin_act settled confined sound
  obtain ⟨got, environment, told⟩ := sound.2
  cases left with
  | zero => exact sound_afterLaunch got origin _
  | succ left =>
    rcases answer : ((w.piece command state).on s).1 with cause | next | fate <;>
      rw [act, answer] at origin ⊢
    · exact sound_afterLaunch got origin _
    · exact ⟨origin, got, environment, told⟩
    · exact sound_afterLaunch got origin _

theorem sound_act (settled : d.Settled fs) (confined : d.Confined fs w) {a : Activity σ}
    (sound : d.Sound fs v a s) :
    d.Sound fs v ((d.run v).act w a s).1 ((d.run v).act w a s).2 := by
  have origin := origin_act settled confined sound
  cases a with
  | standing stage =>
    cases stage with
    | reset => exact sound_reset settled confined sound
    | make => exact sound_make settled confined sound
    | seed => exact sound_seed settled confined sound
    | launch q => exact sound_begin sound.2 origin _
    | readStatistics => exact ⟨origin, sound.2⟩
    | countTests => exact ⟨origin, sound.2⟩
    | removeSandbox => exact ⟨origin, trivial⟩
    | done => exact ⟨origin, trivial⟩
  | working q command left state => exact sound_working settled confined sound

theorem conclude_keeps (settled : d.Settled fs) (confined : d.Confined fs w) (a : Activity σ) :
    KeepsTo (d.Sound fs v a) (d.ground fs v) (d.ground fs v.other) ((d.run v).conclude w a) := by
  induction size : a.toGo (w.pieces (d.run v).engine.limit) using Nat.strong_induction_on
    generalizing a with
  | _ size ih =>
    subst size
    by_cases finished : a.toGo (w.pieces (d.run v).engine.limit) = 0
    · obtain ⟨record, rfl⟩ := eq_done_of_toGo finished
      have shape : (d.run v).conclude w (.standing (.done record)) = fun s => (record, s) := by
        funext s
        exact conclude_done _ _ _ _
      rw [shape]
      apply KeepsTo.of_question
      exact fun _ _ _ _ => rfl
    -- One act, and then what is left.
    · have first := act_keeps (v := v) settled confined a
      have rest := fun s => ih _ (toGo_act (d.run v) w finished s) _ rfl
      constructor
      · intro s sound
        rw [← conclude_act confined.launcher a s]
        exact (first.changes s sound).trans
          ((rest s).changes _ (sound_act settled confined sound))
      · intro s s' sound agree
        obtain ⟨answer, after⟩ := first.ignores s s' sound agree
        rw [← conclude_act confined.launcher a s, ← conclude_act confined.launcher a s', ← answer]
        exact (rest s).ignores _ _ (sound_act settled confined sound) after

end

/-! ## An engine that is confined -/

def results? (argument : String) : Option Path :=
  if "--output-dir=".toList.isPrefixOf argument.toList then
    some (.ofChars (argument.toList.drop "--output-dir=".toList.length))
  else none

def scribe : Worker Nat where
  start _ := 0
  pieces _ := 2
  piece command noted :=
    match command.arguments.findSome? results? with
    | none => throw .invalidArgument
    | some directory =>
      if noted = 0 then do
        Action.write (directory.child Statistics.fileName) "NumQueries: 3".toUTF8
        return .inl 1
      else do
        Action.write (directory.child "test000001.ktest") .empty
        return .inr (.ended (.exited 0) [] [])

theorem results?_append (opening text : String)
    (opens : ("--output-dir=".toList.isPrefixOf (opening.toList ++ text.toList)) = false) :
    results? (opening ++ text) = none := by
  rw [results?, String.toList_append, opens]
  rfl

theorem findSome?_results (run : EngineRun) (environment : Option Path) (sandbox : Path) :
    (run.commandWith environment sandbox).arguments.findSome? results? =
      some run.outputDirectory := by
  have base : Invocation.baseFlags.findSome? results? = none := by decide +kernel
  have map : (Invocation.mapFlags run.invocation.mapFile).findSome? results? = none := by
    cases run.invocation.mapFile with
    | none => rfl
    | some map =>
      have first : results? "--use-vase" = none := by decide +kernel
      simp [Invocation.mapFlags, first, results?_append "--vase-map=" map.text rfl]
  have file : (Invocation.environmentFlags environment).findSome? results? = none := by
    cases environment with
    | none => rfl
    | some file => simp [Invocation.environmentFlags, results?_append "--env-file=" file.text rfl]
  have here := results?_append "--run-in-dir=" sandbox.text rfl
  have found : results? ("--output-dir=" ++ run.invocation.outputDirectory.text) =
      some run.invocation.outputDirectory := by
    rw [results?, String.toList_append]
    simp [Path.ofChars]
  rw [commandWith, Invocation.argumentsWith]
  simp [List.findSome?_append, base, map, file, here, found]
  rfl

theorem write_keeps {d : DualRun} {fs : FileSystem} (separate : d.Separate fs) (v : Variant)
    {name : String} (ordinary : Path.Ordinary name) (contents : ByteArray) (answer : σ ⊕ Fate) :
    KeepsTo (fun s => s.origin = fs.origin) (d.ground fs v) (d.ground fs v.other)
      (do Action.write ((d.request.outputDirectory v).child name) contents
          return answer : Action (σ ⊕ Fate)).on := by
  refine .of_ignores (fun s start => start) (fun s start => ?_) fun s start => ?_
  · apply Action.bind_frame
    · refine (Action.write_frame _ contents s).mono (Set.singleton_subset_iff.2 (.inl ?_))
      rw [start, Path.location_child _ ordinary]
      exact List.prefix_append _ _
    · exact fun _ between _ => .refl _ between
  · apply Action.bind_ignores
    · exact Action.write_ignores ((separate.output_apart v).child ordinary).avoids contents
    · exact fun _ _ _ _ => Action.pure_ignores answer

theorem confined_scribe {d : DualRun} {fs : FileSystem} (separate : d.Separate fs)
    (launcher : d.host.launch = scribe.launcher) : d.Confined fs scribe where
  launcher := launcher
  keeps := by
    intro v environment sandbox noted _
    simp only [scribe, findSome?_results]
    split_ifs
    · exact write_keeps separate v (by decide) _ _
    · exact write_keeps separate v (by decide) _ _

end DualRun

end GuidedExploration
