import GuidedExploration.Proofs.Engine.Seeding
import GuidedExploration.Proofs.Engine.Upshot

/-!
What a run leaves behind, however it ends: no sandbox, as long as nothing in it is stuck, and outside
its output directory only what was there before and the directories on the way to it, as long as the
engine keeps to its own places.
-/

set_option autoImplicit false

namespace GuidedExploration

open FileSystem

namespace EngineRun

theorem origin_resetDirectory (p : Path) (fs : FileSystem) :
    fs.origin = ((resetDirectory p).on fs).2.origin := by
  have cleared := (clearDirectory_frame p fs).origin
  rw [on_resetDirectory]
  rcases done : (clearDirectory p).on fs with ⟨cause | ⟨⟩, between⟩ <;> rw [done] at cleared
  · exact cleared
  · exact cleared.trans (Action.origin_makeDirectories p between)

def sandbox? (run : EngineRun) (fs : FileSystem) : Option Path :=
  match (resetDirectory run.outputDirectory).on fs with
  | (.error _, _) => none
  | (.ok (), prepared) =>
    ((Sandbox.claim run.host.temporary run.program
      (run.host.suffixes run.invocation.variant)).on prepared).1.toOption

def seeded? (run : EngineRun) (fs : FileSystem) : Option (Path × FileSystem) :=
  match (resetDirectory run.outputDirectory).on fs with
  | (.error _, _) => none
  | (.ok (), prepared) =>
    match run.createSandbox prepared with
    | (.error _, _) => none
    | (.ok sandbox, seeded) => some (sandbox, seeded)

def left (run : EngineRun) (sandbox : Path) (seeded : FileSystem) : FileSystem :=
  ((run.launchEngine sandbox).on seeded).2

/-- The engine writes to its output directory and its sandbox only. A sandbox elsewhere it leaves in
its place. -/
structure Confined (run : EngineRun) (sandbox : Path) (seeded : FileSystem) : Prop where
  changes : AgreeOff (within (run.outputDirectory.location seeded.origin) ∪
    within (sandbox.location seeded.origin)) seeded (run.left sandbox seeded)
  stays : sandbox.location seeded.origin ∉ within (run.outputDirectory.location seeded.origin) →
    Action.isDirectory (run.left sandbox seeded) sandbox = true

section

variable {run : EngineRun} {fs prepared seeded : FileSystem} {sandbox : Path}

theorem exists_prepared (got : run.seeded? fs = some (sandbox, seeded)) :
    ∃ prepared, (resetDirectory run.outputDirectory).on fs = (.ok (), prepared) ∧
      run.createSandbox prepared = (.ok sandbox, seeded) := by
  unfold seeded? at got
  rcases reset : (resetDirectory run.outputDirectory).on fs with ⟨cause | ⟨⟩, prepared⟩ <;>
    rw [reset] at got
  · cases got
  dsimp only at got
  rcases created : run.createSandbox prepared with ⟨refusal | q, after⟩ <;>
    rw [created] at got <;> cases got
  exact ⟨prepared, rfl, created⟩

theorem perform_of_seeded (got : run.seeded? fs = some (sandbox, seeded)) :
    run.perform fs =
      (run.report ((run.launchEngine sandbox).on seeded).1 (run.left sandbox seeded),
        run.removeSandbox sandbox (run.left sandbox seeded)) := by
  obtain ⟨prepared, reset, created⟩ := exists_prepared got
  rw [perform_eq, reset]
  dsimp only
  rw [created]
  rfl

theorem occupies_of_seeded (got : run.seeded? fs = some (sandbox, seeded)) :
    Sandbox.Occupies sandbox ∅ ((resetDirectory run.outputDirectory).on fs).2 seeded := by
  obtain ⟨prepared, reset, created⟩ := exists_prepared got
  rw [reset]
  exact Sandbox.occupies_of_create created

def ground (run : EngineRun) (prepared : FileSystem) : Set Location :=
  {place | ∃ sandbox, ((Sandbox.claim run.host.temporary run.program
    (run.host.suffixes run.invocation.variant)).on prepared).1 = .ok sandbox ∧
      place ∈ within (sandbox.location prepared.origin)}

/-- A sandbox in which the engine has left something stuck stays, and the run does not report it. -/
theorem perform_of_stuck {location : Location} (got : run.seeded? fs = some (sandbox, seeded))
    (located : (run.left sandbox seeded).locate sandbox = .ok location)
    (stuck : run.host.stuckAfter sandbox ((run.left sandbox seeded).below location) ≠ []) :
    (run.perform fs).1 =
        run.report ((run.launchEngine sandbox).on seeded).1 (run.left sandbox seeded) ∧
      (run.perform fs).2.node? location = (run.left sandbox seeded).node? location := by
  rw [perform_of_seeded got]
  exact ⟨rfl, Sandbox.node?_remove_of_stuck located stuck⟩

end

def killed : EngineRun where
  host :=
    { launch := fun _ _ => do
        Action.write ⟨"/work/runs/out/info"⟩ "NumQueries: 3".toUTF8
        Action.write ⟨"/tmp/ls-klee-s/dirA/a.txt"⟩ .empty
        return .ended (.signalled 9) [] []
      temporary := ⟨"/tmp"⟩
      suffixes := fun _ => ["s"] }
  engine := { program := ⟨"klee"⟩ }
  program := "ls"
  invocation :=
    { artifact := ⟨"/work/ls.bc"⟩
      outputDirectory := ⟨"/work/runs/out"⟩
      mapFile := none
      symbolicInput := []
      extraArguments := []
      environmentFile := none }

def bench : FileSystem where
  nodes := .ofList [(["tmp"], .directory), (["work"], .directory),
    (["work", "ls.bc"], .file "code".toUTF8 false)]
  origin := []

end EngineRun

end GuidedExploration
