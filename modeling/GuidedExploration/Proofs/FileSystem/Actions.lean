import GuidedExploration.FileSystem.Operation
import Mathlib.Tactic.SplitIfs

/-!
What actions and operations do to a file system, step by step: the results of the basic ones, and
one after another.
-/

set_option autoImplicit false

namespace GuidedExploration.FileSystem

variable {α β : Type}

namespace Action

theorem on_bind (action : Action α) (next : α → Action β) (fs : FileSystem) :
    (action >>= next).on fs =
      match action.on fs with
      | (.ok a, after) => (next a).on after
      | (.error cause, after) => (.error cause, after) := by
  simp only [on, ExceptT.run, bind, ExceptT.bind, ExceptT.mk, StateT.bind, StateT.run,
    ExceptT.bindCont]
  rcases action fs with ⟨cause | a, after⟩ <;> rfl

@[simp] theorem on_pure (a : α) (fs : FileSystem) : (pure a : Action α).on fs = (.ok a, fs) := rfl

@[simp] theorem on_throw (cause : Cause) (fs : FileSystem) :
    (throw cause : Action α).on fs = (.error cause, fs) := rfl

@[simp] theorem on_get (fs : FileSystem) : (get : Action FileSystem).on fs = (.ok fs, fs) := rfl

@[simp] theorem on_set (fs after : FileSystem) :
    (set after : Action PUnit).on fs = (.ok ⟨⟩, after) := rfl

@[simp] theorem on_modify (change : FileSystem → FileSystem) (fs : FileSystem) :
    (modify change : Action PUnit).on fs = (.ok ⟨⟩, change fs) := rfl

@[simp] theorem on_ask (question : FileSystem → Except Cause α) (fs : FileSystem) :
    (ask question).on fs = (question fs, fs) := by
  simp only [ask, on_bind, on_get]
  cases question fs <;> rfl

/-! ## Directories, one equation for each action -/

theorem on_makeDirectory (p : Path) (fs : FileSystem) :
    (makeDirectory p).on fs =
      match fs.locate p with
      | .error cause => (.error cause, fs)
      | .ok location =>
        match fs.node? location with
        | some _ => (.error .alreadyExists, fs)
        | none => (.ok (), fs.put location .directory) := by
  simp only [makeDirectory, on_bind, on_ask, on_get]
  cases fs.locate p with
  | error cause => rfl
  | ok location =>
    simp only
    cases fs.node? location <;> rfl

theorem on_settle (p : Path) (cause : Cause) (fs : FileSystem) :
    (do if isDirectory (← get) p then return else throw cause : Action Unit).on fs =
      (if isDirectory fs p then .ok () else .error cause, fs) := by
  simp only [on_bind, on_get]
  split_ifs <;> rfl

theorem on_ensureDirectory (p : Path) (fs : FileSystem) :
    (ensureDirectory p).on fs =
      match (makeDirectory p).on fs with
      | (.ok (), after) => (.ok (), after)
      | (.error cause, _) => (if isDirectory fs p then .ok () else .error cause, fs) := by
  simp only [ensureDirectory, on_bind, on_get]
  rcases (makeDirectory p).on fs with ⟨cause | ⟨⟩, after⟩
  · exact on_settle p cause fs
  · rfl

theorem on_makeAll_cons (p : Path) (ancestors : List Path) (fs : FileSystem) :
    (makeAll (p :: ancestors)).on fs =
      match (makeDirectory p).on fs with
      | (.ok (), after) => (.ok (), after)
      | (.error cause, _) =>
        if cause = .notFound then
          if ancestors = [] then (.error .notFound, fs)
          else
            match (makeAll ancestors).on fs with
            | (.ok (), between) => (ensureDirectory p).on between
            | (.error cause, between) => (.error cause, between)
        else (if isDirectory fs p then .ok () else .error cause, fs) := by
  simp only [makeAll, on_bind, on_get]
  rcases (makeDirectory p).on fs with ⟨cause | ⟨⟩, after⟩
  · by_cases missing : cause = .notFound
    · subst missing
      simp only [if_true, List.isEmpty_iff]
      split_ifs with last
      · rfl
      · rw [on_bind]
        rcases (makeAll ancestors).on fs with ⟨cause | ⟨⟩, between⟩ <;> rfl
    · simp only [if_neg missing]
      exact on_settle p cause fs
  · rfl

theorem on_removeDirectory (p : Path) (fs : FileSystem) :
    (removeDirectory p).on fs =
      match fs.locate p with
      | .error cause => (.error cause, fs)
      | .ok location =>
        match fs.lookup p with
        | .error cause => (.error cause, fs)
        | .ok (.file _ _) => (.error .notADirectory, fs)
        | .ok .directory =>
          if p.steps.getLast? = some "." then (.error .invalidArgument, fs.clear location)
          else if p.steps.getLast? = some ".." then (.error .directoryNotEmpty, fs.clear location)
          else if location = [] then (.error .busy, fs.clear location)
          else (.ok (), (fs.clear location).prune location) := by
  simp only [removeDirectory, on_bind, on_ask]
  cases fs.locate p with
  | error cause => rfl
  | ok location =>
    simp only
    rcases fs.lookup p with cause | _ | ⟨contents, executable⟩
    · rfl
    · simp only [on_bind, on_modify, beq_iff_eq, List.isEmpty_iff]
      split_ifs <;> rfl
    · rfl

end Action

namespace Operation

theorem on_bind (operation : Operation α) (next : α → Operation β) (fs : FileSystem) :
    (operation >>= next).on fs =
      match operation.on fs with
      | (.ok a, after) => (next a).on after
      | (.error fault, after) => (.error fault, after) := by
  simp only [on, ExceptT.run, bind, ExceptT.bind, ExceptT.mk, StateT.bind, StateT.run,
    ExceptT.bindCont]
  rcases operation fs with ⟨fault | a, after⟩ <;> rfl

@[simp] theorem on_pure (a : α) (fs : FileSystem) : (pure a : Operation α).on fs = (.ok a, fs) :=
  rfl

@[simp] theorem on_throw (fault : Fault) (fs : FileSystem) :
    (throw fault : Operation α).on fs = (.error fault, fs) := rfl

@[simp] theorem on_get (fs : FileSystem) : (get : Operation FileSystem).on fs = (.ok fs, fs) := rfl

@[simp] theorem on_set (fs after : FileSystem) :
    (set after : Operation PUnit).on fs = (.ok ⟨⟩, after) := rfl

@[simp] theorem on_at (action : Action α) (p : Path) (fs : FileSystem) :
    (action.at p).on fs = ((action.on fs).1.mapError (.io p), (action.on fs).2) := by
  simp only [Action.at, on_bind, on_get]
  rcases action.on fs with ⟨cause | a, after⟩ <;> rfl

theorem on_at_ok_iff {action : Action α} {p : Path} {fs after : FileSystem} {a : α} :
    (action.at p).on fs = (.ok a, after) ↔ action.on fs = (.ok a, after) := by
  rw [on_at]
  rcases action.on fs with ⟨cause | b, last⟩
  · constructor <;> intro same <;> cases same
  · constructor <;> intro same <;> cases same <;> rfl

end Operation

end GuidedExploration.FileSystem
