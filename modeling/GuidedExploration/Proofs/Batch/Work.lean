import GuidedExploration.Batch.Stages
import GuidedExploration.Proofs.FileSystem.Actions

/-!
What the work of a stage does to a world, step by step.
-/

set_option autoImplicit false

namespace GuidedExploration.Work

variable {σ α β : Type}

theorem on_bind (work : Work σ α) (next : α → Work σ β) (w : World σ) :
    (work >>= next).on w =
      match work.on w with
      | (.ok a, after) => (next a).on after
      | (.error failure, after) => (.error failure, after) := by
  simp only [on, ExceptT.run, bind, ExceptT.bind, ExceptT.mk, StateT.bind, StateT.run,
    ExceptT.bindCont]
  rcases work w with ⟨failure | a, after⟩ <;> rfl

@[simp] theorem on_pure (a : α) (w : World σ) : (pure a : Work σ α).on w = (.ok a, w) := rfl

@[simp] theorem on_throw (failure : Failure) (w : World σ) :
    (throw failure : Work σ α).on w = (.error failure, w) := rfl

@[simp] theorem on_get (w : World σ) : (get : Work σ (World σ)).on w = (.ok w, w) := rfl

@[simp] theorem on_set (w after : World σ) : (set after : Work σ PUnit).on w = (.ok ⟨⟩, after) :=
  rfl

@[simp] theorem on_print (text : String) (w : World σ) :
    (print text).on w = (.ok (), w.display text) := rfl

@[simp] theorem on_files (operation : FileSystem.Operation α) (w : World σ) :
    (files operation).on w =
      ((operation.on w.files).1.mapError .fault, { w with files := (operation.on w.files).2 }) := by
  simp only [files, on_bind, on_get]
  rcases operation.on w.files with ⟨fault | a, after⟩ <;> rfl

end GuidedExploration.Work
