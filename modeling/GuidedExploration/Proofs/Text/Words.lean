import GuidedExploration.Text.Blank
import Mathlib.Data.List.Basic

/-!
The words of a text are its runs without blanks, each as long as it can be. They are told by that
alone, and a text of words with single spaces between them has just these words.
-/

set_option autoImplicit false

namespace GuidedExploration.Text

structure IsRun (run : List Char) : Prop where
  filled : run ≠ []
  solid : ∀ c ∈ run, isBlank c = false

def EndsRun (s : List Char) : Prop := ∀ c, s.head? = some c → isBlank c = true

/-- The runs of a text in order. A run goes on to the next blank, so that no two of them touch. -/
inductive Runs : List (List Char) → List Char → Prop where
  | nil : Runs [] []
  | blank {runs : List (List Char)} {c : Char} {s : List Char} :
      isBlank c = true → Runs runs s → Runs runs (c :: s)
  | run {runs : List (List Char)} {run s : List Char} :
      IsRun run → EndsRun s → Runs runs s → Runs (run :: runs) (run ++ s)

theorem EndsRun.nil : EndsRun [] := fun _ found => absurd found nofun

theorem EndsRun.of_blank {c : Char} (blank : isBlank c = true) (s : List Char) :
    EndsRun (c :: s) := by
  intro d found
  cases found
  exact blank

theorem words_blank {c : Char} (blank : isBlank c = true) (s : List Char) :
    words (c :: s) = words s := by
  rw [words.eq_def]
  exact if_pos blank

theorem words_run {run s : List Char} (isRun : IsRun run) (ends : EndsRun s) :
    words (run ++ s) = run :: words s := by
  obtain ⟨filled, solid⟩ := isRun
  induction run with
  | nil => exact absurd rfl filled
  | cons c run ih =>
    obtain ⟨first, later⟩ := List.forall_mem_cons.1 solid
    -- Whether a character ends its word depends on the next one, be it of the run or behind it.
    cases run with
    | nil =>
      cases s with
      | nil => simp [words, first]
      | cons d s => simp [words, first, ends d rfl]
    | cons d run =>
      have next := ih (List.cons_ne_nil d run) later
      rw [List.cons_append] at next
      simp only [List.cons_append, words, first, later d List.mem_cons_self, Bool.false_eq_true,
        if_false] at next ⊢
      rw [next]

namespace Runs

variable {runs : List (List Char)} {s : List Char}

theorem words_eq (taken : Runs runs s) : words s = runs := by
  induction taken with
  | nil => rfl
  | blank blank _ ih => rw [words_blank blank, ih]
  | run isRun ends _ ih => rw [words_run isRun ends, ih]

theorem isRun (taken : Runs runs s) : ∀ run ∈ runs, IsRun run := by
  induction taken with
  | nil => exact fun _ member => absurd member List.not_mem_nil
  | blank _ _ ih => exact ih
  | run isRun _ _ ih => exact List.forall_mem_cons.2 ⟨isRun, ih⟩

/-- A character that is not blank stands at the beginning of a run, be it alone in front of the
text or together with the run that begins there. -/
theorem cons {c : Char} (solid : isBlank c = false) (taken : Runs runs s) :
    ∃ runs, Runs runs (c :: s) := by
  by_cases ends : EndsRun s
  · exact ⟨_, .run ⟨List.cons_ne_nil c [], by simpa using solid⟩ ends taken⟩
  · cases taken with
    | nil => exact absurd .nil ends
    | blank blank _ => exact absurd (.of_blank blank _) ends
    | @run runs run s isRun last taken =>
      refine ⟨(c :: run) :: runs, .run ⟨List.cons_ne_nil c run, ?_⟩ last taken⟩
      exact List.forall_mem_cons.2 ⟨solid, isRun.solid⟩

end Runs

theorem exists_runs (s : List Char) : ∃ runs, Runs runs s := by
  induction s with
  | nil => exact ⟨[], .nil⟩
  | cons c s ih =>
    obtain ⟨runs, taken⟩ := ih
    cases here : isBlank c with
    | true => exact ⟨runs, .blank here taken⟩
    | false => exact taken.cons here

theorem runs_iff {runs : List (List Char)} {s : List Char} : Runs runs s ↔ words s = runs := by
  refine ⟨Runs.words_eq, fun same => ?_⟩
  obtain ⟨taken, runs'⟩ := exists_runs s
  rwa [← same, runs'.words_eq]

theorem isRun_of_mem_words {s run : List Char} (member : run ∈ words s) : IsRun run :=
  (runs_iff.2 rfl).isRun run member

theorem words_intercalate {runs : List (List Char)} (isRun : ∀ run ∈ runs, IsRun run) :
    words ([' '].intercalate runs) = runs := by
  apply Runs.words_eq
  induction runs with
  | nil => exact .nil
  | cons run runs ih =>
    obtain ⟨first, later⟩ := List.forall_mem_cons.1 isRun
    cases runs with
    | nil =>
      have last : Runs [run] (run ++ []) := .run first .nil .nil
      rw [List.intercalate_singleton]
      rwa [List.append_nil] at last
    | cons next runs =>
      rw [List.intercalate_cons_cons, List.append_assoc]
      exact .run first (.of_blank (by decide) _) (.blank (by decide) (ih later))

end GuidedExploration.Text
