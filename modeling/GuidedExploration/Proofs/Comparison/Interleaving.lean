import GuidedExploration.Proofs.Comparison.Confinement

/-!
The two runs of a dual run side by side. Each keeps to its own places, so the order in which they
act does not matter: the outcome is that of one run after the other. Steps that are taken as a whole,
an engine doing all of its work in one, are acts as well.
-/

set_option autoImplicit false

namespace GuidedExploration

open FileSystem EngineRun

namespace DualRun

variable {σ : Type}

structure Moment (σ : Type) where
  activity : Variant → Activity σ
  files : FileSystem

def Moment.start (fs : FileSystem) : Moment σ where
  activity := fun _ => .standing .reset
  files := fs

def advance (d : DualRun) (w : Worker σ) (m : Moment σ) (v : Variant) : Moment σ where
  activity := Function.update m.activity v ((d.run v).act w (m.activity v) m.files).1
  files := ((d.run v).act w (m.activity v) m.files).2

def pursue (d : DualRun) (w : Worker σ) (order : List Variant) (m : Moment σ) : Moment σ :=
  order.foldl (d.advance w) m

def outcome? (d : DualRun) (m : Moment σ) : Option (ComparisonRecord × FileSystem) :=
  match m.activity .baseline, m.activity .profileGuided with
  | .standing (.done baseline), .standing (.done profileGuided) =>
    some (.ofRuns d.request.program d.request.runId baseline profileGuided, m.files)
  | _, _ => none

/-- What comes out if from now on the baseline run has its way until it is done. -/
def conclusion (d : DualRun) (w : Worker σ) (m : Moment σ) : ComparisonRecord × FileSystem :=
  let (baseline, fs) := (d.run .baseline).conclude w (m.activity .baseline) m.files
  let (profileGuided, fs) := (d.run .profileGuided).conclude w (m.activity .profileGuided) fs
  (.ofRuns d.request.program d.request.runId baseline profileGuided, fs)

theorem conclusion_start (d : DualRun) (w : Worker σ) (fs : FileSystem) :
    d.conclusion w (.start fs) = d.inTurn fs := rfl

theorem conclusion_of_outcome {d : DualRun} {m : Moment σ} (w : Worker σ)
    {outcome : ComparisonRecord × FileSystem} (ended : outcome ∈ d.outcome? m) :
    d.conclusion w m = outcome := by
  unfold outcome? at ended
  split at ended
  · next baseline profileGuided first second =>
    cases ended
    simp only [conclusion, first, second, conclude_done]
  · cases ended

theorem activity_advance (d : DualRun) (w : Worker σ) (m : Moment σ) (v : Variant) :
    (d.advance w m v).activity v = ((d.run v).act w (m.activity v) m.files).1 :=
  Function.update_self ..

theorem activity_advance_of_ne (d : DualRun) (w : Worker σ) (m : Moment σ) {v u : Variant}
    (apart : v ≠ u) : (d.advance w m u).activity v = m.activity v :=
  Function.update_of_ne apart ..

theorem conclusion_advance_baseline {d : DualRun} {w : Worker σ} (paced : d.host.launch = w.launcher)
    (m : Moment σ) : d.conclusion w (d.advance w m .baseline) = d.conclusion w m := by
  have launcher : (d.run .baseline).host.launch = w.launcher := paced
  have gone := conclude_act launcher (m.activity .baseline) m.files
  rw [conclusion, conclusion, activity_advance, activity_advance_of_ne d w m (by decide)]
  simp only [advance, gone]

section

variable {d : DualRun} {fs : FileSystem} {w : Worker σ}

theorem sound_advance (settled : d.Settled fs) (confined : d.Confined fs w) {m : Moment σ}
    (sound : ∀ v, d.Sound fs v (m.activity v) m.files) (u v : Variant) :
    d.Sound fs v ((d.advance w m u).activity v) (d.advance w m u).files := by
  by_cases same : v = u
  · subst same
    rw [activity_advance]
    exact sound_act settled confined (sound v)
  · have other : v.other = u := by cases v <;> cases u <;> first | rfl | exact absurd rfl same
    rw [activity_advance_of_ne d w m same]
    apply (sound v).of_agree
    rw [other]
    exact (act_keeps settled confined _).changes m.files (sound u)

/-- Whoever acts, the outcome is the same: the baseline run would have acted so anyway, and what the
other one does it can do as well when the baseline run is done. -/
theorem conclusion_advance (settled : d.Settled fs) (confined : d.Confined fs w) {m : Moment σ}
    (sound : ∀ v, d.Sound fs v (m.activity v) m.files) (v : Variant) :
    d.conclusion w (d.advance w m v) = d.conclusion w m := by
  cases v with
  | baseline => exact conclusion_advance_baseline confined.launcher m
  | profileGuided =>
    have first := conclude_keeps (v := .baseline) settled confined (m.activity .baseline)
    have second := act_keeps (v := .profileGuided) settled confined (m.activity .profileGuided)
    obtain ⟨record, activity, files⟩ := first.commute second (settled.ground_apart .baseline)
      (sound .baseline) (sound .profileGuided)
      ((sound .baseline).of_agree (second.changes _ (sound .profileGuided)))
      ((sound .profileGuided).of_agree (first.changes _ (sound .baseline)))
    have launcher : (d.run .profileGuided).host.launch = w.launcher := confined.launcher
    have gone := conclude_act launcher (m.activity .profileGuided)
      ((d.run .baseline).conclude w (m.activity .baseline) m.files).2
    rw [conclusion, conclusion, activity_advance, activity_advance_of_ne d w m (by decide)]
    simp only [advance, record, files, ← activity, gone]

theorem conclusion_pursue (settled : d.Settled fs) (confined : d.Confined fs w)
    (order : List Variant) {m : Moment σ} (sound : ∀ v, d.Sound fs v (m.activity v) m.files) :
    d.conclusion w (d.pursue w order m) = d.conclusion w m := by
  induction order generalizing m with
  | nil => rfl
  | cons v order ih =>
    have first := conclusion_advance settled confined sound v
    rw [← first]
    exact ih fun u => sound_advance settled confined sound v u

end

theorem toGo_pursue (d : DualRun) (w : Worker σ) (order : List Variant) (m : Moment σ)
    (v : Variant) :
    ((d.pursue w order m).activity v).toGo (w.pieces d.engine.limit) ≤
      (m.activity v).toGo (w.pieces d.engine.limit) - order.count v := by
  induction order generalizing m with
  | nil => exact Nat.le_refl _
  | cons u order ih =>
    have rest := ih (d.advance w m u)
    change ((d.pursue w order (d.advance w m u)).activity v).toGo _ ≤ _
    by_cases same : v = u
    · subst same
      rw [List.count_cons_self]
      rw [activity_advance] at rest
      have limit : (d.run v).engine.limit = d.engine.limit := rfl
      have nearer := toGo_act_le (d.run v) w (m.activity v) m.files
      rw [limit] at nearer
      omega
    · rw [List.count_cons_of_ne (Ne.symm same)]
      rw [activity_advance_of_ne d w m same] at rest
      exact rest

theorem exists_outcome (d : DualRun) (w : Worker σ) (fs : FileSystem) {order : List Variant}
    (enough : ∀ v, w.pieces d.engine.limit + 8 ≤ order.count v) :
    ∃ outcome, d.outcome? (d.pursue w order (.start fs)) = some outcome := by
  have finished : ∀ v, ∃ record,
      (d.pursue w order (.start fs)).activity v = .standing (.done record) := by
    intro v
    have left := toGo_pursue d w order (.start fs) v
    have whole : ((Moment.start fs : Moment σ).activity v).toGo (w.pieces d.engine.limit) =
      w.pieces d.engine.limit + 8 := rfl
    rw [whole, Nat.sub_eq_zero_of_le (enough v)] at left
    exact eq_done_of_toGo (Nat.le_zero.1 left)
  obtain ⟨baseline, first⟩ := finished .baseline
  obtain ⟨profileGuided, second⟩ := finished .profileGuided
  rw [outcome?, first, second]
  exact ⟨_, rfl⟩

/-- With nothing to make above the output directories, the order does not matter. -/
theorem eq_inTurn_of_settled {d : DualRun} {fs : FileSystem} {w : Worker σ}
    (settled : d.Settled fs) (confined : d.Confined fs w) (order : List Variant) :
    ∀ outcome ∈ d.outcome? (d.pursue w order (.start fs)), outcome = d.inTurn fs := by
  intro outcome ended
  have sound : ∀ v, d.Sound fs v ((Moment.start fs : Moment σ).activity v) fs :=
    fun v => ⟨rfl, .refl _ fs⟩
  rw [← conclusion_of_outcome w ended, conclusion_pursue settled confined order sound,
    conclusion_start]

/-! ## Steps that are taken as a whole -/

def Reaches (d : DualRun) (w : Worker σ) (m m' : Moment σ) : Prop :=
  ∃ order, d.pursue w order m = m'

def Moment.put (m : Moment σ) (v : Variant) (further : Activity σ × FileSystem) : Moment σ where
  activity := Function.update m.activity v further.1
  files := further.2

def Progress.stage (p : Progress) : Variant → Stage
  | .baseline => p.baseline
  | .profileGuided => p.profileGuided

def Progress.moment (p : Progress) (fs : FileSystem) : Moment σ where
  activity v := .standing (p.stage v)
  files := fs

theorem Moment.put_self (m : Moment σ) (v : Variant) : m.put v (m.activity v, m.files) = m := by
  rw [put, Function.update_eq_self]

theorem moment_step (d : DualRun) (v : Variant) (p : Progress) (fs : FileSystem) :
    ((d.step v p fs).1.moment (d.step v p fs).2 : Moment σ) =
      (p.moment fs).put v (.standing ((d.run v).step (p.stage v) fs).1,
        ((d.run v).step (p.stage v) fs).2) := by
  rw [Progress.moment, Moment.put, Moment.mk.injEq]
  constructor
  · funext u
    cases v <;> cases u <;> rfl
  · cases v <;> rfl

namespace Reaches

variable {d : DualRun} {w : Worker σ} {m m' m'' : Moment σ}

theorem refl (m : Moment σ) : d.Reaches w m m := ⟨[], rfl⟩

theorem trans (first : d.Reaches w m m') (second : d.Reaches w m' m'') : d.Reaches w m m'' := by
  obtain ⟨order, rfl⟩ := first
  obtain ⟨later, rfl⟩ := second
  exact ⟨order ++ later, List.foldl_append⟩

theorem act (m : Moment σ) (v : Variant) (a : Activity σ) (fs : FileSystem) :
    d.Reaches w (m.put v (a, fs)) (m.put v ((d.run v).act w a fs)) := by
  refine ⟨[v], ?_⟩
  simp [pursue, advance, Moment.put]

theorem work (m : Moment σ) (v : Variant) (sandbox : Path) (command : Command) (left : Nat)
    (state : σ) (fs : FileSystem) :
    d.Reaches w (m.put v (.working sandbox command left state, fs))
      (m.put v (.standing ((d.run v).afterLaunch sandbox
        (((w.work command left state).on fs).1.map Fate.execution)),
          ((w.work command left state).on fs).2)) := by
  induction left generalizing state fs with
  | zero => exact act m v _ fs
  | succ left ih =>
    refine (act m v _ fs).trans ?_
    rw [EngineRun.act, Worker.on_work]
    rcases (w.piece command state).on fs with ⟨cause | state | fate, after⟩
    · exact refl _
    · exact ih state after
    · exact refl _

theorem step (paced : d.host.launch = w.launcher) (m : Moment σ) (v : Variant) (stage : Stage)
    (fs : FileSystem) :
    d.Reaches w (m.put v (.standing stage, fs))
      (m.put v (.standing ((d.run v).step stage fs).1, ((d.run v).step stage fs).2)) := by
  have launcher : (d.run v).host.launch = w.launcher := paced
  cases stage with
  | launch sandbox =>
    refine (act m v _ fs).trans ?_
    rw [step_launch launcher, EngineRun.act, begin]
    dsimp only
    split_ifs
    · exact refl _
    · exact work m v sandbox _ _ _ fs
  | _ => exact act m v _ fs

theorem conclude (paced : d.host.launch = w.launcher) (m : Moment σ) (v : Variant)
    (a : Activity σ) (fs : FileSystem) :
    d.Reaches w (m.put v (a, fs)) (m.put v (.standing (.done ((d.run v).conclude w a fs).1),
      ((d.run v).conclude w a fs).2)) := by
  have launcher : (d.run v).host.launch = w.launcher := paced
  induction size : a.toGo (w.pieces (d.run v).engine.limit) using Nat.strong_induction_on
    generalizing a fs with
  | _ size ih =>
    subst size
    by_cases finished : a.toGo (w.pieces (d.run v).engine.limit) = 0
    · obtain ⟨record, rfl⟩ := eq_done_of_toGo finished
      rw [conclude_done]
      exact refl _
    · rw [← conclude_act launcher a fs]
      exact (act m v a fs).trans (ih _ (toGo_act _ w finished fs) _ _ rfl)

theorem follow (paced : d.host.launch = w.launcher) (steps : List Variant) (p : Progress)
    (fs : FileSystem) :
    d.Reaches w (p.moment fs) ((d.follow steps p fs).1.moment (d.follow steps p fs).2) := by
  induction steps generalizing p fs with
  | nil => exact refl _
  | cons v steps ih =>
    have taken := step (d := d) paced (p.moment fs) v (p.stage v) fs
    rw [← moment_step] at taken
    have here : (p.moment fs).put v (.standing (p.stage v), fs) = (p.moment fs : Moment σ) :=
      Moment.put_self _ v
    rw [here] at taken
    exact taken.trans (ih _ _)

theorem conclusion (paced : d.host.launch = w.launcher) (m : Moment σ) :
    ∃ m', d.Reaches w m m' ∧ d.outcome? m' = some (d.conclusion w m) := by
  have first := conclude (d := d) paced m .baseline (m.activity .baseline) m.files
  rw [Moment.put_self] at first
  have second := fun between : Moment σ =>
    conclude (d := d) paced between .profileGuided (between.activity .profileGuided) between.files
  simp only [Moment.put_self] at second
  exact ⟨_, first.trans (second _), rfl⟩

end Reaches

/-- Whatever steps are taken before both runs are finished, the same comes out of some order of
acts. -/
theorem exists_order {d : DualRun} {w : Worker σ} (paced : d.host.launch = w.launcher)
    (steps : List Variant) (fs : FileSystem) :
    ∃ order, d.outcome? (d.pursue w order (.start fs)) = some (d.interleave steps fs) := by
  have start : ({} : Progress).moment fs = (Moment.start fs : Moment σ) := by
    rw [Progress.moment, Moment.start, Moment.mk.injEq]
    exact ⟨funext fun v => by cases v <;> rfl, rfl⟩
  have followed := Reaches.follow (w := w) paced steps {} fs
  obtain ⟨m, ended, outcome⟩ := Reaches.conclusion paced
    ((d.follow steps {} fs).1.moment (d.follow steps {} fs).2)
  obtain ⟨order, rfl⟩ := followed.trans ended
  rw [← start]
  exact ⟨order, outcome⟩

end DualRun

end GuidedExploration
