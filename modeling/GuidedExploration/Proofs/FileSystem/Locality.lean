import GuidedExploration.Proofs.FileSystem.Way

/-!
Effects that have no business in a region: what they answer and what they do elsewhere is the same
whatever is there. Two effects that change places of their own only, and ignore each other's, may
come in any order.
-/

set_option autoImplicit false

namespace GuidedExploration.FileSystem

variable {α β γ : Type}

def Alike (origin : Location) (region : Set Location) (fs fs' : FileSystem) : Prop :=
  fs.origin = origin ∧ AgreeOff region fs fs'

/-- Whatever is in the region, the effect answers the same and does the same elsewhere. -/
def Ignores (origin : Location) (region : Set Location) (effect : FileSystem → β × FileSystem) :
    Prop :=
  ∀ fs fs', Alike origin region fs fs' →
    (effect fs).1 = (effect fs').1 ∧ Alike origin region (effect fs).2 (effect fs').2

theorem Ignores.elim {origin : Location} {region : Set Location}
    {effect : FileSystem → β × FileSystem} (ignores : Ignores origin region effect)
    {fs fs' : FileSystem} (alike : Alike origin region fs fs') :
    ∃ answer after after', effect fs = (answer, after) ∧ effect fs' = (answer, after') ∧
      Alike origin region after after' := by
  obtain ⟨answer, after⟩ := ignores fs fs' alike
  exact ⟨(effect fs).1, (effect fs).2, (effect fs').2, rfl, Prod.ext answer.symm rfl, after⟩

/-- An effect on places of its own, which ignores the places of others. -/
structure KeepsTo (good : FileSystem → Prop) (own others : Set Location)
    (effect : FileSystem → β × FileSystem) : Prop where
  changes : ∀ fs, good fs → AgreeOff own fs (effect fs).2
  ignores : ∀ fs fs', good fs → AgreeOff others fs fs' →
    (effect fs).1 = (effect fs').1 ∧ AgreeOff others (effect fs).2 (effect fs').2

namespace KeepsTo

variable {good good' : FileSystem → Prop} {own others : Set Location}

theorem of_ignores {effect : FileSystem → β × FileSystem} {origin : Location}
    (start : ∀ fs, good fs → fs.origin = origin)
    (changes : ∀ fs, good fs → AgreeOff own fs (effect fs).2)
    (ignores : ∀ fs, good fs → Ignores origin others effect) :
    KeepsTo good own others effect where
  changes := changes
  ignores := by
    intro fs fs' ready agree
    obtain ⟨answer, -, after⟩ := ignores fs ready fs fs' ⟨start fs ready, agree⟩
    exact ⟨answer, after⟩

theorem of_question {question : FileSystem → β}
    (congruent : ∀ fs fs', good fs → AgreeOff others fs fs' → question fs = question fs') :
    KeepsTo good own others fun fs => (question fs, fs) where
  changes := fun fs _ => .refl own fs
  ignores := fun fs fs' ready agree => ⟨congruent fs fs' ready agree, agree⟩

theorem map {effect : FileSystem → β × FileSystem} (keeps : KeepsTo good own others effect)
    (answer : β → γ) : KeepsTo good own others fun fs => (answer (effect fs).1, (effect fs).2) where
  changes := keeps.changes
  ignores := by
    intro fs fs' ready agree
    obtain ⟨same, after⟩ := keeps.ignores fs fs' ready agree
    exact ⟨congrArg answer same, after⟩

theorem commute {f : FileSystem → β × FileSystem} {g : FileSystem → γ × FileSystem}
    (keeps : KeepsTo good own others f) (keeps' : KeepsTo good' others own g)
    (apart : ∀ place ∈ own, place ∉ others) {fs : FileSystem} (ready : good fs) (ready' : good' fs)
    (stays : good (g fs).2) (stays' : good' (f fs).2) :
    (f (g fs).2).1 = (f fs).1 ∧ (g (f fs).2).1 = (g fs).1 ∧ (f (g fs).2).2 = (g (f fs).2).2 := by
  obtain ⟨answer, after⟩ := keeps.ignores fs (g fs).2 ready (keeps'.changes fs ready')
  obtain ⟨answer', after'⟩ := keeps'.ignores fs (f fs).2 ready' (keeps.changes fs ready)
  refine ⟨answer.symm, answer'.symm, AgreeOff.eq_of_apart ?_ ?_ apart⟩
  -- On the places of either one, that one has the last word in both orders.
  · exact (keeps.changes _ stays).symm.trans after'
  · exact after.symm.trans (keeps'.changes _ stays')

end KeepsTo

section

variable {region : Set Location} {fs fs' : FileSystem}

theorem AgreeOff.put (agree : AgreeOff region fs fs') {location : Location} {node : Node}
    (admits : fs.Admits location node) (admits' : fs'.Admits location node) :
    AgreeOff region (fs.put location node) (fs'.put location node) := by
  refine ⟨?_, fun other outside => ?_⟩
  · rw [origin_put, origin_put, agree.origin]
  · rw [nodes_put admits, nodes_put admits', Dict.get?_insert, Dict.get?_insert,
      agree.nodes other outside]

theorem AgreeOff.keep (agree : AgreeOff region fs fs') (kept : Location → Bool)
    (closed : ∀ place name, kept (place ++ [name]) = true → kept place = true) :
    AgreeOff region (fs.keep kept closed) (fs'.keep kept closed) :=
  ⟨agree.origin, fun place outside => by rw [get?_keep, get?_keep, agree.nodes place outside]⟩

theorem AgreeOff.prune (agree : AgreeOff region fs fs') (location : Location) :
    AgreeOff region (fs.prune location) (fs'.prune location) :=
  agree.keep _ _

theorem prune_congr {location : Location} (agree : AgreeOff (within location) fs fs') :
    fs.prune location = fs'.prune location := by
  have inside : AgreeOff {place | place ∉ within location} (fs.prune location)
      (fs'.prune location) := by
    refine ⟨agree.origin, fun place removed => ?_⟩
    rw [get?_prune fs (not_not.1 removed), get?_prune fs' (not_not.1 removed)]
  exact (agree.prune location).eq_of_apart inside fun _ removed kept => kept removed

theorem prune_of_free {location : Location}
    (free : ∀ place ∈ within location, fs.node? place = none) : fs.prune location = fs := by
  have inside : AgreeOff {place | place ∉ within location} (fs.prune location) fs := by
    refine ⟨rfl, fun place removed => ?_⟩
    rw [get?_prune fs (not_not.1 removed), get?_of_free (free place (not_not.1 removed))]
  exact (agreeOff_prune fs location).symm.eq_of_apart inside fun _ removed kept => kept removed

end

namespace Action

variable {origin : Location} {region : Set Location} {p : Path}

theorem pure_ignores (a : α) : Ignores origin region (pure a : Action α).on :=
  fun _ _ alike => ⟨rfl, alike⟩

theorem throw_ignores (cause : Cause) : Ignores origin region (throw cause : Action α).on :=
  fun _ _ alike => ⟨rfl, alike⟩

theorem bind_ignores {action : Action α} {next : α → Action β}
    (first : Ignores origin region action.on)
    (later : ∀ fs a, fs.origin = origin → (action.on fs).1 = .ok a →
      Ignores origin region (next a).on) :
    Ignores origin region (action >>= next).on := by
  intro fs fs' alike
  obtain ⟨answer, between, between', done, done', after⟩ := first.elim alike
  rw [on_bind, on_bind, done, done']
  cases answer with
  | error cause => exact ⟨rfl, after⟩
  | ok a => exact later fs a alike.1 (by rw [done]) between between' after

/-- What holds after the first action, and is kept by the second, holds after both, even if the first
one fails. -/
theorem bind_keeps {R : FileSystem → Prop} {action : Action α} {next : α → Action β}
    {fs : FileSystem} (first : R (action.on fs).2)
    (later : ∀ a between, R between → R ((next a).on between).2) :
    R ((action >>= next).on fs).2 := by
  rw [on_bind]
  rcases done : action.on fs with ⟨cause | a, between⟩ <;> rw [done] at first
  · exact first
  · exact later a between first

theorem bind_frame {action : Action α} {next : α → Action β} {fs : FileSystem}
    (first : AgreeOff region fs (action.on fs).2)
    (later : ∀ a between, AgreeOff region fs between →
      AgreeOff region between ((next a).on between).2) :
    AgreeOff region fs ((action >>= next).on fs).2 :=
  bind_keeps (R := AgreeOff region fs) first fun a between agree =>
    agree.trans (later a between agree)

theorem ask_ignores {question : FileSystem → Except Cause α}
    (congruent : ∀ fs fs', Alike origin region fs fs' → question fs = question fs') :
    Ignores origin region (ask question).on := by
  intro fs fs' alike
  rw [on_ask, on_ask]
  exact ⟨congruent fs fs' alike, alike⟩

theorem makeDirectory_ignores (avoids : p.Avoids origin region) :
    Ignores origin region (makeDirectory p).on := by
  rintro fs fs' ⟨rfl, agree⟩
  have along := locate_congr agree avoids
  rw [on_makeDirectory, on_makeDirectory, ← along]
  cases located : fs.locate p with
  | error cause => exact ⟨rfl, rfl, agree⟩
  | ok location =>
    have same := agree.node? (notMem_of_locate avoids located)
    dsimp only
    rw [← same]
    cases free : fs.node? location with
    | some node => exact ⟨rfl, rfl, agree⟩
    | none =>
      have admits := admits_of_locate located (by simp [free]) .directory
      have admits' := admits_of_locate (along.symm.trans located) (by simp [← same, free]) .directory
      exact ⟨rfl, (origin_put _ _ _), agree.put admits admits'⟩

theorem ensureDirectory_ignores (avoids : p.Avoids origin region) :
    Ignores origin region (ensureDirectory p).on := by
  intro fs fs' alike
  obtain ⟨answer, made, made', done, done', after⟩ := (makeDirectory_ignores avoids).elim alike
  obtain ⟨rfl, agree⟩ := alike
  rw [on_ensureDirectory, on_ensureDirectory, done, done', ← isDirectory_congr agree avoids]
  cases answer with
  | error cause => exact ⟨rfl, rfl, agree⟩
  | ok _ => exact ⟨rfl, after⟩

theorem makeAll_ignores {paths : List Path} (avoid : ∀ p ∈ paths, p.Avoids origin region) :
    Ignores origin region (makeAll paths).on := by
  induction paths with
  | nil => exact pure_ignores ()
  | cons p ancestors ih =>
    rw [List.forall_mem_cons] at avoid
    intro fs fs' alike
    obtain ⟨answer, made, made', done, done', after⟩ :=
      (makeDirectory_ignores avoid.1).elim alike
    obtain ⟨answers, begun, begun', further, further', between⟩ := (ih avoid.2).elim alike
    obtain ⟨rfl, agree⟩ := alike
    rw [on_makeAll_cons, on_makeAll_cons, done, done', further, further',
      ← isDirectory_congr agree avoid.1]
    cases answer with
    | ok _ => exact ⟨rfl, after⟩
    | error cause =>
      dsimp only
      split_ifs with missing last
      · exact ⟨rfl, rfl, agree⟩
      · cases answers with
        | error cause => exact ⟨rfl, between⟩
        | ok _ => exact ensureDirectory_ignores avoid.1 begun begun' between
      · exact ⟨rfl, rfl, agree⟩
      · exact ⟨rfl, rfl, agree⟩

theorem makeDirectories_ignores (avoids : p.Avoids origin region) :
    Ignores origin region (makeDirectories p).on := by
  apply makeAll_ignores
  intro q ancestor place member
  exact avoids place (mem_way_of_lineage (List.mem_reverse.1 ancestor) member)

theorem removeDirectory_ignores (avoids : p.Avoids origin region) :
    Ignores origin region (removeDirectory p).on := by
  rintro fs fs' ⟨rfl, agree⟩
  rw [on_removeDirectory, on_removeDirectory, ← locate_congr agree avoids,
    ← lookup_congr agree avoids]
  cases fs.locate p with
  | error cause => exact ⟨rfl, rfl, agree⟩
  | ok location =>
    have cleared : AgreeOff region (fs.clear location) (fs'.clear location) := agree.keep _ _
    rcases fs.lookup p with cause | _ | ⟨contents, executable⟩
    · exact ⟨rfl, rfl, agree⟩
    · dsimp only
      split_ifs
      · exact ⟨rfl, rfl, cleared⟩
      · exact ⟨rfl, rfl, cleared⟩
      · exact ⟨rfl, rfl, cleared⟩
      · exact ⟨rfl, rfl, cleared.prune location⟩
    · exact ⟨rfl, rfl, agree⟩

/-! ## Writing -/

theorem target_ignores (avoids : p.Avoids origin region) :
    Ignores origin region (target p).on := by
  apply bind_ignores
  · apply ask_ignores
    rintro fs fs' ⟨rfl, agree⟩
    exact locate_congr agree avoids
  · intro fs location _ _
    split_ifs
    · exact throw_ignores _
    · exact pure_ignores location

theorem exists_target (p : Path) (fs : FileSystem) :
    ∃ answer, (target p).on fs = (answer, fs) := by
  simp only [target, on_bind, on_ask]
  cases fs.locate p with
  | error cause => exact ⟨.error cause, rfl⟩
  | ok location =>
    dsimp only
    split_ifs
    · exact ⟨.error .isADirectory, rfl⟩
    · exact ⟨.ok location, rfl⟩

theorem write_ignores (avoids : p.Avoids origin region) (contents : ByteArray) :
    Ignores origin region (write p contents).on := by
  intro fs fs' alike
  obtain ⟨answer, found⟩ := exists_target p fs
  obtain ⟨answer', found'⟩ := exists_target p fs'
  have same : answer = answer' := by
    have answers := (target_ignores avoids fs fs' alike).1
    rwa [found, found'] at answers
  subst same
  obtain ⟨rfl, agree⟩ := alike
  rw [write, edit, on_bind, on_bind, found, found']
  cases answer with
  | error cause => exact ⟨rfl, rfl, agree⟩
  | ok location =>
    have located := (target_ok found).1
    have known := agree.node? (notMem_of_locate avoids located)
    have admits := admits_of_locate located
    have admits' := admits_of_locate (target_ok found').1
    rw [← known] at admits'
    simp only [on_bind, on_get]
    rw [← known]
    rcases there : fs.node? location with _ | _ | ⟨old, executable⟩ <;>
      rw [there] at admits admits'
    · exact ⟨rfl, origin_put _ _ _, agree.put (admits (by simp) _) (admits' (by simp) _)⟩
    · exact ⟨rfl, rfl, agree⟩
    · exact ⟨rfl, origin_put _ _ _, agree.put (admits (by simp) _) (admits' (by simp) _)⟩

theorem write_frame (p : Path) (contents : ByteArray) (fs : FileSystem) :
    AgreeOff {p.location fs.origin} fs ((write p contents).on fs).2 := by
  obtain ⟨answer, found⟩ := exists_target p fs
  rw [write, edit, on_bind, found]
  cases answer with
  | error cause => exact .refl _ fs
  | ok location =>
    have inside : location ∈ ({p.location fs.origin} : Set Location) :=
      eq_of_locate (target_ok found).1
    simp only [on_bind, on_get]
    rcases fs.node? location with _ | _ | ⟨old, executable⟩
    · exact agreeOff_put fs _ inside
    · exact .refl _ fs
    · exact agreeOff_put fs _ inside

theorem node?_of_write {contents : ByteArray} {fs : FileSystem} {place : Location} {node : Node}
    (there : ((write p contents).on fs).2.node? place = some node) :
    fs.node? place = some node ∨
      place = p.location fs.origin ∧ ∃ executable, node = .file contents executable ∧
        (executable = true → ∃ old, fs.node? place = some (.file old true)) := by
  obtain ⟨answer, found⟩ := exists_target p fs
  rw [write, edit, on_bind, found] at there
  cases answer with
  | error cause => exact .inl there
  | ok location =>
    have located := (target_ok found).1
    have reached := eq_of_locate located
    simp only [on_bind, on_get] at there
    -- Nothing is put in the place of a directory.
    rcases before : fs.node? location with _ | _ | ⟨old, executable⟩ <;> rw [before] at there
    · by_cases same : place = location
      · subst same
        rw [on_modify, node?_put_self (admits_of_locate located (by simp [before]) _)] at there
        exact .inr ⟨reached, false, (Option.some.inj there).symm, by simp⟩
      · rw [on_modify, node?_put_of_ne fs _ same] at there
        exact .inl there
    · exact .inl there
    · by_cases same : place = location
      · subst same
        rw [on_modify, node?_put_self (admits_of_locate located (by simp [before]) _)] at there
        refine .inr ⟨reached, executable, (Option.some.inj there).symm, ?_⟩
        rintro rfl
        exact ⟨old, before⟩
      · rw [on_modify, node?_put_of_ne fs _ same] at there
        exact .inl there

theorem node?_write {contents : ByteArray} {fs after : FileSystem}
    (written : (write p contents).on fs = (.ok (), after))
    (free : fs.node? (p.location fs.origin) = none) (place : Location) :
    after.node? place =
      if place = p.location fs.origin then some (.file contents false) else fs.node? place := by
  obtain ⟨location, -, located, file, -, -⟩ := write_ok written
  have reached := eq_of_locate located
  subst reached
  simp only [write, edit, on_bind, on_target located file, on_get, free] at written
  cases written
  split_ifs with same
  · subst same
    exact node?_put_self (admits_of_locate located (by simp [free]) _)
  · exact node?_put_of_ne fs _ same

end Action

end GuidedExploration.FileSystem
