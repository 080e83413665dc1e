import GuidedExploration.Proofs.Dict
import GuidedExploration.Proofs.FileSystem.Actions
import GuidedExploration.Proofs.FileSystem.Location

/-!
Writing files. What was written is read back, and a file that could be written once can be written
again.
-/

set_option autoImplicit false

namespace GuidedExploration.FileSystem

/-! ## Putting a node -/

@[simp] theorem origin_put (fs : FileSystem) (location : Location) (node : Node) :
    (fs.put location node).origin = fs.origin := by
  unfold put
  split_ifs <;> rfl

theorem nodes_put {fs : FileSystem} {location : Location} {node : Node}
    (admits : fs.Admits location node) :
    (fs.put location node).nodes = fs.nodes.insert location node := by
  rw [put, dif_pos admits]

theorem get?_put_of_ne (fs : FileSystem) {location other : Location} (node : Node)
    (apart : other ≠ location) : (fs.put location node).nodes.get? other = fs.nodes.get? other := by
  by_cases admits : fs.Admits location node
  · rw [nodes_put admits, Dict.get?_insert_of_ne fs.nodes node apart]
  · rw [put, dif_neg admits]

theorem node?_put_of_ne (fs : FileSystem) {location other : Location} (node : Node)
    (apart : other ≠ location) : (fs.put location node).node? other = fs.node? other := by
  simp only [node?, get?_put_of_ne fs node apart]

theorem node?_put_self {fs : FileSystem} {location : Location} {node : Node}
    (admits : fs.Admits location node) : (fs.put location node).node? location = some node := by
  have inner : location ≠ [] := admits.1
  simp [node?, nodes_put admits, inner]

theorem get?_of_free {fs : FileSystem} {location : Location} (free : fs.node? location = none) :
    fs.nodes.get? location = none := by
  unfold node? at free
  split_ifs at free
  exact free

-- A walk only asks whether there are directories on its way, and where there was none a node closes
-- no way.
theorem walk_put {fs : FileSystem} {location : Location} (node : Node)
    (free : fs.node? location ≠ some .directory) {names : List String} {start reached : Location}
    (walked : fs.walk start names = .ok reached) :
    (fs.put location node).walk start names = .ok reached := by
  induction names generalizing start with
  | nil => exact walked
  | cons name rest ih =>
    unfold walk at walked ⊢
    split at walked
    · cases walked
    · cases walked
    · next found =>
      have apart : start ≠ location := by
        rintro rfl
        exact free found
      rw [node?_put_of_ne fs node apart, found]
      split_ifs at walked ⊢ with here above long
      · exact ih walked
      · exact ih walked
      · exact ih walked

theorem locate_put {fs : FileSystem} {location : Location} (node : Node)
    (free : fs.node? location ≠ some .directory) {p : Path} {reached : Location}
    (found : fs.locate p = .ok reached) : (fs.put location node).locate p = .ok reached := by
  unfold locate at found ⊢
  split at found
  · cases found
  · rw [origin_put]
    exact walk_put node free found

namespace Action

theorem isDirectory_iff {fs : FileSystem} {p : Path} :
    isDirectory fs p = true ↔ ∃ location, fs.locate p = .ok location ∧
      fs.node? location = some .directory := by
  unfold isDirectory lookup
  cases located : fs.locate p with
  | error cause => simp [bind, Except.bind]
  | ok location =>
    cases found : fs.node? location with
    | none => simp [bind, Except.bind, found]
    | some node =>
      cases node with
      | directory => simp [bind, Except.bind, found]
      | file contents executable => cases p.endsInSlash <;> simp [bind, Except.bind, found]

theorem isDirectory_put {fs : FileSystem} {location : Location} (node : Node)
    (free : fs.node? location ≠ some .directory) {p : Path} (there : isDirectory fs p = true) :
    isDirectory (fs.put location node) p = true := by
  obtain ⟨reached, located, found⟩ := isDirectory_iff.1 there
  have apart : reached ≠ location := by
    rintro rfl
    exact free found
  exact isDirectory_iff.2 ⟨reached, locate_put node free located, by
    rw [node?_put_of_ne fs node apart, found]⟩

/-! ## Writing -/

def NamesFile (p : Path) : Prop :=
  (p.endsInSlash || p.steps.getLast? == some "." || p.steps.getLast? == some "..") = false

theorem on_target {fs : FileSystem} {p : Path} {location : Location}
    (located : fs.locate p = .ok location) (file : NamesFile p) :
    (target p).on fs = (.ok location, fs) := by
  simp only [target, on_bind, on_ask, located]
  rw [if_neg (by rw [file]; decide)]
  rfl

theorem target_ok {fs after : FileSystem} {p : Path} {location : Location}
    (found : (target p).on fs = (.ok location, after)) :
    fs.locate p = .ok location ∧ NamesFile p ∧ after = fs := by
  simp only [target, on_bind, on_ask] at found
  cases located : fs.locate p with
  | error cause => simp [located] at found
  | ok reached =>
    simp only [located] at found
    split_ifs at found with ends
    · simp at found
    · obtain ⟨same, rfl⟩ := Prod.mk.inj found
      exact ⟨by rw [Except.ok.inj same], Bool.eq_false_iff.2 ends, rfl⟩

theorem write_ok {fs after : FileSystem} {p : Path} {contents : ByteArray}
    (written : (write p contents).on fs = (.ok (), after)) :
    ∃ location executable, fs.locate p = .ok location ∧ NamesFile p ∧
      fs.node? location ≠ some .directory ∧
      after = fs.put location (.file contents executable) := by
  simp only [write, edit, on_bind] at written
  rcases found : (target p).on fs with ⟨cause | location, between⟩
  · simp [found] at written
  · obtain ⟨located, file, rfl⟩ := target_ok found
    simp only [found, on_get] at written
    split at written
    · simp at written
    · next before executable there =>
      refine ⟨location, executable, located, file, by simp [there], ?_⟩
      exact (Prod.mk.inj written).2.symm
    · next free =>
      refine ⟨location, false, located, file, by simp [free], ?_⟩
      exact (Prod.mk.inj written).2.symm

theorem on_write {fs : FileSystem} {p : Path} {location : Location}
    (located : fs.locate p = .ok location) (file : NamesFile p)
    (free : fs.node? location ≠ some .directory) (contents : ByteArray) :
    ∃ executable, (write p contents).on fs =
      (.ok (), fs.put location (.file contents executable)) := by
  simp only [write, edit, on_bind, on_target located file, on_get]
  split
  · next there => exact absurd there free
  · next before executable _ => exact ⟨executable, rfl⟩
  · exact ⟨false, rfl⟩

/-! ## Making directories -/

theorem makeDirectory_of_isDirectory {fs : FileSystem} {p : Path}
    (there : isDirectory fs p = true) :
    (makeDirectory p).on fs = (.error .alreadyExists, fs) := by
  obtain ⟨location, located, found⟩ := isDirectory_iff.1 there
  simp only [makeDirectory, on_bind, on_ask, located, on_get, found, on_throw]

theorem isDirectory_of_makeDirectory {fs after : FileSystem} {p : Path}
    (made : (makeDirectory p).on fs = (.ok (), after)) : isDirectory after p = true := by
  simp only [makeDirectory, on_bind, on_ask, on_get] at made
  cases located : fs.locate p with
  | error cause => simp [located] at made
  | ok location =>
    cases found : fs.node? location with
    | some node => simp [located, found] at made
    | none =>
      simp only [located, found, on_modify, Prod.mk.injEq] at made
      have free : fs.node? location ≠ some .directory := by simp [found]
      rw [← made.2]
      exact isDirectory_iff.2 ⟨location, locate_put .directory free located,
        node?_put_self (admits_of_locate located free _)⟩

theorem isDirectory_of_settled {fs after : FileSystem} {p : Path} {cause : Cause}
    (settled : (do if isDirectory (← get) p then return else throw cause : Action Unit).on fs =
      (.ok (), after)) : isDirectory after p = true := by
  rw [on_bind, on_get] at settled
  dsimp only at settled
  split_ifs at settled with there
  · exact (Prod.mk.inj settled).2 ▸ there
  · cases (Prod.mk.inj settled).1

theorem isDirectory_of_ensureDirectory {fs after : FileSystem} {p : Path}
    (made : (ensureDirectory p).on fs = (.ok (), after)) : isDirectory after p = true := by
  simp only [ensureDirectory, on_bind, on_get] at made
  split at made
  · next between first =>
    exact (Prod.mk.inj made).2 ▸ isDirectory_of_makeDirectory first
  · exact isDirectory_of_settled made

theorem isDirectory_of_makeAll {fs after : FileSystem} {p : Path} {ancestors : List Path}
    (made : (makeAll (p :: ancestors)).on fs = (.ok (), after)) : isDirectory after p = true := by
  simp only [makeAll, on_bind, on_get] at made
  split at made
  · next between first =>
    exact (Prod.mk.inj made).2 ▸ isDirectory_of_makeDirectory first
  · split_ifs at made with last
    · cases (Prod.mk.inj made).1
    · rw [on_bind] at made
      rcases begun : (makeAll ancestors).on fs with ⟨cause | ⟨⟩, between⟩
      · simp [begun] at made
      · rw [begun] at made
        exact isDirectory_of_ensureDirectory made
  · exact isDirectory_of_settled made

theorem makeAll_of_isDirectory {fs : FileSystem} {p : Path} (there : isDirectory fs p = true)
    (ancestors : List Path) : (makeAll (p :: ancestors)).on fs = (.ok (), fs) := by
  simp only [makeAll, on_bind, on_get, makeDirectory_of_isDirectory there, there, if_true, on_pure]

theorem exists_lineage {p : Path} (filled : p.isEmpty = false) (fuel : Nat) :
    ∃ ancestors, (lineage (fuel + 1) p).reverse = p :: ancestors := by
  rw [lineage, if_neg (by simp [filled])]
  split
  · exact ⟨[], rfl⟩
  · next parent _ => exact ⟨(lineage fuel parent).reverse, by simp⟩

theorem isDirectory_of_makeDirectories {fs after : FileSystem} {p : Path}
    (filled : p.isEmpty = false) (made : (makeDirectories p).on fs = (.ok (), after)) :
    isDirectory after p = true := by
  obtain ⟨ancestors, shape⟩ := exists_lineage filled p.chars.length
  rw [makeDirectories, shape] at made
  exact isDirectory_of_makeAll made

theorem makeDirectories_of_isDirectory {fs : FileSystem} {p : Path} (filled : p.isEmpty = false)
    (there : isDirectory fs p = true) : (makeDirectories p).on fs = (.ok (), fs) := by
  obtain ⟨ancestors, shape⟩ := exists_lineage filled p.chars.length
  rw [makeDirectories, shape]
  exact makeAll_of_isDirectory there ancestors

end Action

/-! ## Text files -/

theorem fromUTF8?_toUTF8 (s : String) : String.fromUTF8? s.toUTF8 = some s := by
  exact dif_pos s.isValidUTF8

theorem text_put {fs : FileSystem} {p : Path} {location : Location} {executable : Bool}
    (located : fs.locate p = .ok location) (file : Action.NamesFile p)
    (free : fs.node? location ≠ some .directory) (s : String) :
    (fs.put location (.file s.toUTF8 executable)).text p = .ok s := by
  have ends : p.endsInSlash = false := by
    simp only [Action.NamesFile, Bool.or_eq_false_iff] at file
    exact file.1.1
  have looked : (fs.put location (.file s.toUTF8 executable)).lookup p =
      .ok (.file s.toUTF8 executable) := by
    simp only [lookup, locate_put _ free located, bind, Except.bind,
      node?_put_self (admits_of_locate located free _), ends, Bool.false_eq_true, if_false]
  simp only [text, bytes, looked, bind, Except.bind, fromUTF8?_toUTF8]

structure Writable (fs : FileSystem) (p : Path) : Prop where
  namesFile : Action.NamesFile p
  parent : ∀ parent, p.properParent? = some parent → Action.isDirectory fs parent = true
  place : ∃ location, fs.locate p = .ok location ∧ fs.node? location ≠ some .directory

theorem isEmpty_of_properParent? {p parent : Path} (found : p.properParent? = some parent) :
    parent.isEmpty = false := by
  have kept := (Option.filter_eq_some_iff.1 found).2
  simpa using kept

theorem writable_put {fs : FileSystem} {p : Path} {location : Location} {contents : ByteArray}
    {executable : Bool} (located : fs.locate p = .ok location) (file : Action.NamesFile p)
    (free : fs.node? location ≠ some .directory)
    (parent : ∀ parent, p.properParent? = some parent → Action.isDirectory fs parent = true) :
    Writable (fs.put location (.file contents executable)) p where
  namesFile := file
  parent := fun q found => Action.isDirectory_put _ free (parent q found)
  place := ⟨location, locate_put _ free located, by
    rw [node?_put_self (admits_of_locate located free _)]
    simp⟩

theorem writeText_ok {fs after : FileSystem} {p : Path} {s : String}
    (written : (writeText p s).on fs = (.ok (), after)) :
    after.text p = .ok s ∧ Writable after p := by
  -- With the parent there, what is left is to write the file itself.
  have inner : ∀ {between : FileSystem},
      (∀ parent, p.properParent? = some parent → Action.isDirectory between parent = true) →
      ((Action.write p s.toUTF8).at p).on between = (.ok (), after) →
        after.text p = .ok s ∧ Writable after p := by
    intro between parent written
    obtain ⟨location, executable, located, file, free, rfl⟩ :=
      Action.write_ok (Operation.on_at_ok_iff.1 written)
    exact ⟨text_put located file free s, writable_put located file free parent⟩
  unfold writeText at written
  split at written
  · next parent found =>
    rw [Operation.on_bind] at written
    rcases made : ((Action.makeDirectories parent).at parent).on fs with ⟨cause | ⟨⟩, between⟩
    · simp [made] at written
    · rw [made] at written
      refine inner (fun q same => ?_) written
      rw [found] at same
      cases same
      exact Action.isDirectory_of_makeDirectories (isEmpty_of_properParent? found)
        (Operation.on_at_ok_iff.1 made)
  · next found => exact inner (by simp [found]) written

theorem writeText_error {fs after : FileSystem} {p : Path} {s : String} {fault : Fault}
    (failed : (writeText p s).on fs = (.error fault, after)) : ∃ q cause, fault = .io q cause := by
  have of_at : ∀ {action : Action Unit} {q : Path} {fs after : FileSystem},
      (action.at q).on fs = (.error fault, after) → ∃ q cause, fault = .io q cause := by
    intro action q fs after failed
    rw [Operation.on_at] at failed
    cases result : (action.on fs).1 with
    | error cause =>
      rw [result] at failed
      exact ⟨q, cause, (Except.error.inj (Prod.mk.inj failed).1).symm⟩
    | ok value =>
      rw [result] at failed
      cases (Prod.mk.inj failed).1
  unfold writeText at failed
  split at failed
  · next parent _ =>
    rw [Operation.on_bind] at failed
    rcases made : ((Action.makeDirectories parent).at parent).on fs with ⟨other | ⟨⟩, between⟩
    · rw [made] at failed
      cases failed
      exact of_at made
    · rw [made] at failed
      exact of_at failed
  · exact of_at failed

theorem on_writeText {fs : FileSystem} {p : Path} (ready : Writable fs p) (s : String) :
    ∃ after, (writeText p s).on fs = (.ok (), after) := by
  obtain ⟨location, located, free⟩ := ready.place
  obtain ⟨executable, written⟩ := Action.on_write located ready.namesFile free s.toUTF8
  refine ⟨fs.put location (.file s.toUTF8 executable), ?_⟩
  unfold writeText
  split
  · next parent found =>
    have made := Operation.on_at_ok_iff (p := parent).2
      (Action.makeDirectories_of_isDirectory (isEmpty_of_properParent? found)
        (ready.parent parent found))
    rw [Operation.on_bind, made]
    exact Operation.on_at_ok_iff.2 written
  · exact Operation.on_at_ok_iff.2 written

end GuidedExploration.FileSystem
