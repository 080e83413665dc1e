import GuidedExploration.Proofs.Batch.Profiling
import GuidedExploration.Proofs.Configuration.Reading
import GuidedExploration.Proofs.Text.ByteOrder

/-!
Which configuration files are refused for what they say, and with what words. Of a file that is
accepted no category has a profiling command without words, so that profiling need not expect one.
-/

set_option autoImplicit false

namespace GuidedExploration

def Category.Usable (c : Category) : Prop :=
  1 ≤ c.thresholds.maxValues ∧ c.profileCommand ≠ some []

/-- What is said of a category that is not usable. That it allows no value comes first. -/
def Category.objection (c : Category) : String :=
  if c.thresholds.maxValues = 0 then "max_values must be at least 1" else "profile_cmd is empty"

theorem Category.flaw?_eq_some_iff {c : Category} {flaw : CategoryFlaw} :
    c.flaw? = some flaw ↔ ¬ c.Usable ∧ flaw.phrase = c.objection := by
  rw [Usable, ← flaw?_eq_none_iff, flaw?, objection]
  split_ifs <;> cases flaw <;> simp <;> decide

namespace Configuration

/-- Among the categories that are not usable, the first one by the bytes of its name. -/
structure FirstUnusable (c : Configuration) (name : String) (category : Category) : Prop where
  named : c.category? name = some category
  unusable : ¬ category.Usable
  first : ∀ name' category', name'.toUTF8.toList < name.toUTF8.toList →
    c.category? name' = some category' → category'.Usable

theorem flaw?_eq_some_iff {c : Configuration} {name : String} {flaw : CategoryFlaw} :
    c.flaw? = some (name, flaw) ↔
      ∃ category, c.FirstUnusable name category ∧ flaw.phrase = category.objection := by
  rw [flaw?, Dict.findSome?_eq_some_iff]
  constructor
  · rintro ⟨_, category, named, gives, earlier⟩
    obtain ⟨flaw', flawed, same⟩ := Option.map_eq_some_iff.1 gives
    cases same
    obtain ⟨unusable, phrase⟩ := Category.flaw?_eq_some_iff.1 flawed
    refine ⟨category, ⟨named, unusable, fun name' category' lesser found => ?_⟩, phrase⟩
    exact Category.flaw?_eq_none_iff.1
      (Option.map_eq_none_iff.1 (earlier _ _ (Text.Utf8.rank_eq_lt_iff.2 lesser) found))
  · rintro ⟨category, first, phrase⟩
    refine ⟨name, category, first.named, Option.map_eq_some_iff.2
      ⟨flaw, Category.flaw?_eq_some_iff.2 ⟨first.unusable, phrase⟩, rfl⟩,
      fun name' category' lesser found => Option.map_eq_none_iff.2 ?_⟩
    exact Category.flaw?_eq_none_iff.2 (first.first _ _ (Text.Utf8.rank_eq_lt_iff.1 lesser) found)

/-! ## In files -/

theorem category?_of_ofJson? {members : List (Option String × Json)} {c : Configuration}
    (read : ofJson? (.object members) = some c) (name : String) :
    c.category? name = (Json.lastMember? some members name).bind Category.ofJson? := by
  obtain ⟨categories, found, rfl⟩ := Option.map_eq_some_iff.1 read
  exact Json.get?_of_dict? found name

theorem readJson_eq_ok_iff {fs : FileSystem} {p : Path} {c : Configuration} :
    FileSystem.readJson fs p ofJson? = .ok c ↔ ∃ text members, fs.text p = .ok text ∧
      Json.ofText? text = some (.object members) ∧ ofJson? (.object members) = some c := by
  rw [FileSystem.readJson_eq_ok_iff]
  constructor
  · rintro ⟨text, found, decoded⟩
    obtain ⟨j, parsed, read⟩ := Option.bind_eq_some_iff.1 decoded
    cases j with
    | object members => exact ⟨text, members, found, parsed, read⟩
    | _ => cases read
  · rintro ⟨text, members, found, parsed, read⟩
    exact ⟨text, found, Option.bind_eq_some_iff.2 ⟨_, parsed, read⟩⟩

theorem load_configuration_iff {fs : FileSystem} {p : Path} {problem : String} :
    load fs p = .error (.configuration problem) ↔
      ∃ c name category, FileSystem.readJson fs p ofJson? = .ok c ∧ c.FirstUnusable name category ∧
        problem = s!"category '{name}': {category.objection}" := by
  unfold load
  constructor
  · intro refused
    split at refused
    · next fault unread =>
      cases refused
      rcases FileSystem.readJson_error unread with ⟨cause, other⟩ | other <;> cases other
    · next c read =>
      split at refused
      · next name flaw flawed =>
        obtain ⟨category, first, phrase⟩ := flaw?_eq_some_iff.1 flawed
        cases refused
        exact ⟨c, name, category, read, first, by rw [phrase]⟩
      · cases refused
  · rintro ⟨c, name, category, read, first, rfl⟩
    obtain ⟨flaw, flawed⟩ := Option.ne_none_iff_exists'.1
      fun sound => first.unusable (Category.flaw?_eq_none_iff.1 sound)
    have phrase := (Category.flaw?_eq_some_iff.1 flawed).2
    simp only [read, flaw?_eq_some_iff.2 ⟨category, first, phrase⟩, CategoryFlaw.fault, phrase]

theorem usable_of_load {fs : FileSystem} {p : Path} {c : Configuration} (loaded : load fs p = .ok c)
    {name : String} {category : Category} (named : c.category? name = some category) :
    category.Usable :=
  flaw?_eq_none_iff.1 (load_eq_ok_iff.1 loaded).2 name category named

/-- In a file that is accepted every category allows a value, and its profiling command, if there is
one, has words, whatever program they are for, so that profiling never finds fault with the
configuration. A file is refused for what it says just when it can be read and has a category that
is not so. The first such category is named, and that it allows no value is said first. -/
theorem load_refuses_unusable (fs : FileSystem) (p : Path) :
    (∀ c, load fs p = .ok c → ∀ name category, c.category? name = some category →
      1 ≤ category.thresholds.maxValues ∧
      (∀ words, category.profileCommand = some words →
        words ≠ [] ∧ ∀ program, words.map (EngineStages.substituted program) ≠ []) ∧
      ∀ (σ : Type) (s : EngineStages) (a : Assignment) (w : World σ), a.settings = category →
        ∀ problem after, (s.profile a).on w ≠ (.error (.fault (.configuration problem)), after)) ∧
    ∀ problem, load fs p = .error (.configuration problem) ↔
      ∃ text members c, fs.text p = .ok text ∧ Json.ofText? text = some (.object members) ∧
        ofJson? (.object members) = some c ∧
        (∀ name, c.category? name =
          (Json.lastMember? some members name).bind Category.ofJson?) ∧
        ∃ name category, c.FirstUnusable name category ∧
          problem = s!"category '{name}': {category.objection}" := by
  refine ⟨fun c loaded name category named => ?_, fun problem => ?_⟩
  · obtain ⟨positive, worded⟩ := usable_of_load loaded named
    refine ⟨positive, fun words given => ?_, fun σ s a w same problem after failed => ?_⟩
    · have filled : words ≠ [] := fun none => worded (none ▸ given)
      exact ⟨filled, fun program => by simpa using filled⟩
    · exact worded (same ▸ EngineStages.profile_configuration_iff.1 ⟨problem, after, failed⟩)
  · rw [load_configuration_iff]
    constructor
    · rintro ⟨c, name, category, read, first, said⟩
      obtain ⟨text, members, found, parsed, decoded⟩ := readJson_eq_ok_iff.1 read
      exact ⟨text, members, c, found, parsed, decoded, category?_of_ofJson? decoded, name, category,
        first, said⟩
    · rintro ⟨text, members, c, found, parsed, decoded, -, name, category, first, said⟩
      exact ⟨c, name, category, readJson_eq_ok_iff.2 ⟨text, members, found, parsed, decoded⟩, first,
        said⟩

def blankJson : Json :=
  .record [("profile_cmd", .array []), ("thresholds", .record [("max_values", .natural 0)])]

def blank : Category where
  thresholds := { maxValues := 0 }
  profileCommand := some []

def filledJson : Json := .record [("profile_cmd", .array [.text "./\x7bprogram\x7d"])]

def filled : Category where
  profileCommand := some ["./\x7bprogram\x7d"]

def drafted (category : Category) : Configuration where
  categories := .ofList [("apr", category), ("coreutils", category)]

def draftJson (category : Json) : Json :=
  .record [("coreutils", category), ("apr", blankJson), ("apr", category)]

def draftFile (category : Json) : FileSystem :=
  FileSystem.empty.put ["programs.json"] (.file (draftJson category).pretty.toUTF8 false)

theorem text_draftFile (category : Json) :
    (draftFile category).text ⟨"programs.json"⟩ = .ok (draftJson category).pretty :=
  FileSystem.text_put (by decide) (by rw [FileSystem.Action.NamesFile]; decide) (by decide) _

theorem load_blank_and_filled :
    load (draftFile blankJson) ⟨"programs.json"⟩ =
      .error (.configuration "category 'apr': max_values must be at least 1") ∧
    ∃ c, load (draftFile filledJson) ⟨"programs.json"⟩ = .ok c ∧ c.category? "apr" = some filled ∧
      ∀ (s : EngineStages) (a : Assignment) (w : World Unit), a.settings = filled →
        ∀ problem after, (s.profile a).on w ≠ (.error (.fault (.configuration problem)), after) := by
  constructor
  · obtain ⟨-, refused⟩ := load_refuses_unusable (draftFile blankJson) ⟨"programs.json"⟩
    have read : ofJson? (draftJson blankJson) = some (drafted blank) := rfl
    refine (refused _).2 ⟨_, _, _, text_draftFile _, Json.ofText?_pretty _, read,
      category?_of_ofJson? read, "apr", ?_⟩
    have flawed : (drafted blank).flaw? = some ("apr", .noValuesAllowed) := by decide
    obtain ⟨category, first, -⟩ := flaw?_eq_some_iff.1 flawed
    cases first.named
    exact ⟨_, first, rfl⟩
  · obtain ⟨accepted, -⟩ := load_refuses_unusable (draftFile filledJson) ⟨"programs.json"⟩
    have loaded : load (draftFile filledJson) ⟨"programs.json"⟩ = .ok (drafted filled) :=
      load_eq_ok_iff.2 ⟨readJson_eq_ok_iff.2 ⟨_, _, text_draftFile _, Json.ofText?_pretty _, rfl⟩,
        by decide⟩
    exact ⟨_, loaded, rfl, (accepted _ loaded "apr" filled rfl).2.2 Unit⟩

end Configuration

end GuidedExploration
