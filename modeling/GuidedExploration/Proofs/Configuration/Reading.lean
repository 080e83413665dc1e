import GuidedExploration.Configuration.Basic
import GuidedExploration.Proofs.FileSystem.Reading
import GuidedExploration.Proofs.FileSystem.Writing
import GuidedExploration.Proofs.Json.Omission
import GuidedExploration.Proofs.Json.RoundTrip
import Mathlib.Tactic.SplitIfs

/-!
Configurations in files. A configuration is read back from its JSON, and from its JSON with usual
values left out of any of its records. A file with such a text is accepted just when no category
has a flaw.
-/

set_option autoImplicit false

namespace GuidedExploration

/-! ## Reading back -/

theorem ProgramKind.ofJson?_toJson (kind : ProgramKind) : ofJson? kind.toJson = some kind := by
  cases kind <;> rfl

theorem textsOfJson?_toJson (texts : List String) : textsOfJson? (textsToJson texts) = some texts :=
  Json.list?_array_of_inverse Json.text?_text texts

/-- An optional value is read back if it is never written as null. -/
theorem Json.optional?_ofOption {α : Type} (encode : α → Json) (decode : Json → Option α)
    (filled : ∀ a, encode a ≠ .null) (inverse : ∀ a, decode (encode a) = some a) (a : Option α) :
    optional? decode (ofOption encode a) = some a := by
  cases a with
  | none => rfl
  | some a => rw [ofOption, optional?_of_ne_null (filled a), inverse a, Option.map_some]

theorem Thresholds.ofJson?_toJson (t : Thresholds) : ofJson? t.toJson = some t := by
  have written : t.toJson.fields? fields =
      some [("min_occurrence", .natural t.minOccurrence.toNat),
        ("max_values", .natural t.maxValues.toNat),
        ("include_branchless", .bool t.includeBranchless)] :=
    Json.fields?_record rfl (by decide)
  unfold ofJson?
  rw [written, Option.bind_eq_bind, Option.bind_some]
  simp [Json.bool?]

theorem EngineOptions.ofJson?_toJson (o : EngineOptions) : ofJson? o.toJson = some o := by
  have written : o.toJson.fields? fields =
      some [("symbolic_inputs", .ofDict id Json.text o.symbolicInputs),
        ("extra_args", textsToJson o.extraArguments),
        ("env_file", .ofOption Path.toJson o.environmentFile)] :=
    Json.fields?_record rfl (by decide)
  have file := Json.optional?_ofOption Path.toJson Path.ofJson?
    (fun _ => Json.noConfusion) (fun _ => rfl) o.environmentFile
  unfold ofJson?
  rw [written, Option.bind_eq_bind, Option.bind_some]
  simp [textsOfJson?_toJson, file]

theorem Category.ofJson?_toJson (c : Category) : ofJson? c.toJson = some c := by
  have written : c.toJson.fields? fields =
      some [("type", c.kind.toJson), ("programs", textsToJson c.programs),
        ("thresholds", c.thresholds.toJson), ("klee_config", c.engine.toJson),
        ("profile_cmd", .ofOption textsToJson c.profileCommand)] :=
    Json.fields?_record rfl (by decide)
  have command := Json.optional?_ofOption textsToJson textsOfJson?
    (fun _ => Json.noConfusion) textsOfJson?_toJson c.profileCommand
  unfold ofJson?
  rw [written, Option.bind_eq_bind, Option.bind_some]
  simp [ProgramKind.ofJson?_toJson, textsOfJson?_toJson, Thresholds.ofJson?_toJson,
    EngineOptions.ofJson?_toJson, command]

theorem Configuration.ofJson?_toJson (c : Configuration) : ofJson? c.toJson = some c := by
  have named : ∀ name : String, some (id name) = some name := fun _ => rfl
  have read := Json.dict?_ofDict_of_inverse named Category.ofJson?_toJson c.categories
  rw [ofJson?, toJson, read]
  rfl

/-! ## Usual values left out -/

namespace Thresholds

def optionalFields : List Json.Field :=
  [{ name := "min_occurrence", usual := .natural 3 },
    { name := "max_values", usual := .natural 8 },
    { name := "include_branchless", usual := .bool true }]

abbrev Shortens : Json → Json → Prop := Json.ShortenedRecord optionalFields

theorem shortens_toJson (t : Thresholds) : Shortens t.toJson t.toJson :=
  ⟨.kept rfl (.kept rfl (.kept rfl .nil))⟩

theorem ofJson?_of_shortens {j j' : Json} (shortens : Shortens j j') : ofJson? j' = ofJson? j := by
  obtain ⟨shortened⟩ := shortens
  have distinct : (optionalFields.map Json.Field.name).Nodup := by decide
  have minOccurrence := shortened.default?_plain distinct "min_occurrence" (.natural 3)
    (by simp [optionalFields]) (3 : UInt64) Json.uint64? rfl
  have maxValues := shortened.default?_plain distinct "max_values" (.natural 8)
    (by simp [optionalFields]) (8 : UInt64) Json.uint64? rfl
  have includeBranchless := shortened.default?_plain distinct "include_branchless" (.bool true)
    (by simp [optionalFields]) true Json.bool? rfl
  unfold ofJson?
  rw [show fields = optionalFields.map Json.Field.name from rfl,
    shortened.fields?_members distinct, shortened.fields?_written distinct]
  simp only [Option.bind_eq_bind, Option.bind_some, minOccurrence, maxValues, includeBranchless]

end Thresholds

namespace EngineOptions

def optionalFields : List Json.Field :=
  [{ name := "symbolic_inputs", usual := .object [] },
    { name := "extra_args", usual := .array [] },
    { name := "env_file", usual := .null }]

abbrev Shortens : Json → Json → Prop := Json.ShortenedRecord optionalFields

theorem shortens_toJson (o : EngineOptions) : Shortens o.toJson o.toJson :=
  ⟨.kept rfl (.kept rfl (.kept rfl .nil))⟩

theorem ofJson?_of_shortens {j j' : Json} (shortens : Shortens j j') : ofJson? j' = ofJson? j := by
  obtain ⟨shortened⟩ := shortens
  have distinct : (optionalFields.map Json.Field.name).Nodup := by decide
  have symbolicInputs := shortened.default?_plain distinct "symbolic_inputs" (.object [])
    (by simp [optionalFields]) .empty (Json.dict? some Json.text?) rfl
  have extraArguments := shortened.default?_plain distinct "extra_args" (.array [])
    (by simp [optionalFields]) [] textsOfJson? rfl
  have environmentFile := shortened.default?_plain distinct "env_file" .null
    (by simp [optionalFields]) none (Json.optional? Path.ofJson?) rfl
  unfold ofJson?
  rw [show fields = optionalFields.map Json.Field.name from rfl,
    shortened.fields?_members distinct, shortened.fields?_written distinct]
  simp only [Option.bind_eq_bind, Option.bind_some, symbolicInputs, extraArguments, environmentFile]

end EngineOptions

namespace Category

def optionalFields : List Json.Field :=
  [{ name := "type", usual := .text "cli" },
    { name := "programs", usual := .array [] },
    { name := "thresholds", usual := Thresholds.toJson ⟨3, 8, true⟩,
      Shortens := Thresholds.Shortens },
    { name := "klee_config", usual := EngineOptions.toJson ⟨.empty, [], none⟩,
      Shortens := EngineOptions.Shortens },
    { name := "profile_cmd", usual := .null }]

abbrev Shortens : Json → Json → Prop := Json.ShortenedRecord optionalFields

theorem shortens_toJson (c : Category) : Shortens c.toJson c.toJson :=
  ⟨.kept rfl (.kept rfl (.kept c.thresholds.shortens_toJson (.kept c.engine.shortens_toJson
    (.kept rfl .nil))))⟩

theorem ofJson?_of_shortens {j j' : Json} (shortens : Shortens j j') : ofJson? j' = ofJson? j := by
  obtain ⟨shortened⟩ := shortens
  have distinct : (optionalFields.map Json.Field.name).Nodup := by decide
  -- Two fields are records themselves; what is left out of them does not change what they say.
  have kind := shortened.default?_plain distinct "type" (.text "cli") (by simp [optionalFields])
    .cli ProgramKind.ofJson? rfl
  have programs := shortened.default?_plain distinct "programs" (.array [])
    (by simp [optionalFields]) [] textsOfJson? rfl
  have thresholds := shortened.default?_written distinct "thresholds"
    (Thresholds.toJson ⟨3, 8, true⟩) (by simp [optionalFields]) {} Thresholds.ofJson?
    (Thresholds.ofJson?_toJson _) Thresholds.ofJson?_of_shortens
  have engine := shortened.default?_written distinct "klee_config"
    (EngineOptions.toJson ⟨.empty, [], none⟩) (by simp [optionalFields]) {}
    EngineOptions.ofJson? (EngineOptions.ofJson?_toJson _) EngineOptions.ofJson?_of_shortens
  have profileCommand := shortened.default?_plain distinct "profile_cmd" .null
    (by simp [optionalFields]) none (Json.optional? textsOfJson?) rfl
  unfold ofJson?
  rw [show fields = optionalFields.map Json.Field.name from rfl,
    shortened.fields?_members distinct, shortened.fields?_written distinct]
  simp only [Option.bind_eq_bind, Option.bind_some, kind, programs, thresholds, engine,
    profileCommand]

end Category

namespace Configuration

/-- The categories of a configuration by name, none left out, each perhaps shortened. -/
inductive Shortens : Json → Json → Prop where
  | mk {members written : List (String × Json)} :
      List.Forall₂ (fun member member' => member'.1 = member.1 ∧
        Category.Shortens member.2 member'.2) members written →
      Shortens (.record members) (.record written)

theorem shortens_toJson (c : Configuration) : Shortens c.toJson c.toJson := by
  refine ⟨List.forall₂_same.2 fun member inside => ⟨rfl, ?_⟩⟩
  obtain ⟨⟨name, category⟩, -, rfl⟩ := List.mem_map.1 inside
  exact category.shortens_toJson

theorem ofJson?_of_shortens {j j' : Json} (shortens : Shortens j j') : ofJson? j' = ofJson? j := by
  obtain ⟨written⟩ := shortens
  have same := written.imp fun _ _ member =>
    And.intro member.1 (Category.ofJson?_of_shortens member.2)
  rw [ofJson?, ofJson?, Json.dict?_congr same]

end Configuration

/-! ## Loading -/

theorem Category.flaw?_eq_none_iff {c : Category} :
    c.flaw? = none ↔ 1 ≤ c.thresholds.maxValues ∧ c.profileCommand ≠ some [] := by
  have positive : 1 ≤ c.thresholds.maxValues ↔ c.thresholds.maxValues ≠ 0 := by
    rw [UInt64.le_iff_toNat_le, ne_eq, ← UInt64.toNat_inj]
    exact Nat.one_le_iff_ne_zero
  rw [flaw?, positive]
  split_ifs with few empty <;> simp [few]
  · exact empty
  · exact empty

namespace Configuration

theorem flaw?_eq_none_iff {c : Configuration} :
    c.flaw? = none ↔ ∀ name category, c.category? name = some category →
      1 ≤ category.thresholds.maxValues ∧ category.profileCommand ≠ some [] := by
  simp only [flaw?, List.findSome?_eq_none_iff, Option.map_eq_none_iff, Prod.forall, category?,
    Dict.get?_eq_some_iff, Category.flaw?_eq_none_iff]

theorem load_eq_ok_iff {fs : FileSystem} {p : Path} {c : Configuration} :
    load fs p = .ok c ↔ FileSystem.readJson fs p ofJson? = .ok c ∧ c.flaw? = none := by
  unfold load
  split
  · next fault unread => simp [unread]
  · next other read =>
    rw [read, Except.ok.injEq]
    constructor
    · intro accepted
      split at accepted
      · cases accepted
      · next flawless =>
        cases accepted
        exact ⟨rfl, flawless⟩
    · rintro ⟨rfl, flawless⟩
      rw [flawless]

/-- A configuration is read back from its JSON, whichever usual values are left out of it, and a
file of such JSON is accepted just when each category allows a value and has no empty profiling
command. -/
theorem load_shortened (c : Configuration) :
    Shortens c.toJson c.toJson ∧ ∀ j, Shortens c.toJson j →
      (∀ style : Json.Style, style.Spaced →
        (Json.ofChars? (j.render style 0)).bind ofJson? = some c) ∧
      ∀ (fs : FileSystem) (p : Path) (text : String),
        fs.text p = .ok text → Json.ofText? text = some j → ∀ read, load fs p = .ok read ↔
          read = c ∧ ∀ name category, c.category? name = some category →
            1 ≤ category.thresholds.maxValues ∧ category.profileCommand ≠ some [] := by
  refine ⟨c.shortens_toJson, fun j shortens => ?_⟩
  have same : ofJson? j = some c := by rw [ofJson?_of_shortens shortens, c.ofJson?_toJson]
  refine ⟨fun style spaced => ?_, fun fs p text found parsed read => ?_⟩
  · rw [Json.ofChars?_render spaced, Option.bind_some, same]
  · rw [load_eq_ok_iff, FileSystem.readJson_eq_ok_iff]
    constructor
    · rintro ⟨⟨text', found', decoded⟩, flawless⟩
      cases found.symm.trans found'
      rw [parsed, Option.bind_some, same] at decoded
      cases decoded
      exact ⟨rfl, flaw?_eq_none_iff.1 flawless⟩
    · rintro ⟨rfl, flawless⟩
      refine ⟨⟨text, found, ?_⟩, flaw?_eq_none_iff.2 flawless⟩
      rw [parsed, Option.bind_some, same]

def sparse : Configuration where
  categories := .ofList
    [("apr", {
        kind := .library
        programs := ["apr"]
        thresholds := { maxValues := 5 }
        engine := { environmentFile := some ⟨"test.env"⟩ } }),
      ("coreutils", {})]

def sparseJson : Json :=
  .record
    [("apr", .record
        [("type", .text "library"), ("programs", .array [.text "apr"]),
          ("thresholds", .record [("max_values", .natural 5)]),
          ("klee_config", .record [("env_file", .text "test.env")])]),
      ("coreutils", .record [])]

def sparseFile : FileSystem where
  nodes := .ofList [(["programs.json"], .file sparseJson.pretty.toUTF8 false)]
  origin := []

theorem load_sparse : load sparseFile ⟨"programs.json"⟩ = .ok sparse := by
  have shortens : Shortens sparse.toJson sparseJson := by
    refine ⟨.cons ⟨rfl, ⟨.kept rfl (.kept rfl (.kept ?_ (.kept ?_ (.omitted .nil))))⟩⟩
      (.cons ⟨rfl, ?_⟩ .nil)⟩
    · exact ⟨.omitted (.kept rfl (.omitted .nil))⟩
    · exact ⟨.omitted (.omitted (.kept rfl .nil))⟩
    · exact ⟨.omitted (.omitted (.omitted (.omitted (.omitted .nil))))⟩
  have written : sparseFile.text ⟨"programs.json"⟩ = .ok sparseJson.pretty :=
    FileSystem.text_eq_ok_iff.2 ⟨_, rfl, FileSystem.fromUTF8?_toUTF8 _⟩
  refine (((load_shortened sparse).2 _ shortens).2 _ _ _ written (Json.ofText?_pretty _) _).2
    ⟨rfl, flaw?_eq_none_iff.1 ?_⟩
  decide

end Configuration

end GuidedExploration
