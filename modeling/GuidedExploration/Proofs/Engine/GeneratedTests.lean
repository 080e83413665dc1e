import GuidedExploration.Engine.Statistics
import GuidedExploration.Proofs.FileSystem.Listing
import GuidedExploration.Proofs.Text.Affix
import GuidedExploration.Proofs.Text.Encoding
import GuidedExploration.Proofs.Text.Glob
import Mathlib.Data.Set.Card

/-!
What is counted as a generated test. It is everything in the directory whose name is of the form
`test*.ktest`, be it a file or not, so the count is that of the files only where nothing else has
such a name.
-/

set_option autoImplicit false

namespace GuidedExploration

open Text

def testPattern : Glob := .ofText "test*.ktest".toList

/-- Names of that form. The star may stand for any bytes, or for none. -/
def IsTestFileName (name : List UInt8) : Prop :=
  ∃ star, name = "test".toUTF8.toList ++ star ++ ".ktest".toUTF8.toList

/-! ## Names -/

theorem isTestName_iff_text {name : List UInt8} :
    isTestName name = true ↔
      ∃ text, Utf8.decodeLossy name = "test".toList ++ text ++ ".ktest".toList :=
  isPrefixOf_and_isSuffixOf_iff (c := '.') rfl (by decide)

/-- It makes no difference that the bytes are read as text, even if they are none. -/
theorem isTestName_iff {name : List UInt8} : isTestName name = true ↔ IsTestFileName name := by
  have plain : ∀ b ∈ "test".toUTF8.toList ++ ".ktest".toUTF8.toList, Utf8.Plain b := by
    decide +kernel
  have front : "test".toUTF8.toList.map Utf8.plainChar = "test".toList := by decide +kernel
  have back : ".ktest".toUTF8.toList.map Utf8.plainChar = ".ktest".toList := by decide +kernel
  rw [isTestName_iff_text, ← front, ← back]
  exact Utf8.exists_decodeLossy_eq_enclosed_iff plain

theorem testPattern_eq :
    testPattern = Glob.literal "test".toList ++ .run :: Glob.literal ".ktest".toList := by
  decide

theorem isTestName_toUTF8 (name : String) :
    isTestName name.toUTF8.toList = testPattern.accepts name.toList := by
  have decoded : Utf8.decodeLossy name.toUTF8.toList = name.toList := by
    have again := Utf8.decodeLossy_toUTF8 name.toList
    rwa [String.ofList_toList] at again
  rw [Bool.eq_iff_iff, isTestName_iff_text, decoded, testPattern_eq, Glob.accepts_enclosed_iff]

/-! ## Directories -/

theorem countP_eq_ncard {α : Type} {names : List α} (distinct : names.Nodup) (test : α → Bool) :
    names.countP test = {name | name ∈ names ∧ test name = true}.ncard := by
  classical
  rw [List.countP_eq_length_filter, ← List.toFinset_card_of_nodup (distinct.filter test),
    ← Set.ncard_coe_finset]
  congr 1
  ext name
  simp

section

variable {names : List (List UInt8)}

theorem countTestNames_eq_ncard (distinct : names.Nodup) :
    countTestNames names = {name | name ∈ names ∧ IsTestFileName name}.ncard := by
  rw [countTestNames, countP_eq_ncard distinct]
  simp only [isTestName_iff]

theorem countTestNames_eq_files_iff (distinct : names.Nodup) (files : Set (List UInt8)) :
    countTestNames names = {name | name ∈ names ∧ name ∈ files ∧ IsTestFileName name}.ncard ↔
      ∀ name ∈ names, IsTestFileName name → name ∈ files := by
  rw [countTestNames_eq_ncard distinct]
  have finite : {name | name ∈ names ∧ IsTestFileName name}.Finite :=
    (List.finite_toSet names).subset fun _ member => member.1
  have part : {name | name ∈ names ∧ name ∈ files ∧ IsTestFileName name} ⊆
      {name | name ∈ names ∧ IsTestFileName name} := fun _ member => ⟨member.1, member.2.2⟩
  constructor
  · intro same name member named
    have whole := Set.eq_of_subset_of_ncard_le part same.le finite
    exact ((Set.ext_iff.1 whole name).2 ⟨member, named⟩).2.1
  · intro only
    congr 1
    ext name
    exact ⟨fun counted => ⟨counted.1, only name counted.1 counted.2, counted.2⟩,
      fun counted => part counted⟩

end

namespace FileSystem

variable {fs : FileSystem} {p : Path} {location : Location}

def testFiles (fs : FileSystem) (location : Location) : Set String :=
  {name | testPattern.accepts name.toList = true ∧
    ∃ contents executable, fs.node? (location ++ [name]) = some (.file contents executable)}

def testDirectories (fs : FileSystem) (location : Location) : Set String :=
  {name | testPattern.accepts name.toList = true ∧ fs.node? (location ++ [name]) = some .directory}

theorem finite_of_names {names : Set String}
    (listed : ∀ name ∈ names, ∃ node, fs.node? (location ++ [name]) = some node) :
    names.Finite :=
  (List.finite_toSet (fs.names location)).subset fun name member => mem_names_iff.2 (listed name member)

theorem finite_testFiles (fs : FileSystem) (location : Location) :
    (fs.testFiles location).Finite :=
  finite_of_names fun _ ⟨_, _, _, found⟩ => ⟨_, found⟩

theorem finite_testDirectories (fs : FileSystem) (location : Location) :
    (fs.testDirectories location).Finite :=
  finite_of_names fun _ ⟨_, found⟩ => ⟨_, found⟩

theorem notMem_testDirectories {name : String} (file : name ∈ fs.testFiles location) :
    name ∉ fs.testDirectories location := by
  rintro ⟨-, directory⟩
  obtain ⟨-, _, _, found⟩ := file
  rw [found] at directory
  cases directory

theorem tests_eq (fs : FileSystem) (location : Location) :
    {name | name ∈ fs.names location ∧ testPattern.accepts name.toList = true} =
      fs.testFiles location ∪ fs.testDirectories location := by
  ext name
  constructor
  · rintro ⟨member, accepted⟩
    obtain ⟨node, found⟩ := mem_names_iff.1 member
    cases node with
    | directory => exact .inr ⟨accepted, found⟩
    | file contents executable => exact .inl ⟨accepted, contents, executable, found⟩
  · rintro (⟨accepted, _, _, found⟩ | ⟨accepted, found⟩)
    · exact ⟨mem_names_iff.2 ⟨_, found⟩, accepted⟩
    · exact ⟨mem_names_iff.2 ⟨_, found⟩, accepted⟩

theorem countTests_of_directory (located : fs.locate p = .ok location)
    (there : fs.node? location = some .directory) :
    countTests fs p = (fs.testFiles location).ncard + (fs.testDirectories location).ncard := by
  have counted : countTests fs p =
      (fs.names location).countP fun name => testPattern.accepts name.toList := by
    rw [countTests, list_of_directory located there]
    simp only [countTestNames, List.countP_map, Function.comp_def, isTestName_toUTF8]
  rw [counted, countP_eq_ncard (fs.nodup_names location), tests_eq]
  exact Set.ncard_union_eq (Set.disjoint_left.2 fun _ => notMem_testDirectories)
    (fs.finite_testFiles location) (fs.finite_testDirectories location)

theorem countTests_of_not_directory (other : Action.isDirectory fs p = false) :
    countTests fs p = 0 := by
  obtain ⟨cause, failed⟩ := list_of_not_directory other
  rw [countTests, failed]

end FileSystem

/-- In a directory everything that has the name of a test is counted, files and directories alike,
so the count is that of the files just when no directory has such a name; where there is no directory
nothing is counted. Of any names, some of which are those of files, as many count as there are files
among them with the name of a test, just when nothing else has such a name. -/
theorem countTests_eq_files_iff (fs : FileSystem) (p : Path) :
    (∀ location, fs.locate p = .ok location → fs.node? location = some .directory →
      countTests fs p = (fs.testFiles location).ncard + (fs.testDirectories location).ncard ∧
      (countTests fs p = (fs.testFiles location).ncard ↔ fs.testDirectories location = ∅)) ∧
    (FileSystem.Action.isDirectory fs p = false → countTests fs p = 0) ∧
    ∀ (names : List (List UInt8)) (files : Set (List UInt8)), names.Nodup →
      (countTestNames names = {name | name ∈ names ∧ name ∈ files ∧ IsTestFileName name}.ncard ↔
        ∀ name ∈ names, IsTestFileName name → name ∈ files) := by
  refine ⟨fun location located there => ?_, FileSystem.countTests_of_not_directory,
    fun names files distinct => countTestNames_eq_files_iff distinct files⟩
  have counted := FileSystem.countTests_of_directory located there
  refine ⟨counted, ?_⟩
  rw [counted, Nat.add_eq_left, Set.ncard_eq_zero (fs.finite_testDirectories location)]

def crowded : FileSystem :=
  ((FileSystem.empty.put ["out"] .directory).put ["out", "info"] (.file .empty false)).put
    ["out", "test000001.ktest"] .directory

def crowdedWithTest : FileSystem := crowded.put ["out", "test.ktest"] (.file .empty false)

/-- Names of which only one is no text, and only that one is of the right form. -/
def strangeNames : List (List UInt8) :=
  ["test".toUTF8.toList ++ [0xFF] ++ ".ktest".toUTF8.toList, "tes.ktest".toUTF8.toList,
    "test.ktest~".toUTF8.toList]

theorem countTests_of_crowded :
    strangeNames.Nodup ∧
    countTestNames strangeNames =
      {name | name ∈ strangeNames ∧ name ∈ Set.univ ∧ IsTestFileName name}.ncard ∧
    crowdedWithTest.locate ⟨"out"⟩ = .ok ["out"] ∧
    crowdedWithTest.node? ["out"] = some .directory ∧
    countTests crowdedWithTest ⟨"out"⟩ ≠ (crowdedWithTest.testFiles ["out"]).ncard ∧
    FileSystem.Action.isDirectory crowdedWithTest ⟨"out/info"⟩ = false ∧
    countTests crowdedWithTest ⟨"out/info"⟩ = 0 := by
  obtain ⟨counted, -, listed⟩ := countTests_eq_files_iff crowdedWithTest ⟨"out"⟩
  obtain ⟨-, none, -⟩ := countTests_eq_files_iff crowdedWithTest ⟨"out/info"⟩
  have distinct : strangeNames.Nodup := by decide +kernel
  have located : crowdedWithTest.locate ⟨"out"⟩ = .ok ["out"] := by decide +kernel
  have there : crowdedWithTest.node? ["out"] = some .directory := by decide +kernel
  have file : FileSystem.Action.isDirectory crowdedWithTest ⟨"out/info"⟩ = false := by
    decide +kernel
  have named : "test000001.ktest" ∈ crowdedWithTest.testDirectories ["out"] := by
    constructor <;> decide +kernel
  refine ⟨distinct, (listed _ _ distinct).2 fun name _ _ => Set.mem_univ name, located, there, ?_,
    file, none file⟩
  intro same
  rw [(counted _ located there).2.1 same] at named
  exact named

/-- No file has the name of a test, and yet one test is counted. -/
theorem countTests_counts_directory :
    countTests crowded ⟨"out"⟩ = 1 ∧ crowded.testFiles ["out"] = ∅ := by
  refine ⟨by decide +kernel, Set.eq_empty_of_forall_notMem ?_⟩
  rintro name ⟨accepted, contents, executable, found⟩
  have others : ∀ e ∈ crowded.nodes.entries, testPattern.accepts (e.1.getLastD "").toList = true →
      e.2 = .directory := by
    decide +kernel
  have member : (["out", name], Node.file contents executable) ∈ crowded.nodes.entries :=
    crowded.nodes.get?_eq_some_iff.1 found
  have directory := others _ member accepted
  cases directory

end GuidedExploration
