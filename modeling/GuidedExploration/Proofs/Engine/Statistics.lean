import GuidedExploration.Engine.Statistics
import GuidedExploration.Proofs.Dict
import GuidedExploration.Proofs.Text.Lines
import GuidedExploration.Proofs.Trace.Grammar

/-!
What a text of statistics says of a key: the last line that sets it counts, and whatever was read
is read again from lines that are written for it, in any order.
-/

set_option autoImplicit false

namespace GuidedExploration.Statistics

open Text

/-! ## Lines -/

/-- A line that gives a key a value: without the blanks around it, the text before its first colon
and the text behind it, each without the blanks around it. -/
inductive Sets (line : List Char) (key value : String) : Prop where
  | mk {before after : List Char} : Trims line (before ++ ':' :: after) → ':' ∉ before →
      Trims before key.toList → key.toList ≠ [] → Trims after value.toList → Sets line key value

theorem entry?_eq_some_iff {line : List Char} {key value : String} :
    entry? line = some (key, value) ↔ Sets line key value := by
  -- A line is taken apart as the assignment of a trace line is, once it is trimmed.
  change Trace.assignment? (trim line) = some (key, value) ↔ _
  rw [Trace.assignment?_eq_some_iff]
  constructor
  · rintro ⟨before, after, whole, absent, keyed, named, valued⟩
    exact ⟨trims_iff.2 whole.symm, absent, trims_iff.2 keyed, named, trims_iff.2 valued⟩
  · rintro ⟨whole, absent, keyed, named, valued⟩
    exact ⟨_, _, (trims_iff.1 whole).symm, absent, trims_iff.1 keyed, named, trims_iff.1 valued⟩

def SetsKey (line : List Char) : Prop := ∃ key value, Sets line key value

theorem exists_entry?_iff {line : List Char} :
    (∃ entry, entry? line = some entry) ↔ SetsKey line := by
  simp only [Prod.exists, entry?_eq_some_iff, SetsKey]

theorem isSome_comp_entry?_iff {line : List Char} :
    (Option.isSome ∘ entry?) line = true ↔ SetsKey line := by
  rw [← exists_entry?_iff]
  exact Option.isSome_iff_exists

instance (line : List Char) : Decidable (SetsKey line) :=
  decidable_of_iff _ isSome_comp_entry?_iff

theorem Sets.eq {line : List Char} {key value key' value' : String} (sets : Sets line key value)
    (sets' : Sets line key' value') : key = key' ∧ value = value' := by
  have same := (entry?_eq_some_iff.2 sets).symm.trans (entry?_eq_some_iff.2 sets')
  exact Prod.mk.inj (Option.some.inj same)

/-! ## The last line of a key -/

/-- What some lines say of a key: the value in the last one that sets it, if there is one. -/
inductive Last (lines : List (List Char)) (key : String) : Option String → Prop where
  | absent : (∀ line ∈ lines, ∀ value, ¬Sets line key value) → Last lines key none
  | set {earlier later : List (List Char)} {line : List Char} {value : String} :
      lines = earlier ++ line :: later → Sets line key value →
      (∀ other ∈ later, ∀ value', ¬Sets other key value') → Last lines key (some value)

theorem Last.append {lines later : List (List Char)} {key : String} {found : Option String}
    (last : Last lines key found) (others : ∀ line ∈ later, ∀ value, ¬Sets line key value) :
    Last (lines ++ later) key found := by
  cases last with
  | absent none =>
    refine .absent fun line member => ?_
    rcases List.mem_append.1 member with before | behind
    · exact none line before
    · exact others line behind
  | @set earlier between line value shape sets none =>
    have whole : lines ++ later = earlier ++ line :: (between ++ later) := by simp [shape]
    refine .set whole sets fun other member => ?_
    rcases List.mem_append.1 member with before | behind
    · exact none other before
    · exact others other behind

def ofLines (lines : List (List Char)) : Statistics := .ofList (lines.filterMap entry?)

theorem read_eq (text : List Char) :
    read text =
      { statistics := ofLines (lines text)
        skippedLines := (lines text).countP (Option.isNone ∘ entry?) } := by
  simp [read, ofLines, List.filterMap_map, List.countP_map]

theorem ofLines_concat_of_sets (lines : List (List Char)) {line : List Char} {key value : String}
    (sets : Sets line key value) :
    ofLines (lines ++ [line]) = (ofLines lines).insert key value := by
  have last : [line].filterMap entry? = [(key, value)] := by simp [entry?_eq_some_iff.2 sets]
  rw [ofLines, List.filterMap_append, last, Dict.ofList_concat]
  rfl

theorem get?_ofLines_append {lines later : List (List Char)} {key : String}
    (others : ∀ line ∈ later, ∀ value, ¬Sets line key value) :
    (ofLines (lines ++ later)).get? key = (ofLines lines).get? key := by
  induction later using List.reverseRecOn with
  | nil => rw [List.append_nil]
  | append_singleton later line ih =>
    rw [← ih fun other member => others other (List.mem_append_left _ member), ← List.append_assoc]
    cases entry : entry? line with
    | none => simp [ofLines, entry]
    | some pair =>
      obtain ⟨key', value⟩ := pair
      have sets := entry?_eq_some_iff.1 entry
      have apart : key ≠ key' := fun same => others line (by simp) value (same ▸ sets)
      rw [ofLines_concat_of_sets _ sets, Dict.get?_insert_of_ne _ _ apart]

theorem last_get? (lines : List (List Char)) (key : String) :
    Last lines key ((ofLines lines).get? key) := by
  induction lines using List.reverseRecOn with
  | nil => exact .absent nofun
  | append_singleton lines line ih =>
    by_cases setting : ∃ value, Sets line key value
    · obtain ⟨value, sets⟩ := setting
      rw [ofLines_concat_of_sets lines sets, Dict.get?_insert_self]
      exact .set rfl sets nofun
    · have others : ∀ other ∈ [line], ∀ value, ¬Sets other key value := by
        simpa using setting
      rw [get?_ofLines_append others]
      exact ih.append others

theorem get?_ofLines_eq_iff {lines : List (List Char)} {key : String} {found : Option String} :
    (ofLines lines).get? key = found ↔ Last lines key found := by
  constructor
  · rintro rfl
    exact last_get? lines key
  · intro last
    cases last with
    | absent others => exact @get?_ofLines_append [] lines key others
    | @set earlier later line value shape sets others =>
      rw [shape, ← List.singleton_append, ← List.append_assoc, get?_ofLines_append others,
        ofLines_concat_of_sets earlier sets, Dict.get?_insert_self]

theorem get?_read_eq_iff {text : List Char} {key : String} {found : Option String} :
    (read text).statistics.get? key = found ↔ Last (lines text) key found := by
  rw [read_eq]
  exact get?_ofLines_eq_iff

theorem skippedLines_read (text : List Char) :
    (read text).skippedLines + (lines text).countP (fun line => SetsKey line) =
      (lines text).length := by
  have counted : (lines text).countP (fun line => SetsKey line) =
      (lines text).countP (Option.isSome ∘ entry?) :=
    List.countP_congr fun line _ => by rw [decide_eq_true_iff, isSome_comp_entry?_iff]
  rw [read_eq, counted, Nat.add_comm,
    List.length_eq_countP_add_countP (Option.isSome ∘ entry?)]
  exact congrArg _ (List.countP_congr fun line _ => by simp)

/-! ## Written lines -/

def line (entry : String × String) : List Char :=
  entry.1.toList ++ ':' :: ' ' :: entry.2.toList

theorem getLast?_line (entry : String × String) :
    (line entry).getLast? = entry.2.toList.getLast?.or (some ' ') := by
  have parts : line entry = (entry.1.toList ++ [':', ' ']) ++ entry.2.toList := by simp [line]
  rw [parts, List.getLast?_append, List.getLast?_append]
  rfl

def written (entries : List (String × String)) : List Char :=
  (entries.map line).flatMap fun line => line ++ ['\n']

/-- A key that has a name, and a value; the texts fit on one line, no blank is at their ends, and
the key has no colon. -/
structure Tidy (entry : String × String) : Prop where
  named : entry.1.toList ≠ []
  key : Trims entry.1.toList entry.1.toList
  noColon : ':' ∉ entry.1.toList
  value : Trims entry.2.toList entry.2.toList
  oneLine : '\n' ∉ entry.1.toList ∧ '\n' ∉ entry.2.toList

theorem Sets.tidy {line : List Char} {key value : String} (sets : Sets line key value)
    (oneLine : '\n' ∉ line) : Tidy (key, value) := by
  obtain @⟨before, after, whole, absent, keyed, named, valued⟩ := sets
  refine ⟨named, keyed.again, fun member => absent (keyed.subset member), valued.again,
    fun member => oneLine (whole.subset ?_), fun member => oneLine (whole.subset ?_)⟩
  · have inKey := keyed.subset member
    simp [inKey]
  · have inValue := valued.subset member
    simp [inValue]

section

variable {entry : String × String}

theorem Tidy.isBlank_head (tidy : Tidy entry) (rest : List Char) :
    ∀ c, (entry.1.toList ++ rest).head? = some c → isBlank c = false := by
  obtain ⟨first, others, shape⟩ := List.exists_cons_of_ne_nil tidy.named
  intro c found
  rw [shape] at found
  exact tidy.key.first c (by rw [shape]; exact found)

theorem Tidy.sets_line (tidy : Tidy entry) : Sets (line entry) entry.1 entry.2 := by
  by_cases empty : entry.2.toList = []
  -- The blank behind the colon is at the end of the line, or before the value.
  · have whole : Trims (line entry) (entry.1.toList ++ ':' :: []) := by
      refine ⟨⟨[], [' '], by simp [line, empty], nofun, by simp; decide⟩, tidy.isBlank_head _, ?_⟩
      intro c found
      rw [List.getLast?_concat] at found
      cases found
      rfl
    exact .mk whole tidy.noColon tidy.key tidy.named (empty ▸ tidy.value)
  · have value : Trims (' ' :: entry.2.toList) entry.2.toList :=
      ⟨⟨[' '], [], by simp, by simp; decide, nofun⟩, tidy.value.first, tidy.value.last⟩
    have whole : Trims (line entry) (line entry) := by
      refine ⟨⟨[], [], by simp, nofun, nofun⟩, tidy.isBlank_head _, fun c found => ?_⟩
      rw [getLast?_line, List.getLast?_eq_some_getLast empty] at found
      exact tidy.value.last c ((List.getLast?_eq_some_getLast empty).trans found)
    exact .mk whole tidy.noColon tidy.key tidy.named value

theorem Tidy.lineFeed_notMem (tidy : Tidy entry) : '\n' ∉ line entry := by
  simp [line, tidy.oneLine]

theorem Tidy.getLast?_line_ne (tidy : Tidy entry) : (line entry).getLast? ≠ some '\r' := by
  intro found
  rw [getLast?_line] at found
  cases last : entry.2.toList.getLast? with
  | none => simp [last] at found
  | some c =>
    rw [last] at found
    cases found
    exact absurd (tidy.value.last _ last) (by decide)

end

theorem tidy_of_mem_read {text : List Char} {entry : String × String}
    (member : entry ∈ (read text).statistics.entries) : Tidy entry := by
  have last := get?_read_eq_iff.1 (((read text).statistics.get?_eq_some_iff).2 member)
  obtain - | ⟨shape, sets, -⟩ := last
  refine sets.tidy (lineFeed_notMem_of_mem_lines (s := text) ?_)
  simp [shape]

theorem lines_written {entries : List (String × String)} (tidy : ∀ entry ∈ entries, Tidy entry) :
    lines (written entries) = entries.map line :=
  lines_flatMap (List.forall_mem_map.2 fun entry member => (tidy entry member).lineFeed_notMem)
    (List.forall_mem_map.2 fun entry member => (tidy entry member).getLast?_line_ne)

theorem read_of_lines {entries : List (String × String)} (tidy : ∀ entry ∈ entries, Tidy entry)
    {text : List Char} (same : lines text = entries.map line) :
    read text = { statistics := .ofList entries } := by
  have entry : ∀ entry ∈ entries, entry? (line entry) = some entry := fun entry member =>
    entry?_eq_some_iff.2 (tidy entry member).sets_line
  have all : (entries.map line).filterMap entry? = entries := by
    rw [List.filterMap_map]
    exact (List.filterMap_congr entry).trans List.filterMap_some
  have none : (entries.map line).countP (Option.isNone ∘ entry?) = 0 := by
    rw [List.countP_eq_zero, List.forall_mem_map]
    intro e member
    simp [entry e member]
  rw [read_eq, same, none, ofLines, all]

/-- A text of statistics gives a key the value in the last line that sets it, and nothing if none
does. Each line sets a key or is skipped. From lines that are written for the entries that were
read, in any order, these are read again and no line is skipped. -/
theorem read_last_lines (text : List Char) :
    (∀ key found,
      (read text).statistics.get? key = found ↔ Last (lines text) key found) ∧
      (read text).skippedLines + (lines text).countP (fun line => SetsKey line) =
        (lines text).length ∧
      ∀ entries : List (String × String), entries.Perm (read text).statistics.entries →
        lines (written entries) = entries.map line ∧
          ∀ again : List Char, lines again = entries.map line →
            read again =
              { statistics := (read text).statistics, skippedLines := 0, fileMissing := false } := by
  refine ⟨fun key found => get?_read_eq_iff, skippedLines_read text, fun entries same => ?_⟩
  have tidy : ∀ entry ∈ entries, Tidy entry := fun entry member =>
    tidy_of_mem_read (same.mem_iff.1 member)
  refine ⟨lines_written tidy, fun again shape => ?_⟩
  rw [read_of_lines tidy shape, Dict.ofList_of_perm same]

def overwritten : List Char := "a: 1\r\n b :x:y \nb: \n: no\nnone\na:2".toList

theorem read_last_lines_overwritten :
    let d : Statistics := .ofList [("a", "2"), ("b", "")]
    let again := "b: \r\na: 2".toList
    read overwritten = { statistics := d, skippedLines := 2 } ∧
      Last (lines overwritten) "a" (some "2") ∧ Last (lines overwritten) "none" none ∧
      [("b", ""), ("a", "2")].Perm d.entries ∧
      lines again = [("b", ""), ("a", "2")].map line ∧
      read again = { statistics := d, skippedLines := 0, fileMissing := false } := by
  intro d again
  have first : read overwritten = { statistics := d, skippedLines := 2 } := by decide +kernel
  have order : [("b", ""), ("a", "2")].Perm d.entries := by decide +kernel
  have shape : lines again = [("b", ""), ("a", "2")].map line := by decide +kernel
  obtain ⟨lasts, -, writing⟩ := read_last_lines overwritten
  rw [first] at lasts writing
  exact ⟨first, (lasts "a" _).1 (by decide +kernel), (lasts "none" _).1 (by decide +kernel), order,
    shape, (writing _ order).2 again shape⟩

end GuidedExploration.Statistics
