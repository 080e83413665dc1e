import GuidedExploration.Proofs.Trace.Lines

/-!
The grammar of a trace line, beside the reader that cuts it at first marks. A line that is none of
the lines of the grammar is malformed, and so is a marker of a negative branch with nothing but
blanks behind its tab: trimming takes the tab away.
-/

set_option autoImplicit false

namespace GuidedExploration.Trace

open Text

/-! ## Places -/

theorem id?_eq_some_iff {s : List Char} {n : Int64} : id? s = some n ↔ Spells s n.toInt := by
  rw [id?, Option.bind_eq_some_iff]
  constructor
  · rintro ⟨i, read, fits⟩
    rw [← int64?_eq_some_iff.1 fits]
    exact integer?_eq_some_iff.1 read
  · intro spelled
    exact ⟨n.toInt, integer?_eq_some_iff.2 spelled, int64?_toInt n⟩

inductive Place : List Char → Int64 → Int64 → Prop where
  | mk {siteText branchText : List Char} {site branch : Int64} : Spells siteText site.toInt →
      Spells branchText branch.toInt → Place (placeText siteText branchText) site branch

theorem location?_eq_some_iff {s : List Char} {site branch : Int64} :
    location? s = some (site, branch) ↔ Place s site branch := by
  constructor
  · intro read
    simp only [location?, Option.bind_eq_bind, Option.bind_eq_some_iff] at read
    obtain ⟨rest, front, ⟨siteText, branchText⟩, cut, n, sites, m, branches, same⟩ := read
    cases same
    have whole : s = placeText siteText branchText := by
      rw [← List.isPrefixOf?_eq_some_iff_append_eq.1 front, eq_of_cutAround cut]
      rfl
    subst whole
    exact .mk (id?_eq_some_iff.1 sites) (id?_eq_some_iff.1 branches)
  · rintro ⟨sites, branches⟩
    have absent : ':' ∉ _ := fun member => by
      rcases sites.mem member with same | digit
      · cases same
      · cases digit
    rw [location?_placeText absent, id?_eq_some_iff.2 sites, id?_eq_some_iff.2 branches]
    rfl

theorem Place.notMem_tab {s : List Char} {site branch : Int64} (place : Place s site branch) :
    '\t' ∉ s := by
  obtain ⟨sites, branches⟩ := place
  have absent : ∀ {text : List Char} {n : Int}, Spells text n → '\t' ∉ text := by
    intro text n spelled member
    rcases spelled.mem member with same | digit
    · cases same
    · cases digit
  simp [placeText, absent sites, absent branches]

/-! ## Lines -/

theorem assignment?_eq_some_iff {s : List Char} {name value : String} :
    assignment? s = some (name, value) ↔
      ∃ before after, s = before ++ ':' :: after ∧ ':' ∉ before ∧ name.toList = trim before ∧
        name.toList ≠ [] ∧ value.toList = trim after := by
  constructor
  · intro read
    obtain ⟨⟨before, after⟩, cut, read⟩ := Option.bind_eq_some_iff.1 read
    obtain ⟨whole, absent⟩ := cutAt_eq_some_iff.1 cut
    dsimp only at read
    split at read
    · cases read
    · next named =>
      cases read
      exact ⟨before, after, whole, absent, by simp, by simpa using named, by simp⟩
  · rintro ⟨before, after, rfl, absent, trimmed, named, valued⟩
    have solid : ¬(trim before).isEmpty = true := by simpa [← trimmed] using named
    simp only [assignment?, cutAt_append absent, Option.bind_eq_bind, Option.bind_some, if_neg solid]
    rw [← trimmed, ← valued, String.ofList_toList, String.ofList_toList]
    rfl

/-- The lines that are not malformed, without the blanks around them. -/
inductive Shape : List Char → LineOutcome → Prop where
  | blank : Shape [] .blank
  | negativeBranch {place : List Char} {site branch : Int64} (assignment : List Char) :
      Place place site branch → branch < 0 →
      Shape (place ++ '\t' :: assignment) .negativeBranch
  | accepted {place before after : List Char} {site branch : Int64} {name value : String} :
      Place place site branch → 0 ≤ branch → ':' ∉ before → Trims before name.toList →
      name.toList ≠ [] → Trims after value.toList →
      Shape (place ++ '\t' :: (before ++ ':' :: after)) (.accepted { site, branch, name, value })

theorem classifyTrimmed_of_place {place : List Char} {site branch : Int64}
    (placed : Place place site branch) (assignment : List Char) :
    classifyTrimmed (place ++ '\t' :: assignment) =
      if branch < 0 then .negativeBranch
      else
        match assignment? assignment with
        | none => .malformed
        | some (name, value) => .accepted { site, branch, name, value } := by
  have filled : ¬(place ++ '\t' :: assignment).isEmpty = true := by simp
  rw [classifyTrimmed, if_neg filled, cutAt_append placed.notMem_tab]
  cases assigned : assignment? assignment <;> simp [location?_eq_some_iff.2 placed, assigned]

theorem Shape.classifyTrimmed {line : List Char} {outcome : LineOutcome}
    (shape : Shape line outcome) : classifyTrimmed line = outcome := by
  cases shape with
  | blank => rfl
  | negativeBranch assignment placed negative =>
    rw [classifyTrimmed_of_place placed, if_pos negative]
  | @accepted place before after site branch name value placed positive absent named filled valued =>
    have read : assignment? (before ++ ':' :: after) = some (name, value) :=
      assignment?_eq_some_iff.2
        ⟨before, after, rfl, absent, trims_iff.1 named, filled, trims_iff.1 valued⟩
    rw [classifyTrimmed_of_place placed, if_neg (Int64.not_lt.2 positive), read]

theorem shape_classifyTrimmed {line : List Char} (formed : classifyTrimmed line ≠ .malformed) :
    Shape line (classifyTrimmed line) := by
  by_cases empty : line = []
  · subst empty
    exact .blank
  have filled : ¬line.isEmpty = true := by simpa using empty
  -- Every step that does not end at a malformed line gives one more part of the shape.
  rw [classifyTrimmed, if_neg filled] at formed ⊢
  cases cut : cutAt '\t' line with
  | none => simp [cut] at formed
  | some parts =>
    obtain ⟨place, assignment⟩ := parts
    obtain rfl := eq_of_cutAt cut
    simp only [cut] at formed ⊢
    cases located : location? place with
    | none => simp [located] at formed
    | some ids =>
      obtain ⟨site, branch⟩ := ids
      have placed := location?_eq_some_iff.1 located
      simp only [located] at formed ⊢
      split
      · next negative => exact .negativeBranch assignment placed negative
      · next positive =>
        rw [if_neg positive] at formed
        cases assigned : assignment? assignment with
        | none => simp [assigned] at formed
        | some pair =>
          obtain ⟨name, value⟩ := pair
          obtain ⟨before, after, rfl, absent, named, filled, valued⟩ :=
            assignment?_eq_some_iff.1 assigned
          exact .accepted placed (Int64.not_lt.1 positive) absent (trims_iff.2 named) filled
            (trims_iff.2 valued)

theorem Shape.ne_malformed {line : List Char} {outcome : LineOutcome}
    (shape : Shape line outcome) : outcome ≠ .malformed := by
  cases shape <;> exact nofun

theorem classify_eq_blank_iff {line : List Char} :
    classify line = .blank ↔ ∀ c ∈ line, isBlank c = true := by
  rw [← trim_eq_nil_iff, classify]
  generalize trim line = core
  constructor
  · intro blank
    have formed : classifyTrimmed core ≠ .malformed := by simp [blank]
    have shape := shape_classifyTrimmed formed
    rw [blank] at shape
    cases shape
    rfl
  · rintro rfl
    rfl

/-- A line is what the grammar says of it once the blanks around it are gone; of a malformed line,
and of no other one, it says nothing. -/
theorem classify_eq_iff (line : List Char) (outcome : LineOutcome) :
    classify line = outcome ↔
      ∃ core, Trims line core ∧
        (Shape core outcome ∨ outcome = .malformed ∧ ∀ other, ¬Shape core other) := by
  rw [classify]
  constructor
  · rintro rfl
    refine ⟨trim line, trims_trim line, ?_⟩
    by_cases malformed : classifyTrimmed (trim line) = .malformed
    · refine .inr ⟨malformed, fun other shape => shape.ne_malformed ?_⟩
      rw [← shape.classifyTrimmed, malformed]
    · exact .inl (shape_classifyTrimmed malformed)
  · rintro ⟨core, trimmed, said⟩
    obtain rfl := trims_iff.1 trimmed
    rcases said with shape | ⟨rfl, nothing⟩
    · exact shape.classifyTrimmed
    · by_contra formed
      exact nothing _ (shape_classifyTrimmed formed)

example : classify "  loc:007:branch:-0\t x :a:b \r\n".toList =
    .accepted { site := 7, branch := 0, name := "x", value := "a:b" } := by decide

/-! ## Markers -/

theorem Place.exists_ends {place : List Char} {site branch : Int64}
    (placed : Place place site branch) :
    (∃ rest, place = 'l' :: rest) ∧ ∃ front c, place = front ++ [c] ∧ c.isDigit = true := by
  obtain @⟨siteText, _, _, _, sites, branches⟩ := placed
  obtain ⟨front, c, rfl, digit⟩ := branches.exists_concat
  exact ⟨⟨_, rfl⟩, placeText siteText front, c, by simp [placeText], digit⟩

section

variable {place assignment : List Char} {site branch : Int64}

theorem Place.trim_marker_of_blank (placed : Place place site branch)
    (blank : ∀ c ∈ assignment, isBlank c = true) : trim (place ++ '\t' :: assignment) = place := by
  obtain ⟨⟨rest, begun⟩, front, c, ended, digit⟩ := placed.exists_ends
  have tabbed : ∀ c ∈ '\t' :: assignment, isBlank c = true := List.forall_mem_cons.2 ⟨rfl, blank⟩
  -- The tab goes with the blanks behind it, and the place itself ends in a digit.
  rw [trim_append_blank place tabbed]
  apply trim_of_solid
  · rw [begun]
    rintro _ ⟨⟩
    rfl
  · intro d found
    rw [ended, List.getLast?_concat] at found
    cases found
    exact isBlank_of_isDigit digit

theorem Place.trim_marker_of_solid (placed : Place place site branch)
    (solid : trimEnd assignment ≠ []) :
    trim (place ++ '\t' :: assignment) = place ++ '\t' :: trimEnd assignment := by
  obtain ⟨⟨rest, begun⟩, -⟩ := placed.exists_ends
  have start : trimStart (place ++ '\t' :: assignment) = (place ++ ['\t']) ++ assignment := by
    rw [begun]
    simp [trimStart, isBlank, blankRanges]
  rw [trim, start, trimEnd_append _ solid, List.append_assoc, List.singleton_append]

end

/-- What stands behind the tab of a marker decides nothing, as long as it is not blank. A blank text
is trimmed away together with the tab, and the marker is then malformed. -/
theorem classify_of_negative_place {place : List Char} {site branch : Int64}
    (placed : Place place site branch) (negative : branch < 0) (assignment : List Char) :
    classify (place ++ '\t' :: assignment) =
      if assignment.all isBlank then .malformed else .negativeBranch := by
  split
  · next blank =>
    obtain ⟨⟨rest, begun⟩, -⟩ := placed.exists_ends
    have filled : ¬place.isEmpty = true := by simp [begun]
    rw [classify, placed.trim_marker_of_blank (List.all_eq_true.1 blank), classifyTrimmed,
      if_neg filled, cutAt_eq_none_iff.2 placed.notMem_tab]
  · next solid =>
    have kept : trimEnd assignment ≠ [] := fun empty =>
      solid (List.all_eq_true.2 (trimEnd_eq_nil_iff.1 empty))
    rw [classify, placed.trim_marker_of_solid kept, classifyTrimmed_of_place placed, if_pos negative]

def marker : List Char := "loc:-05:branch:-1".toList

theorem place_marker : Place marker (-5) (-1) :=
  location?_eq_some_iff.1 (by decide +kernel)

theorem classify_of_negative_place_without_colon :
    classify (marker ++ '\t' :: " \t no colon ".toList) = .negativeBranch := by
  rw [classify_of_negative_place place_marker (by decide) " \t no colon ".toList, if_neg]
  decide

theorem marker_without_assignment :
    classify (marker ++ ['\t']) = .malformed ∧
      ¬∀ (place assignment : List Char) (site branch : Int64), Place place site branch →
        branch < 0 → classify (place ++ '\t' :: assignment) = .negativeBranch := by
  have malformed : classify (marker ++ ['\t']) = .malformed := by decide +kernel
  refine ⟨malformed, fun always => ?_⟩
  have counted := always marker [] (-5) (-1) place_marker (by decide)
  rw [malformed] at counted
  cases counted

end GuidedExploration.Trace
