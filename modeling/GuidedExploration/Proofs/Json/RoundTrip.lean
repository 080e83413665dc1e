import GuidedExploration.Proofs.Json.Literal

/-!
The reader inverts the printer: every value, in whatever style it is written, is read back as it is.
-/

set_option autoImplicit false

namespace GuidedExploration.Json

open Text (digitChar)

def IsGap (s : List Char) : Prop := ∀ c ∈ s, isGap c = true

structure Style.Spaced (style : Style) : Prop where
  before : ∀ level, IsGap (style.before level)
  afterColon : IsGap style.afterColon

theorem compactStyle_spaced : compactStyle.Spaced where
  before _ := by simp [IsGap, compactStyle]
  afterColon := by simp [IsGap, compactStyle]

theorem prettyStyle_spaced : prettyStyle.Spaced where
  before level := by
    intro c member
    rcases List.mem_cons.1 member with rfl | blank
    · rfl
    · rw [(List.mem_replicate.1 blank).2]
      rfl
  afterColon := by
    intro c member
    rw [List.mem_singleton.1 member]
    rfl

theorem skipGap_append {gap : List Char} (blank : IsGap gap) (s : List Char) :
    skipGap (gap ++ s) = skipGap s := by
  induction gap with
  | nil => rfl
  | cons c gap ih =>
    have first := blank c List.mem_cons_self
    have later : IsGap gap := fun d member => blank d (List.mem_cons_of_mem c member)
    rw [List.cons_append, skipGap, List.dropWhile_cons_of_pos first]
    exact ih later

theorem skipGap_cons {c : Char} (solid : isGap c = false) (s : List Char) :
    skipGap (c :: s) = c :: s := by
  rw [skipGap, List.dropWhile_cons_of_neg (by simp [solid])]

theorem value?_gap {gap : List Char} (blank : IsGap gap) (fuel : Nat) (s : List Char) :
    value? fuel (gap ++ s) = value? fuel s := by
  cases fuel with
  | zero => rfl
  | succ fuel => simp only [value?, skipGap_append blank]

/-- A text that begins like a value: with a character that is no blank and closes no array. -/
def Opens (s : List Char) : Prop := ∃ c rest, s = c :: rest ∧ isGap c = false ∧ c ≠ ']'

theorem exists_numberChars (n : Number) :
    ∃ c rest, numberChars n = c :: rest ∧ isGap c = false ∧ c ≠ ']' ∧ c ≠ '"' ∧ c ≠ '[' ∧ c ≠ '{' ∧
      c ≠ 'n' ∧ c ≠ 't' ∧ c ≠ 'f' := by
  cases sign : n.negative with
  | true => exact ⟨'-', _, by simp only [numberChars, sign]; rfl, by decide⟩
  | false =>
    obtain ⟨d, more, start⟩ := exists_digits n.whole
    have plain : ∀ d : Fin 10, isGap (digitChar d.val) = false ∧ digitChar d.val ≠ ']' ∧
        digitChar d.val ≠ '"' ∧ digitChar d.val ≠ '[' ∧ digitChar d.val ≠ '{' ∧
        digitChar d.val ≠ 'n' ∧ digitChar d.val ≠ 't' ∧ digitChar d.val ≠ 'f' := by decide
    exact ⟨digitChar d.val, _, by simp only [numberChars, sign, start]; rfl, plain d⟩

theorem opens_literal (text : Option String) : Opens (literal text) := by
  cases text with
  | none => exact ⟨_, _, rfl, by decide, by decide⟩
  | some s => exact ⟨_, _, rfl, by decide, by decide⟩

theorem opens_render (style : Style) (level : Nat) (j : Json) : Opens (render style level j) := by
  cases j with
  | null => exact ⟨_, _, rfl, by decide, by decide⟩
  | bool value => cases value <;> exact ⟨_, _, rfl, by decide, by decide⟩
  | number n =>
    obtain ⟨c, rest, shape, solid, open_, _⟩ := exists_numberChars n
    exact ⟨c, rest, shape, solid, open_⟩
  | string text => exact opens_literal text
  | array items => cases items <;> exact ⟨_, _, rfl, by decide, by decide⟩
  | object members => cases members <;> exact ⟨_, _, rfl, by decide, by decide⟩

/-- What may follow a value: the end, a blank, a comma or a closing bracket. -/
def Follows (s : List Char) : Prop :=
  ∀ c rest, s = c :: rest → isGap c = true ∨ c = ',' ∨ c = ']' ∨ c = '}'

theorem Follows.endsNumber {s : List Char} (ended : Follows s) : EndsNumber s := by
  intro c rest shape
  rcases ended c rest shape with blank | rfl | rfl | rfl
  · simp only [isGap, Bool.or_eq_true, beq_iff_eq] at blank
    rcases blank with ((rfl | rfl) | rfl) | rfl <;> decide
  all_goals decide

theorem Follows.cons {c : Char} (ended : isGap c = true ∨ c = ',' ∨ c = ']' ∨ c = '}')
    (rest : List Char) : Follows (c :: rest) := by
  intro d more shape
  rw [← (List.cons.inj shape).1]
  exact ended

theorem Follows.gap {gap rest : List Char} (blank : IsGap gap) (ended : Follows rest) :
    Follows (gap ++ rest) := by
  cases gap with
  | nil => exact ended
  | cons c gap => exact .cons (.inl (blank c List.mem_cons_self)) _

theorem value?_string (text : Option String) (fuel : Nat) (rest : List Char) :
    value? (fuel + 1) (literal text ++ rest) = some (.string text, rest) := by
  obtain ⟨inner, shape, read⟩ := string?_literal text rest
  rw [shape, value?, skipGap_cons (by decide)]
  simp only [read, Option.map_some]

theorem value?_number (n : Number) (fuel : Nat) {rest : List Char} (ended : Follows rest) :
    value? (fuel + 1) (numberChars n ++ rest) = some (.number n, rest) := by
  have read := number?_numberChars n ended.endsNumber
  obtain ⟨c, more, shape, solid, -, quote, array, object, null, yes, no⟩ := exists_numberChars n
  rw [shape, List.cons_append] at read ⊢
  rw [value?, skipGap_cons solid]
  simp [quote, array, object, scalar?, null, yes, no, read]

theorem items?_gap {gap : List Char} (blank : IsGap gap) (fuel : Nat) (s : List Char) :
    items? fuel (gap ++ s) = items? fuel s := by
  cases fuel with
  | zero => rfl
  | succ fuel => simp only [items?, value?_gap blank]

theorem members?_gap {gap : List Char} (blank : IsGap gap) (fuel : Nat) (s : List Char) :
    members? fuel (gap ++ s) = members? fuel s := by
  cases fuel with
  | zero => rfl
  | succ fuel => simp only [members?, skipGap_append blank]

theorem value?_array {gap s : List Char} (blank : IsGap gap) (opens : Opens s) (fuel : Nat) :
    value? (fuel + 1) ('[' :: (gap ++ s)) =
      (items? fuel s).map fun (items, rest) => (.array items, rest) := by
  obtain ⟨c, rest, rfl, solid, notClosed⟩ := opens
  rw [value?, skipGap_cons (by decide)]
  simp [skipGap_append blank, skipGap_cons solid, notClosed]

theorem value?_object {gap s : List Char} (blank : IsGap gap) (fuel : Nat) :
    value? (fuel + 1) ('{' :: (gap ++ '"' :: s)) =
      (members? fuel ('"' :: s)).map fun (members, rest) => (.object members, rest) := by
  rw [value?, skipGap_cons (by decide)]
  simp [skipGap_append blank, skipGap_cons (show isGap '"' = false by decide)]

theorem Opens.append {s : List Char} (opens : Opens s) (rest : List Char) : Opens (s ++ rest) := by
  obtain ⟨c, more, rfl, solid, notClosed⟩ := opens
  exact ⟨c, more ++ rest, rfl, solid, notClosed⟩

theorem exists_renderItems (style : Style) (level : Nat) (item : Json) (items : List Json) :
    ∃ text, renderItems style level (item :: items) = style.before level ++ text ∧ Opens text := by
  have opens := opens_render style level item
  cases items with
  | nil => exact ⟨_, rfl, opens⟩
  | cons second items => exact ⟨_, List.append_assoc _ _ _, opens.append _⟩

theorem exists_renderMembers (style : Style) (level : Nat) (member : Option String × Json)
    (members : List (Option String × Json)) :
    ∃ text, renderMembers style level (member :: members) = style.before level ++ '"' :: text := by
  obtain ⟨name, value⟩ := member
  obtain ⟨inner, shape, -⟩ := string?_literal name []
  rw [List.append_nil] at shape
  cases members with
  | nil => exact ⟨_, by rw [renderMembers, shape, List.append_assoc]; rfl⟩
  | cons second members => exact ⟨_, by rw [renderMembers, shape, List.append_assoc]; rfl; simp⟩

theorem members?_literal {gap : List Char} (blank : IsGap gap) (name : Option String) (fuel : Nat)
    (s : List Char) :
    members? (fuel + 1) (literal name ++ ':' :: (gap ++ s)) =
      (value? fuel s).bind fun (value, rest) =>
        match skipGap rest with
        | '}' :: rest => some ([(name, value)], rest)
        | ',' :: rest =>
          (members? fuel rest).bind fun (members, rest) => some ((name, value) :: members, rest)
        | _ => none := by
  obtain ⟨inner, shape, read⟩ := string?_literal name (':' :: (gap ++ s))
  rw [shape, members?, skipGap_cons (by decide)]
  simp only [read, Option.bind_eq_bind, Option.bind_some,
    skipGap_cons (show isGap ':' = false by decide), value?_gap blank]
  rfl

mutual

-- The recursion is that of the printer. Each level of it writes a character at least, so a step of
-- fuel for every character is enough.
theorem value?_render {style : Style} (spaced : style.Spaced) :
    ∀ (j : Json) (level fuel : Nat) {rest : List Char}, (render style level j).length ≤ fuel →
      Follows rest → value? fuel (render style level j ++ rest) = some (j, rest)
  | .null, _, fuel + 1, rest, _, _ => by simp [render, value?, skipGap, isGap, scalar?]
  | .bool true, _, fuel + 1, rest, _, _ => by simp [render, value?, skipGap, isGap, scalar?]
  | .bool false, _, fuel + 1, rest, _, _ => by simp [render, value?, skipGap, isGap, scalar?]
  | .number n, _, fuel + 1, rest, _, ended => value?_number n fuel ended
  | .string text, _, fuel + 1, rest, _, _ => value?_string text fuel rest
  | .array [], _, fuel + 1, rest, _, _ => by simp [render, value?, skipGap, isGap]
  | .array (item :: items), level, fuel + 1, rest, enough, _ => by
    obtain ⟨text, shape, opens⟩ := exists_renderItems style (level + 1) item items
    have read := items?_renderItems spaced item items (level + 1) fuel (spaced.before level) rest
      (by simp [render] at enough; omega)
    rw [shape, List.append_assoc, items?_gap (spaced.before _)] at read
    have begun := value?_array (spaced.before (level + 1))
      (opens.append (style.before level ++ ']' :: rest)) fuel
    rw [read] at begun
    simpa [render, shape] using begun
  | .object [], _, fuel + 1, rest, _, _ => by simp [render, value?, skipGap, isGap]
  | .object (member :: members), level, fuel + 1, rest, enough, _ => by
    obtain ⟨text, shape⟩ := exists_renderMembers style (level + 1) member members
    have read := members?_renderMembers spaced member members (level + 1) fuel
      (spaced.before level) rest (by simp [render] at enough; omega)
    rw [shape, List.append_assoc, members?_gap (spaced.before _)] at read
    have begun := value?_object (s := text ++ (style.before level ++ '}' :: rest))
      (spaced.before (level + 1)) fuel
    rw [List.cons_append] at read
    rw [read] at begun
    simpa [render, shape] using begun
  | j, level, 0, rest, enough, _ => by
    obtain ⟨c, more, shape, -⟩ := opens_render style level j
    simp [shape] at enough

theorem items?_renderItems {style : Style} (spaced : style.Spaced) :
    ∀ (item : Json) (items : List Json) (level fuel : Nat) {gap : List Char} (_ : IsGap gap)
      (rest : List Char), (renderItems style level (item :: items)).length + 1 ≤ fuel →
      items? fuel (renderItems style level (item :: items) ++ (gap ++ ']' :: rest)) =
        some (item :: items, rest)
  | item, [], level, fuel + 1, gap, blank, rest, enough => by
    have follows : Follows (gap ++ ']' :: rest) := .gap blank (.cons (by decide) rest)
    have read := value?_render spaced item level fuel (by simp [renderItems] at enough; omega) follows
    rw [renderItems, List.append_assoc, items?_gap (spaced.before level), items?, read]
    simp [skipGap_append blank, skipGap_cons (show isGap ']' = false by decide)]
  | item, second :: items, level, fuel + 1, gap, blank, rest, enough => by
    have sizes : (renderItems style level (item :: second :: items)).length =
        (style.before level).length + (render style level item).length + 1 +
          (renderItems style level (second :: items)).length := by
      simp [renderItems]
      omega
    have follows : Follows (',' :: (renderItems style level (second :: items) ++
        (gap ++ ']' :: rest))) := .cons (by decide) _
    have read := value?_render spaced item level fuel (by omega) follows
    have later := items?_renderItems spaced second items level fuel blank rest (by omega)
    rw [renderItems, List.append_assoc, List.append_assoc, items?_gap (spaced.before level),
      List.cons_append, items?, read]
    · simp [skipGap_cons (show isGap ',' = false by decide), later]
    · exact nofun

theorem members?_renderMembers {style : Style} (spaced : style.Spaced) :
    ∀ (member : Option String × Json) (members : List (Option String × Json)) (level fuel : Nat)
      {gap : List Char} (_ : IsGap gap) (rest : List Char),
      (renderMembers style level (member :: members)).length + 1 ≤ fuel →
      members? fuel (renderMembers style level (member :: members) ++ (gap ++ '}' :: rest)) =
        some (member :: members, rest)
  | (name, value), [], level, fuel + 1, gap, blank, rest, enough => by
    have follows : Follows (gap ++ '}' :: rest) := .gap blank (.cons (by decide) rest)
    have read := value?_render spaced value level fuel (by simp [renderMembers] at enough; omega)
      follows
    rw [renderMembers, List.append_assoc, List.append_assoc, members?_gap (spaced.before level),
      List.cons_append, List.append_assoc, members?_literal (spaced.afterColon), read]
    simp [skipGap_append blank, skipGap_cons (show isGap '}' = false by decide)]
  | (name, value), second :: members, level, fuel + 1, gap, blank, rest, enough => by
    have sizes : (renderMembers style level ((name, value) :: second :: members)).length =
        (style.before level).length + (literal name).length + 1 + style.afterColon.length +
          (render style level value).length + 1 +
          (renderMembers style level (second :: members)).length := by
      simp [renderMembers]
      omega
    have follows : Follows (',' :: (renderMembers style level (second :: members) ++
        (gap ++ '}' :: rest))) := .cons (by decide) _
    have read := value?_render spaced value level fuel (by omega) follows
    have later := members?_renderMembers spaced second members level fuel blank rest (by omega)
    rw [renderMembers, List.append_assoc, List.append_assoc, members?_gap (spaced.before level),
      List.cons_append, List.append_assoc, List.append_assoc, List.cons_append,
      members?_literal (spaced.afterColon), read]
    · simp [skipGap_cons (show isGap ',' = false by decide), later]
    · exact nofun

end

theorem ofChars?_render {style : Style} (spaced : style.Spaced) (j : Json) :
    ofChars? (render style 0 j) = some j := by
  have follows : Follows [] := nofun
  have read := value?_render spaced j 0 (2 * (render style 0 j).length + 2) (by omega) follows
  rw [List.append_nil] at read
  rw [ofChars?, read]
  rfl

theorem ofText?_pretty (j : Json) : ofText? j.pretty = some j := by
  rw [ofText?, pretty, String.toList_ofList, ofChars?_render prettyStyle_spaced]

theorem ofText?_compact (j : Json) : ofText? j.compact = some j := by
  rw [ofText?, compact, String.toList_ofList, ofChars?_render compactStyle_spaced]

end GuidedExploration.Json
