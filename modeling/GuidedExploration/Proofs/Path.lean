import GuidedExploration.Path
import Mathlib.Tactic.ByContra
import Mathlib.Tactic.SplitIfs

/-!
The steps of a path behind a directory, and those of its parent.
-/

set_option autoImplicit false

namespace GuidedExploration

namespace Text

theorem splitAt_ne_nil (mark : Char) (s : List Char) : splitAt mark s ≠ [] := by
  cases s with
  | nil => simp [splitAt]
  | cons c s =>
    unfold splitAt
    split
    · simp
    · split <;> simp

theorem splitAt_append (mark : Char) (s t : List Char) :
    splitAt mark (s ++ mark :: t) = splitAt mark s ++ splitAt mark t := by
  induction s with
  | nil => simp [splitAt]
  | cons c s ih =>
    by_cases same : c = mark
    · simp [splitAt, same, ih]
    · obtain ⟨piece, pieces, cut⟩ := List.exists_cons_of_ne_nil (splitAt_ne_nil mark s)
      simp [splitAt, same, ih, cut]

theorem splitAt_append_of_notMem {mark : Char} {s : List Char} (absent : mark ∉ s) {t piece : List Char}
    {pieces : List (List Char)} (cut : splitAt mark t = piece :: pieces) :
    splitAt mark (s ++ t) = (s ++ piece) :: pieces := by
  induction s with
  | nil => exact cut
  | cons c s ih =>
    rw [List.mem_cons, not_or] at absent
    simp [splitAt, Ne.symm absent.1, ih absent.2]

theorem splitAt_eq_singleton {mark : Char} {s : List Char} (absent : mark ∉ s) :
    splitAt mark s = [s] := by
  have cut := splitAt_append_of_notMem absent (t := []) rfl
  simpa using cut

theorem notMem_of_mem_splitAt {mark : Char} {s piece : List Char} (member : piece ∈ splitAt mark s) :
    mark ∉ piece := by
  induction s generalizing piece with
  | nil => simp_all [splitAt]
  | cons c s ih =>
    obtain ⟨first, rest, cut⟩ := List.exists_cons_of_ne_nil (splitAt_ne_nil mark s)
    rw [cut] at ih
    unfold splitAt at member
    split_ifs at member with same
    · rcases List.mem_cons.1 member with rfl | later
      · exact List.not_mem_nil
      · exact ih (cut ▸ later)
    · simp only [cut] at member
      rcases List.mem_cons.1 member with rfl | later
      · rw [List.mem_cons, not_or]
        exact ⟨Ne.symm same, ih List.mem_cons_self⟩
      · exact ih (List.mem_cons_of_mem _ later)

theorem splitAt_joinWith {mark : Char} {pieces : List (List Char)} (some_piece : pieces ≠ [])
    (absent : ∀ piece ∈ pieces, mark ∉ piece) : splitAt mark (joinWith [mark] pieces) = pieces := by
  induction pieces with
  | nil => exact absurd rfl some_piece
  | cons piece rest ih =>
    have first := splitAt_eq_singleton (absent piece List.mem_cons_self)
    cases rest with
    | nil => exact first
    | cons next rest =>
      have later := ih (List.cons_ne_nil _ _) fun piece member =>
        absent piece (List.mem_cons_of_mem _ member)
      have shape : joinWith [mark] (piece :: next :: rest) =
          piece ++ mark :: joinWith [mark] (next :: rest) := by simp [joinWith]
      rw [shape, splitAt_append, first, later]
      rfl

theorem joinWith_cons (mark s : List Char) {rest : List (List Char)} (behind : rest ≠ []) :
    joinWith mark (s :: rest) = s ++ mark ++ joinWith mark rest := by
  cases rest with
  | nil => exact absurd rfl behind
  | cons => rfl

theorem joinWith_append {mark : List Char} {left right : List (List Char)} (before : left ≠ [])
    (behind : right ≠ []) :
    joinWith mark (left ++ right) = joinWith mark left ++ mark ++ joinWith mark right := by
  induction left with
  | nil => exact absurd rfl before
  | cons piece left ih =>
    rw [List.cons_append, joinWith_cons mark piece (by simp [behind])]
    by_cases last : left = []
    · subst last
      rfl
    · rw [ih last, joinWith_cons mark piece last]
      simp only [List.append_assoc]

theorem joinWith_splitAt (mark : Char) (s : List Char) : joinWith [mark] (splitAt mark s) = s := by
  induction s with
  | nil => rfl
  | cons c s ih =>
    obtain ⟨piece, pieces, cut⟩ := List.exists_cons_of_ne_nil (splitAt_ne_nil mark s)
    rw [cut] at ih
    by_cases same : c = mark
    · simp [splitAt, same, cut, joinWith, ih]
    · have shape : splitAt mark (c :: s) = (c :: piece) :: pieces := by
        simp [splitAt, same, cut]
      rw [shape, ← ih]
      cases pieces <;> rfl

end Text

namespace Path

def IsName (name : String) : Prop := name.toList ≠ [] ∧ '/' ∉ name.toList

theorem isAbsolute_ofName {name : String} (proper : IsName name) :
    (Path.mk name).isAbsolute = false := by
  obtain ⟨c, s, shape⟩ := List.exists_cons_of_ne_nil proper.1
  have first : c ≠ '/' := fun same => proper.2 (by simp [shape, same])
  simp [isAbsolute, chars, shape, first]

theorem chars_ofChars (s : List Char) : (ofChars s).chars = s := by simp [ofChars, chars]

/-- A relative path behind a directory as it is written: a slash is put between them unless one is
there. -/
theorem join_cases (p : Path) {q : Path} (relative : q.isAbsolute = false) :
    (p.chars = [] ∧ (p.join q).chars = q.chars) ∨
      (∃ s, p.chars = s ++ ['/'] ∧ (p.join q).chars = s ++ '/' :: q.chars) ∨
      (p.chars ≠ [] ∧ (p.join q).chars = p.chars ++ '/' :: q.chars) := by
  by_cases empty : p.chars = []
  · have same : p.join q = q := by simp [join, isEmpty, empty]
    exact .inl ⟨empty, by rw [same]⟩
  by_cases slash : p.chars.getLast? = some '/'
  · obtain ⟨s, shape⟩ := List.getLast?_eq_some_iff.1 slash
    refine .inr (.inl ⟨s, shape, ?_⟩)
    simp [join, relative, isEmpty, endsInSlash, shape, chars_ofChars]
  · refine .inr (.inr ⟨empty, ?_⟩)
    simp [join, relative, isEmpty, endsInSlash, empty, slash, chars_ofChars]

theorem steps_join (p : Path) {q : Path} (relative : q.isAbsolute = false) :
    (p.join q).steps = p.steps ++ q.steps := by
  rcases p.join_cases relative with ⟨empty, joined⟩ | ⟨s, slash, joined⟩ | ⟨_, joined⟩
  · simp [steps, pieces, joined, empty, Text.splitAt]
  · simp [steps, pieces, joined, slash, Text.splitAt_append, Text.splitAt]
  · simp [steps, pieces, joined, Text.splitAt_append]

theorem isAbsolute_join (p : Path) {q : Path} (relative : q.isAbsolute = false) :
    (p.join q).isAbsolute = p.isAbsolute := by
  rcases p.join_cases relative with ⟨empty, joined⟩ | ⟨s, slash, joined⟩ | ⟨filled, joined⟩
  · simpa [isAbsolute, joined, empty] using relative
  · cases s <;> simp [isAbsolute, joined, slash]
  · simp [isAbsolute, joined, List.head?_append, List.head?_eq_some_head filled]

theorem steps_ofName {name : String} (proper : IsName name) : (Path.mk name).steps = [name] := by
  simp [steps, pieces, chars, Text.splitAt_eq_singleton proper.2, proper.1]

theorem steps_child (p : Path) {name : String} (proper : IsName name) :
    (p.child name).steps = p.steps ++ [name] := by
  rw [child, steps_join p (isAbsolute_ofName proper), steps_ofName proper]

theorem isEmpty_child (p : Path) {name : String} (proper : IsName name) :
    (p.child name).isEmpty = false := by
  rw [Bool.eq_false_iff]
  intro empty
  have steps := p.steps_child proper
  simp [Path.steps, pieces, List.isEmpty_iff.1 empty, Text.splitAt] at steps

theorem isAbsolute_child (p : Path) {name : String} (proper : IsName name) :
    (p.child name).isAbsolute = p.isAbsolute :=
  isAbsolute_join p (isAbsolute_ofName proper)

theorem steps_ne_nil {p : Path} (filled : p.isEmpty = false) (relative : p.isAbsolute = false) :
    p.steps ≠ [] := by
  cases written : p.chars with
  | nil => simp [isEmpty, written] at filled
  | cons c s =>
    have first : c ≠ '/' := by
      rintro rfl
      simp [isAbsolute, written] at relative
    obtain ⟨piece, pieces, cut⟩ := List.exists_cons_of_ne_nil (Text.splitAt_ne_nil '/' s)
    simp [steps, Path.pieces, written, Text.splitAt, first, cut]

/-! ## The parent -/

theorem isAbsolute_iff (p : Path) :
    p.isAbsolute = true ↔ ∃ rest, rest ≠ [] ∧ p.pieces = [] :: rest := by
  unfold isAbsolute pieces
  cases p.chars with
  | nil => simp [Text.splitAt]
  | cons c s =>
    obtain ⟨first, rest, cut⟩ := List.exists_cons_of_ne_nil (Text.splitAt_ne_nil '/' s)
    by_cases slash : c = '/'
    · simp [Text.splitAt, slash, cut]
    · simp [Text.splitAt, slash, cut]

theorem exists_dropTail (pieces : List (List Char)) :
    ∃ dropped, pieces = dropped ++ dropTail pieces ∧
      ∀ piece ∈ dropped, piece = [] ∨ piece = ['.'] := by
  induction pieces with
  | nil => exact ⟨[], by simp [dropTail]⟩
  | cons piece rest ih =>
    unfold dropTail
    split_ifs with component
    · exact ⟨[], rfl, by simp⟩
    · obtain ⟨dropped, shape, dots⟩ := ih
      refine ⟨piece :: dropped, by rw [List.cons_append, ← shape], ?_⟩
      intro other member
      rcases List.mem_cons.1 member with rfl | member
      · by_contra kept
        rw [not_or] at kept
        exact component (by simp [isComponent, kept.1, kept.2])
      · exact dots other member

theorem isComponent_of_dropTail {pieces rest : List (List Char)} {piece : List Char}
    (shape : dropTail pieces = piece :: rest) : isComponent rest.isEmpty piece = true := by
  induction pieces with
  | nil => cases shape
  | cons first pieces ih =>
    unfold dropTail at shape
    split_ifs at shape with component
    · cases shape
      exact component
    · exact ih shape

theorem dropTail_dropTail (pieces : List (List Char)) :
    dropTail (dropTail pieces) = dropTail pieces := by
  cases shape : dropTail pieces with
  | nil => rfl
  | cons piece rest => rw [dropTail, if_pos (isComponent_of_dropTail shape)]

theorem ne_nil_of_isComponent {first : Bool} {piece : List Char}
    (component : isComponent first piece = true) : piece ≠ [] := by
  rintro rfl
  cases component

theorem pieces_of_parent? {p parent : Path} (found : p.parent? = some parent) :
    ∃ left dots component dots', p.pieces = left ++ dots ++ component :: dots' ∧
      (∀ piece ∈ dots ++ dots', piece = [] ∨ piece = ['.']) ∧ component ≠ [] ∧
      dropTail left.reverse = left.reverse ∧
      parent = if left = [] then (if p.isAbsolute then ⟨"/"⟩ else ⟨""⟩)
        else ofChars (Text.joinWith ['/'] left) := by
  obtain ⟨dots', shape, plain'⟩ := exists_dropTail p.pieces.reverse
  unfold parent? at found
  cases tail : dropTail p.pieces.reverse with
  | nil => simp [tail] at found
  | cons component rest =>
    obtain ⟨dots, shape', plain⟩ := exists_dropTail rest
    refine ⟨(dropTail rest).reverse, dots.reverse, component, dots'.reverse, ?_, ?_, ?_, ?_, ?_⟩
    · rw [tail, shape'] at shape
      simpa using congrArg List.reverse shape
    · intro piece member
      rcases List.mem_append.1 member with member | member
      · exact plain piece (List.mem_reverse.1 member)
      · exact plain' piece (List.mem_reverse.1 member)
    · exact ne_nil_of_isComponent (isComponent_of_dropTail tail)
    · rw [List.reverse_reverse, dropTail_dropTail]
    · simp only [tail] at found
      split_ifs at found with empty rooted
      · simpa [List.isEmpty_iff.1 empty, rooted] using (Option.some.inj found).symm
      · simpa [List.isEmpty_iff.1 empty, rooted] using (Option.some.inj found).symm
      · rw [if_neg (by simpa using empty)]
        exact (Option.some.inj found).symm

theorem pieces_ofChars_joinWith (p : Path) {left : List (List Char)} (some_piece : left ≠ [])
    (pieces_of : ∀ piece ∈ left, piece ∈ p.pieces) :
    (ofChars (Text.joinWith ['/'] left)).pieces = left := by
  rw [pieces, chars_ofChars]
  exact Text.splitAt_joinWith some_piece fun piece member =>
    Text.notMem_of_mem_splitAt (pieces_of piece member)

/-- The steps to a path are those to its parent, and then, but for dots, a single one. -/
theorem steps_of_parent? {p parent : Path} (found : p.parent? = some parent) :
    parent.isAbsolute = p.isAbsolute ∧
      ∃ dots name dots', p.steps = parent.steps ++ dots ++ name :: dots' ∧
        ∀ step ∈ dots ++ dots', step = "." := by
  obtain ⟨left, dots, component, dots', shape, plain, filled, kept, rfl⟩ := pieces_of_parent? found
  have rest : ∃ dots₁ name dots₂, p.steps = ((left.filter fun piece => !piece.isEmpty).map
      String.ofList) ++ dots₁ ++ name :: dots₂ ∧ ∀ step ∈ dots₁ ++ dots₂, step = "." := by
    refine ⟨(dots.filter fun piece => !piece.isEmpty).map String.ofList, String.ofList component,
      (dots'.filter fun piece => !piece.isEmpty).map String.ofList, by simp [steps, shape, filled], ?_⟩
    rw [← List.map_append, ← List.filter_append]
    intro step member
    obtain ⟨piece, kept, rfl⟩ := List.mem_map.1 member
    obtain ⟨inside, some_char⟩ := List.mem_filter.1 kept
    rcases plain piece inside with rfl | rfl
    · simp at some_char
    · rfl
  by_cases none_left : left = []
  · subst none_left
    by_cases rooted : p.isAbsolute = true
    · rw [if_pos rfl, if_pos rooted, rooted]
      exact ⟨rfl, rest⟩
    · rw [if_pos rfl, if_neg rooted, Bool.not_eq_true _ |>.mp rooted]
      exact ⟨rfl, rest⟩
  · have own : (ofChars (Text.joinWith ['/'] left)).pieces = left :=
      pieces_ofChars_joinWith p none_left fun piece member => by simp [shape, member]
    rw [if_neg none_left]
    refine ⟨?_, ?_⟩
    · obtain ⟨first, left, rfl⟩ := List.exists_cons_of_ne_nil none_left
      rw [Bool.eq_iff_iff, isAbsolute_iff, isAbsolute_iff, own, shape]
      cases left with
      | nil => simp [ne_nil_of_isComponent (isComponent_of_dropTail kept)]
      | cons second left => simp
    · have kept : (ofChars (Text.joinWith ['/'] left)).steps =
          (left.filter fun piece => !piece.isEmpty).map String.ofList := by rw [steps, own]
      rwa [kept]

theorem chars_of_parent? {p parent : Path} (found : p.parent? = some parent) :
    ∃ rest, rest ≠ [] ∧ p.chars = parent.chars ++ rest := by
  obtain ⟨left, dots, component, dots', shape, -, filled, -, rfl⟩ := pieces_of_parent? found
  have whole : p.chars = Text.joinWith ['/'] p.pieces := (Text.joinWith_splitAt '/' p.chars).symm
  have inside : component ∈ p.pieces := by simp [shape]
  split_ifs with none_left rooted
  · obtain ⟨rest, begun⟩ := List.head?_eq_some_iff.1 (beq_iff_eq.1 rooted)
    refine ⟨rest, ?_, begun⟩
    -- A lone slash has no component on either side.
    rintro rfl
    rw [pieces, begun] at inside
    simp [Text.splitAt, filled] at inside
  · refine ⟨p.chars, ?_, rfl⟩
    intro nothing
    rw [pieces, nothing] at inside
    simp [Text.splitAt, filled] at inside
  · refine ⟨'/' :: Text.joinWith ['/'] (dots ++ component :: dots'), by simp, ?_⟩
    rw [whole, shape, List.append_assoc, Text.joinWith_append none_left (by simp), chars_ofChars,
      List.append_assoc]
    rfl

theorem steps_of_parent?_eq_none {p : Path} (orphan : p.parent? = none) :
    ∀ step ∈ p.steps, step = "." := by
  obtain ⟨dropped, shape, plain⟩ := exists_dropTail p.pieces.reverse
  have nothing : dropTail p.pieces.reverse = [] := by
    unfold parent? at orphan
    split at orphan
    · assumption
    · dsimp only at orphan
      split_ifs at orphan
  rw [nothing, List.append_nil] at shape
  intro step member
  obtain ⟨piece, kept, rfl⟩ := List.mem_map.1 member
  obtain ⟨inside, some_char⟩ := List.mem_filter.1 kept
  rcases plain piece (shape ▸ List.mem_reverse.2 inside) with rfl | rfl
  · simp at some_char
  · rfl

theorem isEmpty_of_parent? {p parent : Path} (found : p.parent? = some parent) :
    p.isEmpty = false := by
  obtain ⟨rest, more, written⟩ := chars_of_parent? found
  simp [isEmpty, written, more]

theorem length_of_parent? {p parent : Path} (found : p.parent? = some parent) :
    parent.chars.length < p.chars.length := by
  obtain ⟨rest, more, written⟩ := chars_of_parent? found
  simpa [written] using List.length_pos_iff.2 more

theorem properParent?_iff {p parent : Path} :
    p.properParent? = some parent ↔ p.parent? = some parent ∧ parent.isEmpty = false := by
  rw [properParent?, Option.filter_eq_some_iff]
  simp

theorem notMem_steps_of_parent? {p parent : Path} (found : p.parent? = some parent) {step : String}
    (absent : step ∉ p.steps) : step ∉ parent.steps := by
  obtain ⟨-, dots, name, dots', steps, -⟩ := steps_of_parent? found
  intro member
  exact absent (by simp [steps, member])

theorem exists_last_step {p parent : Path} (found : p.parent? = some parent)
    (ends : p.steps.getLast? ≠ some ".") :
    ∃ dots name, p.steps = parent.steps ++ (dots ++ [name]) ∧ (∀ step ∈ dots, step = ".") ∧
      name ≠ "." := by
  obtain ⟨-, dots, name, dots', steps, plain⟩ := steps_of_parent? found
  rcases List.eq_nil_or_concat dots' with rfl | ⟨rest, last, rfl⟩
  · refine ⟨dots, name, by rw [steps, List.append_assoc], fun step member => plain step ?_, ?_⟩
    · exact List.mem_append_left _ member
    rintro rfl
    exact ends (by simp [steps])
  · have dot := plain last (by simp)
    exact absurd (by simp [steps, dot, List.getLast?_cons]) ends

def Trimmed (p : Path) : Prop := p = ⟨"/"⟩ ∨ dropTail p.pieces.reverse = p.pieces.reverse

theorem trimmed_here : Trimmed .here := .inr rfl

theorem trimmed_of_parent? {p parent : Path} (found : p.parent? = some parent)
    (filled : parent.isEmpty = false) : parent.Trimmed := by
  obtain ⟨left, dots, component, dots', shape, -, -, kept, rfl⟩ := pieces_of_parent? found
  split_ifs at filled ⊢ with none_left rooted
  · exact .inl rfl
  · cases filled
  · right
    rw [pieces_ofChars_joinWith p none_left fun piece member => by simp [shape, member]]
    exact kept

theorem Trimmed.getLast?_steps {p : Path} (trimmed : p.Trimmed) :
    p.steps.getLast? ≠ some "." ∨ p.steps = ["."] := by
  rcases trimmed with rfl | kept
  · exact .inl (by decide)
  · obtain ⟨piece, rest, shape⟩ :=
      List.exists_cons_of_ne_nil (mt List.reverse_eq_nil_iff.1 (Text.splitAt_ne_nil '/' p.chars))
    change p.pieces.reverse = piece :: rest at shape
    rw [shape] at kept
    have component := isComponent_of_dropTail kept
    have filled := ne_nil_of_isComponent component
    have own : p.pieces = rest.reverse ++ [piece] := by
      rw [← List.reverse_reverse p.pieces, shape, List.reverse_cons]
    by_cases dot : piece = ['.']
    · right
      have alone : rest = [] := by simpa [isComponent, dot] using component
      rw [steps, own, alone, dot]
      rfl
    · left
      have last : p.steps.getLast? = some (String.ofList piece) := by simp [steps, own, filled]
      rw [last]
      intro same
      exact dot (by simpa using congrArg String.toList (Option.some.inj same))

theorem Trimmed.parent?_child {p : Path} (trimmed : p.Trimmed) {name : String}
    (proper : IsName name) (notDot : name ≠ ".") : (p.child name).parent? = some p := by
  have component : ∀ first, isComponent first name.toList = true := by
    intro first
    have other : name.toList ≠ ['.'] := fun same => notDot (by rw [← String.toList_inj, same]; rfl)
    simp [isComponent, proper.1, other]
  have single : (Path.mk name).pieces = [name.toList] := Text.splitAt_eq_singleton proper.2
  have rooted := isAbsolute_child p proper
  rcases trimmed with rfl | kept
  · have written : (child ⟨"/"⟩ name).chars = '/' :: name.toList := by
      simp [child, join, isAbsolute_ofName proper, isEmpty, endsInSlash, chars, ofChars]
    have shape : (child ⟨"/"⟩ name).pieces = [[], name.toList] := by
      rw [pieces, written, ← single]
      rfl
    rw [parent?, shape]
    simp only [List.reverse_cons, List.reverse_nil, List.nil_append, List.singleton_append, dropTail,
      component, if_true, rooted]
    rfl
  · have shape : (p.child name).pieces = p.pieces ++ [name.toList] := by
      rcases p.join_cases (isAbsolute_ofName proper) with ⟨empty, -⟩ | ⟨s, slash, -⟩ | ⟨-, joined⟩
      · rw [pieces, empty] at kept
        cases kept
      · have blank : p.pieces.reverse = [] :: (Text.splitAt '/' s).reverse := by
          simp [pieces, slash, Text.splitAt_append, Text.splitAt]
        rw [blank] at kept
        cases isComponent_of_dropTail kept
      · rw [pieces, child, joined, Text.splitAt_append, ← pieces, ← pieces, single]
    have some_piece : p.pieces ≠ [] := Text.splitAt_ne_nil '/' p.chars
    rw [parent?, shape, List.reverse_append]
    simp only [List.reverse_singleton, List.singleton_append, dropTail, component, if_true, kept]
    rw [List.reverse_reverse, if_neg (by simpa using some_piece), pieces, Text.joinWith_splitAt]
    simp [ofChars, chars]

end Path

end GuidedExploration
