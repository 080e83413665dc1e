import GuidedExploration.Proofs.Text.ByteOrder
import GuidedExploration.Proofs.Text.SignedNumeral
import GuidedExploration.Proofs.ValueOrder

/-!
The order of a value list, told by what the values are: numbers come by their value, and one
value that is no number puts all of them in the order of their texts.
-/

set_option autoImplicit false

namespace GuidedExploration.Values

open Text

/-- A value that spells an integer of at most 128 bits, its sign included. -/
def IsNumber (value : String) (n : Int) : Prop :=
  SpellsSigned value.toList n ∧ -2 ^ 127 ≤ n ∧ n < 2 ^ 127

def Numeric (values : List String) : Prop := ∀ value ∈ values, ∃ n, IsNumber value n

def TextBefore (a b : String) : Prop := a.toUTF8.toList < b.toUTF8.toList

/-- The order of numbers; those that are equal are in the order of their texts. -/
def NumberBefore (a b : String) : Prop :=
  ∃ m n, IsNumber a m ∧ IsNumber b n ∧ (m < n ∨ m = n ∧ TextBefore a b)

def Before (values : List String) (a b : String) : Prop :=
  (Numeric values ∧ NumberBefore a b) ∨ (¬Numeric values ∧ TextBefore a b)

theorem number?_eq_some_iff {value : String} {n : Int} :
    number? value = some n ↔ IsNumber value n := by
  rw [number?, Option.bind_eq_some_iff, IsNumber, ← signedInteger?_eq_some_iff]
  constructor
  · rintro ⟨m, read, fits⟩
    split at fits
    · next inRange =>
      cases fits
      simp only [fitsSigned, Bool.and_eq_true, decide_eq_true_eq] at inRange
      exact ⟨read, inRange⟩
    · cases fits
  · rintro ⟨read, low, high⟩
    refine ⟨n, read, if_pos ?_⟩
    simp only [fitsSigned, Bool.and_eq_true, decide_eq_true_eq]
    exact ⟨low, high⟩

theorem all_isSome_iff {values : List String} :
    (values.all fun value => (number? value).isSome) = true ↔ Numeric values := by
  simp only [List.all_eq_true, Option.isSome_iff_exists, number?_eq_some_iff, Numeric]

theorem IsNumber.eq {value : String} {m n : Int} (first : IsNumber value m)
    (second : IsNumber value n) : m = n :=
  Option.some.inj ((number?_eq_some_iff.2 first).symm.trans (number?_eq_some_iff.2 second))

theorem rankNumbers_eq_lt_iff {a b : String} {m n : Int} (left : IsNumber a m)
    (right : IsNumber b n) : rankNumbers a b = .lt ↔ NumberBefore a b := by
  have compared : rankNumbers a b = .lt ↔ m < n ∨ m = n ∧ TextBefore a b := by
    simp only [rankNumbers, number?_eq_some_iff.2 left, number?_eq_some_iff.2 right]
    rw [TextBefore, ← Utf8.rank_eq_lt_iff]
    split_ifs with below above
    · simp [below]
    · simp [below, above.ne']
    · simp [show m = n by omega]
  rw [compared]
  constructor
  · intro order
    exact ⟨m, n, left, right, order⟩
  · rintro ⟨m', n', left', right', order⟩
    rwa [left.eq left', right.eq right']

theorem rankOf_eq_lt_iff {values : List String} {a b : String} (left : a ∈ values)
    (right : b ∈ values) : rankOf values a b = .lt ↔ Before values a b := by
  unfold rankOf
  split
  · next all =>
    have numeric := all_isSome_iff.1 all
    obtain ⟨m, first⟩ := numeric a left
    obtain ⟨n, second⟩ := numeric b right
    simp [Before, numeric, rankNumbers_eq_lt_iff first second]
  · next other =>
    have mixed : ¬Numeric values := fun numeric => other (all_isSome_iff.2 numeric)
    simp [Before, mixed, TextBefore, Utf8.rank_eq_lt_iff]

/-- A value list holds the values that were given, as plain ones and each as often as it was given.
They stand in the order of the values, strictly so if they are distinct, whatever the order in which
they were given. -/
theorem entries_sorted (values : List String) :
    ∃ listed : List String,
      entries values = listed.map (fun value => { kind := 0, value }) ∧ listed.Perm values ∧
        (∀ other : List String, other.Perm values → entries other = entries values) ∧
        listed.Pairwise (fun a b => Before values a b ∨ a = b) ∧
        (values.Nodup → listed.Pairwise (Before values)) := by
  have ordered : (sort values).Pairwise fun a b => Before values a b ∨ a = b := by
    obtain ⟨key, faithful, byKey⟩ := rankOf_lawful values
    refine (pairwise_sort values).imp_of_mem fun {a b} ha hb notAfter => ?_
    have inside := (sort_perm values).mem_iff.1 ha
    have inside' := (sort_perm values).mem_iff.1 hb
    cases order : rankOf values a b with
    | lt => exact .inl ((rankOf_eq_lt_iff inside inside').1 order)
    | eq =>
      rw [byKey a inside b inside'] at order
      exact .inr (faithful (Ranked.eq_of_rank order))
    | gt => exact absurd order notAfter
  refine ⟨sort values, rfl, sort_perm values, fun other same => entries_eq_of_perm same, ordered,
    fun distinct => ?_⟩
  have apart : (sort values).Pairwise (· ≠ ·) := (sort_perm values).nodup_iff.2 distinct
  exact (ordered.and apart).imp fun both => both.1.resolve_right both.2

def spellings : List String := ["10", "7", "+7", "07"]

theorem entries_sorted_spellings :
    spellings.Nodup ∧ ["07", "10", "+7", "7"].Perm spellings ∧
      entries ["07", "10", "+7", "7"] = entries spellings ∧
      entries spellings = ["+7", "07", "7", "10"].map ValueEntry.plain ∧
      ["+7", "07", "7", "10"].Pairwise (Before spellings) := by
  have distinct : spellings.Nodup := by decide
  have same : ["07", "10", "+7", "7"].Perm spellings := by decide
  have shown : entries spellings = ["+7", "07", "7", "10"].map ValueEntry.plain := by
    decide +kernel
  obtain ⟨listed, all, -, anyOrder, -, strict⟩ := entries_sorted spellings
  obtain rfl : ["+7", "07", "7", "10"] = listed :=
    (List.map_inj_right fun _ _ => congrArg ValueEntry.value).1 (shown.symm.trans all)
  exact ⟨distinct, same, anyOrder _ same, shown, strict distinct⟩

example : entries ["x", "10", "7", "07"] = ["07", "10", "7", "x"].map ValueEntry.plain := by
  decide +kernel

end GuidedExploration.Values
