import GuidedExploration.Proofs.Text.Blank
import GuidedExploration.Proofs.Text.Numeral
import GuidedExploration.Proofs.Text.Utf8
import GuidedExploration.Trace.Basic
import Mathlib.Logic.Relation

/-!
What can be changed in the bytes of a trace without changing the observations in it, their order
apart: the order of its lines, lines that are not accepted, zeros in front of ids, and line ends.
-/

set_option autoImplicit false

namespace GuidedExploration

namespace Trace

open Text

/-- Two ways to write one integer, with different numbers of zeros in front of its digits. -/
inductive Padded : List Char → List Char → Prop where
  | mk {sign digits : List Char} (zeros zeros' : Nat) : sign = [] ∨ sign = ['-'] → digits ≠ [] →
      (∀ c ∈ digits, isDigit c = true) →
      Padded (sign ++ (List.replicate zeros '0' ++ digits))
        (sign ++ (List.replicate zeros' '0' ++ digits))

theorem isDigit_of_mem_zeros {zeros : Nat} {digits : List Char}
    (plain : ∀ c ∈ digits, isDigit c = true) :
    ∀ c ∈ List.replicate zeros '0' ++ digits, isDigit c = true := by
  intro c member
  rcases List.mem_append.1 member with zero | digit
  · rw [List.eq_of_mem_replicate zero]
    rfl
  · exact plain c digit

theorem Padded.symm {s s' : List Char} (padded : Padded s s') : Padded s' s := by
  cases padded with
  | mk zeros zeros' signed filled plain => exact .mk zeros' zeros signed filled plain

theorem Padded.id? {s s' : List Char} (padded : Padded s s') : id? s = id? s' := by
  cases padded with
  | mk zeros zeros' signed filled plain =>
    rcases signed with rfl | rfl
    · simp only [Trace.id?, List.nil_append, integer?_of_isDigit (isDigit_of_mem_zeros plain),
        natural?_zeros _ filled]
    · simp [Trace.id?, integer?, natural?_zeros _ filled]

theorem Padded.notMem {s s' : List Char} (padded : Padded s s') {c : Char} (unsigned : c ≠ '-')
    (other : isDigit c = false) : c ∉ s := by
  cases padded with
  | mk zeros zeros' signed filled plain =>
    intro member
    rcases List.mem_append.1 member with sign | digit
    · rcases signed with rfl | rfl
      · exact List.not_mem_nil sign
      · exact unsigned (List.mem_singleton.1 sign)
    · rw [isDigit_of_mem_zeros plain c digit] at other
      cases other

def placeText (site branch : List Char) : List Char :=
  ['l', 'o', 'c', ':'] ++ (site ++ ([':', 'b', 'r', 'a', 'n', 'c', 'h', ':'] ++ branch))

theorem location?_placeText {site : List Char} (absent : ':' ∉ site) (branch : List Char) :
    location? (placeText site branch) =
      (id? site).bind fun site => (id? branch).bind fun branch => some (site, branch) := by
  have cut := cutAround_append ['b', 'r', 'a', 'n', 'c', 'h', ':'] absent branch
  rw [location?, placeText, isPrefixOf?_append, Option.bind_eq_bind, Option.bind_some, cut]
  rfl

theorem classifyTrimmed_padded {site site' branch branch' : List Char} (sites : Padded site site')
    (branches : Padded branch branch') (rest : List Char) :
    classifyTrimmed (placeText site branch ++ '\t' :: rest) =
      classifyTrimmed (placeText site' branch' ++ '\t' :: rest) := by
  have place : location? (placeText site branch) = location? (placeText site' branch') := by
    rw [location?_placeText (sites.notMem (by decide) rfl),
      location?_placeText (sites.symm.notMem (by decide) rfl), sites.id?, branches.id?]
  have absent : ∀ {site site' branch branch' : List Char}, Padded site site' →
      Padded branch branch' → '\t' ∉ placeText site branch := by
    intro site site' branch branch' sites branches
    simp [placeText, sites.notMem (c := '\t') (by decide) rfl,
      branches.notMem (c := '\t') (by decide) rfl]
  have filled : ∀ site branch : List Char,
      (placeText site branch ++ '\t' :: rest).isEmpty = false := by
    intro site branch
    simp
  rw [classifyTrimmed, classifyTrimmed, filled, filled, cutAt_append (absent sites branches),
    cutAt_append (absent sites.symm branches.symm)]
  simp only [place]

def observed? (line : List UInt8) : Option Observation :=
  (classify (Utf8.decodeLossy line)).observation?

theorem observed?_concat (line : List UInt8) {b : UInt8} (plain : b.toNat < 0x80)
    (blank : isBlank (Char.ofNat b.toNat) = true) : observed? (line ++ [b]) = observed? line := by
  rw [observed?, Utf8.decodeLossy, Utf8.decodeFrom_concat none line plain, classify,
    trim_concat _ blank]
  rfl

theorem observed?_lineFeed (line : List UInt8) : observed? (line ++ [10]) = observed? line :=
  observed?_concat line (by decide) (by decide)

theorem observed?_carriageReturn (line : List UInt8) : observed? (line ++ [13]) = observed? line :=
  observed?_concat line (by decide) (by decide)

/-- Bytes that hold some lines. Each but the last one ends in a line feed or in a carriage return
and a line feed; the last one has no end, and may be empty. -/
inductive Holds : List UInt8 → List (List UInt8) → Prop where
  | last {line : List UInt8} : 10 ∉ line → Holds line [line]
  | lineFeed {line bytes : List UInt8} {lines : List (List UInt8)} : 10 ∉ line →
      Holds bytes lines → Holds (line ++ 10 :: bytes) (line :: lines)
  | carriageReturn {line bytes : List UInt8} {lines : List (List UInt8)} : 10 ∉ line →
      Holds bytes lines → Holds (line ++ 13 :: 10 :: bytes) (line :: lines)

theorem observations_ofBytes (bytes : List UInt8) :
    (ofBytes bytes).observations = (splitAfter 10 bytes).filterMap observed? := by
  simp only [ofBytes, ofOutcomes, List.filterMap_map]
  rfl

theorem Holds.observations {bytes : List UInt8} {lines : List (List UInt8)}
    (holds : Holds bytes lines) : (ofBytes bytes).observations = lines.filterMap observed? := by
  rw [observations_ofBytes]
  induction holds with
  | @last line absent =>
    by_cases empty : line = []
    · subst empty
      rfl
    · rw [splitAfter_of_notMem absent empty]
  | @lineFeed line bytes lines absent _ ih =>
    rw [splitAfter_append absent, List.filterMap_cons, List.filterMap_cons, observed?_lineFeed, ih]
  | @carriageReturn line bytes lines absent _ ih =>
    have absent' : 10 ∉ line ++ [13] := by simp [absent]
    have shape : line ++ 13 :: 10 :: bytes = (line ++ [13]) ++ 10 :: bytes := by simp
    rw [shape, splitAfter_append absent', List.filterMap_cons, List.filterMap_cons,
      observed?_lineFeed, observed?_carriageReturn, ih]

theorem exists_holds (bytes : List UInt8) : ∃ lines, Holds bytes lines := by
  induction bytes with
  | nil => exact ⟨[[]], .last List.not_mem_nil⟩
  | cons b bytes ih =>
    obtain ⟨lines, holds⟩ := ih
    by_cases feed : b = 10
    · subst feed
      exact ⟨[] :: lines, .lineFeed List.not_mem_nil holds⟩
    · cases holds with
      | last absent => exact ⟨_, .last (by simp [absent, Ne.symm feed])⟩
      | @lineFeed line bytes lines absent rest =>
        have longer : 10 ∉ b :: line := by simp [absent, Ne.symm feed]
        have holds := Holds.lineFeed longer rest
        exact ⟨_, holds⟩
      | @carriageReturn line bytes lines absent rest =>
        have longer : 10 ∉ b :: line := by simp [absent, Ne.symm feed]
        have holds := Holds.carriageReturn longer rest
        exact ⟨_, holds⟩

inductive Edit : List (List UInt8) → List (List UInt8) → Prop where
  | reorder {lines lines' : List (List UInt8)} : lines.Perm lines' → Edit lines lines'
  | remove {line : List UInt8} (before after : List (List UInt8)) : observed? line = none →
      Edit (before ++ line :: after) (before ++ after)
  | pad {line line' : List UInt8} {site site' branch branch' rest : List Char}
      (before after : List (List UInt8)) : Padded site site' → Padded branch branch' →
      trim (Utf8.decodeLossy line) = placeText site branch ++ '\t' :: rest →
      trim (Utf8.decodeLossy line') = placeText site' branch' ++ '\t' :: rest →
      Edit (before ++ line :: after) (before ++ line' :: after)

theorem Edit.perm {lines lines' : List (List UInt8)} (edit : Edit lines lines') :
    (lines.filterMap observed?).Perm (lines'.filterMap observed?) := by
  cases edit with
  | reorder same => exact same.filterMap observed?
  | remove before after refused => simp [refused]
  | @pad line line' site site' branch branch' rest before after sites branches text text' =>
    have same : observed? line = observed? line' := by
      rw [observed?, observed?, classify, classify, text, text',
        classifyTrimmed_padded sites branches]
    rw [List.filterMap_append, List.filterMap_append, List.filterMap_cons, List.filterMap_cons, same]

theorem perm_of_edits {lines lines' : List (List UInt8)}
    (edits : Relation.EqvGen Edit lines lines') :
    (lines.filterMap observed?).Perm (lines'.filterMap observed?) := by
  induction edits with
  | rel _ _ edit => exact edit.perm
  | refl _ => exact .refl _
  | symm _ _ _ ih => exact ih.symm
  | trans _ _ _ _ _ ih ih' => exact ih.trans ih'

end Trace

end GuidedExploration
