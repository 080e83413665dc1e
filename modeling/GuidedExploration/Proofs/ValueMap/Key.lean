import GuidedExploration.Proofs.Text.SignedNumeral
import GuidedExploration.Proofs.Trace.Grammar
import GuidedExploration.ValueMap.Key

/-!
The texts of a key, beside the reader that cuts them at the first mark. No id holds a colon, so the
first mark is the only one. A key has many texts, as its ids have many spellings, and is written
with one of them; where a trace line says where it was observed, that is a text of a key as well.
-/

set_option autoImplicit false

namespace GuidedExploration.MapKey

open Text

def siteText (site : List Char) : List Char := ['l', 'o', 'c', ':'] ++ site

/-- The texts of a key, for some way to spell its ids. -/
inductive Names (spells : List Char → Int → Prop) : List Char → MapKey → Prop where
  | site {siteId : List Char} {site : Int64} : spells siteId site.toInt →
      Names spells (siteText siteId) (ofSite site)
  | branch {siteId branchId : List Char} {site branch : Int64} : spells siteId site.toInt →
      spells branchId branch.toInt →
      Names spells (Trace.placeText siteId branchId) (ofBranch site branch)

theorem Names.mono {spells spells' : List Char → Int → Prop}
    (weaker : ∀ s n, spells s n → spells' s n) {s : List Char} {key : MapKey}
    (names : Names spells s key) : Names spells' s key := by
  cases names with
  | site sites => exact .site (weaker _ _ sites)
  | branch sites branches => exact .branch (weaker _ _ sites) (weaker _ _ branches)

theorem id?_eq_some_iff {s : List Char} {n : Int64} : id? s = some n ↔ SpellsSigned s n.toInt := by
  rw [id?, Option.bind_eq_some_iff, ← signedInteger?_eq_some_iff]
  constructor
  · rintro ⟨i, read, fits⟩
    rwa [← int64?_eq_some_iff.1 fits]
  · intro read
    exact ⟨n.toInt, read, int64?_toInt n⟩

theorem ofChars?_eq_some_iff {s : List Char} {key : MapKey} :
    ofChars? s = some key ↔ Names SpellsSigned s key := by
  constructor
  · intro read
    simp only [ofChars?, Option.bind_eq_bind, Option.bind_eq_some_iff] at read
    obtain ⟨rest, front, read⟩ := read
    have whole := List.isPrefixOf?_eq_some_iff_append_eq.1 front
    subst whole
    split at read
    · next siteId branchId cut =>
      obtain ⟨site, sites, branch, branches, same⟩ := by
        simpa only [Option.bind_eq_some_iff] using read
      cases same
      rw [eq_of_cutAround cut]
      exact .branch (id?_eq_some_iff.1 sites) (id?_eq_some_iff.1 branches)
    · obtain ⟨site, sites, same⟩ := Option.bind_eq_some_iff.1 read
      cases same
      exact .site (id?_eq_some_iff.1 sites)
  · intro names
    cases names with
    | site sites =>
      rw [ofChars?, siteText, isPrefixOf?_append, Option.bind_eq_bind, Option.bind_some,
        cutAround_eq_none sites.colon_notMem]
      simp [id?_eq_some_iff.2 sites]
    | branch sites branches =>
      have cut := cutAround_append ['b', 'r', 'a', 'n', 'c', 'h', ':'] sites.colon_notMem
      rw [ofChars?, Trace.placeText, isPrefixOf?_append, Option.bind_eq_bind, Option.bind_some, cut]
      simp [id?_eq_some_iff.2 sites, id?_eq_some_iff.2 branches]

example : ofText? "loc:+7:branch:-03" = some (ofBranch 7 (-3)) := by decide +kernel

theorem chars_ofBranch (site branch : Int64) :
    (ofBranch site branch).chars = Trace.placeText (integer site.toInt) (integer branch.toInt) := by
  simp [chars, ofBranch, Trace.placeText]

/-- A key is written with its ids in their canonical spelling, and no other text of it is. -/
theorem names_canonical_iff {s : List Char} {key : MapKey} :
    Names (fun t n => SpellsSigned t n ∧ Canonical t) s key ↔ s = key.chars := by
  constructor
  · rintro (⟨⟨spelled, canonical⟩⟩ | ⟨⟨spelled, canonical⟩, ⟨spelled', canonical'⟩⟩)
    · rw [spelled.canonical_iff.1 canonical]
      rfl
    · rw [spelled.canonical_iff.1 canonical, spelled'.canonical_iff.1 canonical', chars_ofBranch]
  · rintro rfl
    have spelled : ∀ n : Int, SpellsSigned (integer n) n ∧ Canonical (integer n) := fun n =>
      ⟨spellsSigned_integer n, canonical_integer n⟩
    obtain ⟨site, branch⟩ := key
    cases branch with
    | none => exact .site (spelled _)
    | some branch =>
      change Names _ (ofBranch site branch).chars _
      rw [chars_ofBranch]
      exact .branch (spelled _) (spelled _)

theorem ofChars?_chars (key : MapKey) : ofChars? key.chars = some key :=
  ofChars?_eq_some_iff.2 ((names_canonical_iff.2 rfl).mono fun _ _ spelled => spelled.1)

theorem ofText?_text (key : MapKey) : ofText? key.text = some key := by
  rw [ofText?, text, String.toList_ofList, ofChars?_chars]

theorem text_injective : Function.Injective text := by
  intro key key' same
  have read := ofText?_text key
  rw [same, ofText?_text] at read
  exact (Option.some.inj read).symm

theorem ofChars?_of_location? {s : List Char} {site branch : Int64}
    (located : Trace.location? s = some (site, branch)) :
    ofChars? s = some (ofBranch site branch) := by
  obtain ⟨sites, branches⟩ := Trace.location?_eq_some_iff.1 located
  exact ofChars?_eq_some_iff.2 (.branch (.bare sites) (.bare branches))

/-- Keys and their texts: a key is read from its text, so that different keys have different ones;
a text is read as a key exactly if it is one of that key's texts, of which the one that is written
is canonical and no other; and a place in a trace is the key of its branch. -/
theorem text_codec :
    (∀ key : MapKey, ofText? key.text = some key) ∧ Function.Injective text ∧
      (∀ (s : String) (key : MapKey), ofText? s = some key ↔ Names SpellsSigned s.toList key) ∧
      (∀ (s : String) (key : MapKey),
        Names (fun t n => SpellsSigned t n ∧ Canonical t) s.toList key ↔ s = key.text) ∧
      ∀ (s : String) (site branch : Int64), Trace.location? s.toList = some (site, branch) →
        ofText? s = some (ofBranch site branch) := by
  refine ⟨ofText?_text, text_injective, fun s key => ofChars?_eq_some_iff, fun s key => ?_,
    fun s site branch => ofChars?_of_location?⟩
  rw [names_canonical_iff, text, ← String.toList_inj, String.toList_ofList]

theorem text_codec_extremes :
    let key := ofBranch (-9223372036854775808) 0
    let odd := "loc:-009223372036854775808:branch:-0"
    key.text = "loc:-9223372036854775808:branch:0" ∧ ofText? key.text = some key ∧
      Trace.location? odd.toList = some (-9223372036854775808, 0) ∧ ofText? odd = some key ∧
      odd ≠ key.text ∧ ¬Names (fun t n => SpellsSigned t n ∧ Canonical t) odd.toList key := by
  intro key odd
  obtain ⟨inverse, -, -, written, ofPlace⟩ := text_codec
  have located : Trace.location? odd.toList = some (-9223372036854775808, 0) := by decide +kernel
  have apart : odd ≠ key.text := by decide +kernel
  exact ⟨by decide +kernel, inverse key, located, ofPlace odd _ _ located, apart,
    fun names => apart ((written odd key).1 names)⟩

end GuidedExploration.MapKey
