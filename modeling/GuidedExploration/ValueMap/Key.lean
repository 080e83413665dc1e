import GuidedExploration.Dict
import GuidedExploration.Text.Cut
import GuidedExploration.Text.Numeral
import GuidedExploration.Text.Quoted

/-!
Keys of a value map: a site, or a branch of a site. A key is written `loc:<site>` or
`loc:<site>:branch:<branch>`; its order is by site, then the site itself before its branches, then
by branch.
-/

set_option autoImplicit false

namespace GuidedExploration

/-- The place of a signed 64-bit integer in its order, counted from the least one. -/
def placeOf (n : Int64) : Nat := (n.toInt + 9223372036854775808).toNat

theorem placeOf_inj {a b : Int64} (same : placeOf a = placeOf b) : a = b := by
  have := a.le_toInt
  have := b.le_toInt
  unfold placeOf at same
  exact Int64.toInt_inj.1 (by omega)

structure MapKey where
  site : Int64
  branch : Option Int64
  deriving DecidableEq, Repr

namespace MapKey

open Text

def ofSite (site : Int64) : MapKey := ⟨site, none⟩

def ofBranch (site branch : Int64) : MapKey := ⟨site, some branch⟩

instance : Ranked MapKey :=
  .byKey (fun key => placeOf key.site :: (key.branch.map placeOf).toList) fun a b same => by
    obtain ⟨site, branch⟩ := a
    obtain ⟨site', branch'⟩ := b
    obtain ⟨first, rest⟩ := List.cons.inj same
    cases placeOf_inj first
    cases branch with
    | none =>
      cases branch' with
      | none => rfl
      | some _ => simp at rest
    | some _ =>
      cases branch' with
      | none => simp at rest
      | some _ =>
        cases placeOf_inj (List.cons.inj rest).1
        rfl

def chars (key : MapKey) : List Char :=
  let site := ['l', 'o', 'c', ':'] ++ integer key.site.toInt
  match key.branch with
  | none => site
  | some branch => site ++ [':', 'b', 'r', 'a', 'n', 'c', 'h', ':'] ++ integer branch.toInt

def text (key : MapKey) : String := String.ofList key.chars

/-- An id inside a key: like an id of a trace line, but a plus sign is allowed too. -/
def id? (s : List Char) : Option Int64 := (signedInteger? s).bind int64?

def ofChars? (s : List Char) : Option MapKey := do
  let rest ← ['l', 'o', 'c', ':'].isPrefixOf? s
  match cutAround [':', 'b', 'r', 'a', 'n', 'c', 'h', ':'] rest with
  | some (site, branch) =>
    let site ← id? site
    let branch ← id? branch
    return ofBranch site branch
  | none =>
    let site ← id? rest
    return ofSite site

def ofText? (s : String) : Option MapKey := ofChars? s.toList

def rejection (s : String) : String :=
  "invalid value map key " ++ String.ofList (quoted s.toList)

end MapKey

end GuidedExploration
