import GuidedExploration.Proofs.Dict
import GuidedExploration.Proofs.Text.Encoding

/-!
Texts are ordered by their code points, and their encodings, byte by byte, in the same way: where
the bytes of two characters first differ, the greater character has the greater byte.
-/

set_option autoImplicit false

namespace GuidedExploration.Text

namespace Utf8

/-- Bytes that differ before either of them ends, the first ones being lower there. -/
inductive Lower : List UInt8 → List UInt8 → Prop where
  | here {x y : UInt8} {left right : List UInt8} : x < y → Lower (x :: left) (y :: right)
  | later {x : UInt8} {left right : List UInt8} : Lower left right → Lower (x :: left) (x :: right)

namespace Lower

variable {left right : List UInt8}

theorem append (lower : Lower left right) (left' right' : List UInt8) :
    Lower (left ++ left') (right ++ right') := by
  induction lower with
  | here below => exact .here below
  | later _ ih => exact .later ih

theorem behind (front : List UInt8) (lower : Lower left right) :
    Lower (front ++ left) (front ++ right) := by
  induction front with
  | nil => exact lower
  | cons x front ih => exact .later ih

theorem lt (lower : Lower left right) : left < right := by
  induction lower with
  | here below => exact .rel below
  | later _ ih => exact .cons ih

end Lower

theorem ofNat_lt_ofNat {n m : Nat} (below : n < m) (small : m < 256) :
    UInt8.ofNat n < UInt8.ofNat m := by
  rw [UInt8.lt_iff_toNat_lt, toNat_ofNat_of_lt (below.trans small), toNat_ofNat_of_lt small]
  exact below

/-! ## Sequences -/

def furtherBytes (n : Nat) : Nat :=
  if n ≤ 0x7F then 0 else if n ≤ 0x7FF then 1 else if n ≤ 0xFFFF then 2 else 3

def mark : Nat → Nat
  | 0 => 0
  | 1 => 192
  | 2 => 224
  | _ => 240

def room : Nat → Nat
  | 0 => 128
  | 1 => 32
  | 2 => 16
  | _ => 8

def firstByte (further n : Nat) : UInt8 := UInt8.ofNat (n % room further + mark further)

/-- A number in a first byte and further ones, with six bits in each of these. -/
def sequence (first : Nat → UInt8) : Nat → Nat → List UInt8
  | 0, n => [first n]
  | further + 1, n => sequence first further (n / 64) ++ [UInt8.ofNat (n % 64 + 128)]

def numberBytes (n : Nat) : List UInt8 :=
  sequence (firstByte (furtherBytes n)) (furtherBytes n) n

theorem utf8EncodeChar_eq (c : Char) : String.utf8EncodeChar c = numberBytes c.toNat := by
  have small : c.toNat ≤ 0x7F → c.toNat % 128 = c.toNat := by omega
  simp only [String.utf8EncodeChar, numberBytes, furtherBytes, Char.toNat_val]
  split_ifs with one two three
  · simp [sequence, firstByte, room, mark, small one]
  · rfl
  · simp [sequence, firstByte, room, mark, Nat.div_div_eq_div_mul]
  · simp [sequence, firstByte, room, mark, Nat.div_div_eq_div_mul]

theorem exists_sequence_eq_cons (first : Nat → UInt8) (further n : Nat) :
    ∃ rest, sequence first further n = first (n / 64 ^ further) :: rest := by
  induction further generalizing n with
  | zero => exact ⟨[], by simp [sequence]⟩
  | succ further ih =>
    obtain ⟨rest, begun⟩ := ih (n / 64)
    rw [Nat.div_div_eq_div_mul, ← Nat.pow_succ'] at begun
    exact ⟨rest ++ [UInt8.ofNat (n % 64 + 128)], by rw [sequence, begun, List.cons_append]⟩

theorem exists_numberBytes_eq_cons (n : Nat) :
    ∃ rest, numberBytes n = firstByte (furtherBytes n) (n / 64 ^ furtherBytes n) :: rest :=
  exists_sequence_eq_cons _ _ n

theorem lower_sequence {first : Nat → UInt8} {limit further n m : Nat}
    (lower : ∀ {n m : Nat}, n < m → m < limit → first n < first m) (below : n < m)
    (within : m < 64 ^ further * limit) :
    Lower (sequence first further n) (sequence first further m) := by
  induction further generalizing n m with
  | zero => exact .here (lower below (by omega))
  | succ further ih =>
    have rest : m / 64 < 64 ^ further * limit := by
      rw [Nat.pow_succ', Nat.mul_assoc] at within
      exact Nat.div_lt_of_lt_mul within
    rcases Nat.lt_or_eq_of_le (Nat.div_le_div_right below.le : n / 64 ≤ m / 64) with less | same
    · exact (ih less rest).append _ _
    · rw [sequence, sequence, same]
      exact (Lower.here (ofNat_lt_ofNat (by omega) (by omega))).behind _

theorem furtherBytes_le (n : Nat) : furtherBytes n ≤ 3 := by
  unfold furtherBytes
  split_ifs <;> omega

theorem furtherBytes_mono {n m : Nat} (below : n ≤ m) : furtherBytes n ≤ furtherBytes m := by
  unfold furtherBytes
  split_ifs <;> omega

theorem lt_of_furtherBytes {n : Nat} (within : n < 0x110000) :
    n < 64 ^ furtherBytes n * room (furtherBytes n) := by
  unfold furtherBytes
  split_ifs <;> simp only [room] <;> omega

theorem mark_add_room_le :
    ∀ further ≤ 3, mark further + room further ≤ 256 ∧
      ∀ fewer < further, mark fewer + room fewer ≤ mark further := by
  decide

theorem firstByte_lt {further n m : Nat} (inside : further ≤ 3) (below : n < m)
    (within : m < room further) : firstByte further n < firstByte further m := by
  have bound := (mark_add_room_le further inside).1
  rw [firstByte, firstByte, Nat.mod_eq_of_lt within, Nat.mod_eq_of_lt (below.trans within)]
  exact ofNat_lt_ofNat (by omega) (by omega)

theorem firstByte_lt_of_fewer {fewer further : Nat} (inside : further ≤ 3)
    (shorter : fewer < further) (n m : Nat) : firstByte fewer n < firstByte further m := by
  obtain ⟨bound, above⟩ := mark_add_room_le further inside
  have mine : n % room fewer < room fewer := Nat.mod_lt n (by unfold room; split <;> decide)
  have other : m % room further < room further := Nat.mod_lt m (by unfold room; split <;> decide)
  have apart := above fewer shorter
  exact ofNat_lt_ofNat (by omega) (by omega)

theorem lower_numberBytes {n m : Nat} (below : n < m) (within : m < 0x110000) :
    Lower (numberBytes n) (numberBytes m) := by
  have inside := furtherBytes_le m
  rcases Nat.lt_or_eq_of_le (furtherBytes_mono below.le) with shorter | same
  · obtain ⟨left, begun⟩ := exists_numberBytes_eq_cons n
    obtain ⟨right, begun'⟩ := exists_numberBytes_eq_cons m
    rw [begun, begun']
    exact .here (firstByte_lt_of_fewer inside shorter _ _)
  · rw [numberBytes, numberBytes, same]
    exact lower_sequence (firstByte_lt inside) below (lt_of_furtherBytes within)

/-! ## Texts -/

theorem toNat_lt (c : Char) : c.toNat < 0x110000 := by
  have valid : c.toNat < 0xD800 ∨ 0xDFFF < c.toNat ∧ c.toNat < 0x110000 := c.valid
  omega

theorem flatMap_utf8EncodeChar_lt {s t : List Char}
    (before : rankList (s.map Char.toNat) (t.map Char.toNat) = .lt) :
    s.flatMap String.utf8EncodeChar < t.flatMap String.utf8EncodeChar := by
  induction s generalizing t with
  | nil =>
    cases t with
    | nil => cases before
    | cons d t =>
      obtain ⟨rest, begun⟩ := exists_numberBytes_eq_cons d.toNat
      rw [List.flatMap_cons, utf8EncodeChar_eq, begun]
      exact .nil
  | cons c s ih =>
    cases t with
    | nil => cases before
    | cons d t =>
      rw [List.flatMap_cons, List.flatMap_cons]
      simp only [List.map_cons, rankList] at before
      split at before
      · next less =>
        rw [utf8EncodeChar_eq, utf8EncodeChar_eq]
        exact ((lower_numberBytes (Ranked.nat_lt_iff.1 less) (toNat_lt d)).append _ _).lt
      · cases before
      · next same =>
        rw [Char.toNat_inj.1 (Ranked.eq_of_rank same)]
        exact List.append_left_lt (ih before)

/-- The order of texts is that of their encodings. -/
theorem rank_eq_lt_iff {a b : String} :
    Ranked.rank a b = .lt ↔ a.toUTF8.toList < b.toUTF8.toList := by
  have lt : ∀ {a b : String}, Ranked.rank a b = .lt → a.toUTF8.toList < b.toUTF8.toList := by
    intro a b before
    rw [← String.ofList_toList (s := a), ← String.ofList_toList (s := b), toList_toUTF8,
      toList_toUTF8]
    exact flatMap_utf8EncodeChar_lt before
  refine ⟨lt, fun before => ?_⟩
  cases order : Ranked.rank a b with
  | lt => rfl
  | eq =>
    rw [Ranked.eq_of_rank order] at before
    exact absurd before (List.lt_irrefl _)
  | gt => exact absurd before (List.lt_asymm (lt (Ranked.gt_iff.1 order)))

end Utf8

end GuidedExploration.Text
