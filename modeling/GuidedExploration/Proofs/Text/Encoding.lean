import GuidedExploration.Proofs.Text.Utf8
import Mathlib.Tactic.SplitIfs

/-!
Text in UTF-8. A character is one byte, or a first byte and one to three bytes that add six bits
each; the reader of single bytes puts it together again, whatever follows.
-/

set_option autoImplicit false

namespace GuidedExploration.Text

namespace Utf8

/-- A byte that opens a sequence which `second` continues, with these bits of a character in it. -/
def Opens (first second missing bits : Nat) : Prop :=
  ∃ p, start first = ([], some p) ∧ p.low ≤ second ∧ second ≤ p.high ∧ p.missing = missing ∧
    p.bits = bits

theorem lowest_continues : 0x80 ≤ 0x80 := Nat.le_refl _

def Pending.further (missing bits : Nat) : Pending :=
  { missing, low := 0x80, high := 0xBF, bits, continues := lowest_continues }

section

variable {n : Nat}

theorem opens_two (above : 0x7F < n) (below : n ≤ 0x7FF) :
    Opens (n / 64 % 32 + 192) (n % 64 + 128) 1 (n / 64) := by
  rw [Opens, start, if_neg (by omega), if_pos (by omega)]
  exact ⟨_, rfl, by dsimp only; omega⟩

-- The least number of a length, the surrogates and the greatest number narrow the second byte, so
-- three and four bytes are opened in three ways each.

theorem opens_three (above : 0x7FF < n) (below : n ≤ 0xFFFF) (valid : n < 0xD800 ∨ 0xDFFF < n) :
    Opens (n / 4096 % 16 + 224) (n / 64 % 64 + 128) 2 (n / 64 / 64) := by
  rw [Opens, start, if_neg (by omega), if_neg (by omega)]
  split
  · exact ⟨_, rfl, by dsimp only; omega⟩
  · split
    · exact ⟨_, rfl, by dsimp only; omega⟩
    · rw [if_pos (by omega)]
      exact ⟨_, rfl, by dsimp only; omega⟩

theorem opens_four (above : 0xFFFF < n) (below : n < 0x110000) :
    Opens (n / 262144 % 8 + 240) (n / 4096 % 64 + 128) 3 (n / 4096 / 64) := by
  rw [Opens, start, if_neg (by omega), if_neg (by omega), if_neg (by omega), if_neg (by omega),
    if_neg (by omega)]
  split
  · exact ⟨_, rfl, by dsimp only; omega⟩
  · split
    · exact ⟨_, rfl, by dsimp only; omega⟩
    · rw [if_pos (by omega)]
      exact ⟨_, rfl, by dsimp only; omega⟩

theorem toNat_ofNat_of_lt (small : n < 256) : (UInt8.ofNat n).toNat = n := by
  rw [UInt8.toNat_ofNat']
  exact Nat.mod_eq_of_lt small

theorem decodeFrom_continued {p : Pending} (low : p.low ≤ n % 64 + 128)
    (high : n % 64 + 128 ≤ p.high) (bits : p.bits = n / 64) (bytes : List UInt8) :
    decodeFrom (some p) (UInt8.ofNat (n % 64 + 128) :: bytes) =
      if p.missing ≤ 1 then Char.ofNat n :: decodeFrom none bytes
      else decodeFrom (some (.further (p.missing - 1) n)) bytes := by
  have whole : p.bits * 64 + (n % 64 + 128 - 0x80) = n := by omega
  rw [decodeFrom_cons, toNat_ofNat_of_lt (by omega), step, if_pos ⟨low, high⟩]
  simp only [whole]
  split <;> rfl

theorem decodeFrom_further (missing : Nat) (bytes : List UInt8) :
    decodeFrom (some (.further (missing + 1) (n / 64))) (UInt8.ofNat (n % 64 + 128) :: bytes) =
      if missing = 0 then Char.ofNat n :: decodeFrom none bytes
      else decodeFrom (some (.further missing n)) bytes := by
  have low : (Pending.further (missing + 1) (n / 64)).low ≤ n % 64 + 128 := Nat.le_add_left ..
  have high : n % 64 + 128 ≤ (Pending.further (missing + 1) (n / 64)).high := by
    have six : n % 64 < 64 := Nat.mod_lt n (by decide)
    exact Nat.add_le_add_right (Nat.le_of_lt_succ six) 128
  rw [decodeFrom_continued low high rfl]
  simp [Pending.further]

theorem decodeFrom_opened {first second missing bits : Nat} (small : first < 256)
    (opens : Opens first second missing bits) (bytes : List UInt8) :
    ∃ p : Pending, decodeFrom none (UInt8.ofNat first :: bytes) = decodeFrom (some p) bytes ∧
      p.low ≤ second ∧ second ≤ p.high ∧ p.missing = missing ∧ p.bits = bits := by
  obtain ⟨p, started, rest⟩ := opens
  refine ⟨p, ?_, rest⟩
  rw [decodeFrom_cons, toNat_ofNat_of_lt small, step, started]
  rfl

theorem decodeFrom_two (above : 0x7F < n) (below : n ≤ 0x7FF) (bytes : List UInt8) :
    decodeFrom none (UInt8.ofNat (n / 64 % 32 + 192) :: UInt8.ofNat (n % 64 + 128) :: bytes) =
      Char.ofNat n :: decodeFrom none bytes := by
  obtain ⟨p, opened, low, high, missing, bits⟩ :=
    decodeFrom_opened (by omega) (opens_two above below) (UInt8.ofNat (n % 64 + 128) :: bytes)
  rw [opened, decodeFrom_continued low high bits, if_pos (Nat.le_of_eq missing)]

theorem decodeFrom_three (above : 0x7FF < n) (below : n ≤ 0xFFFF)
    (valid : n < 0xD800 ∨ 0xDFFF < n) (bytes : List UInt8) :
    decodeFrom none (UInt8.ofNat (n / 4096 % 16 + 224) :: UInt8.ofNat (n / 64 % 64 + 128) ::
        UInt8.ofNat (n % 64 + 128) :: bytes) =
      Char.ofNat n :: decodeFrom none bytes := by
  obtain ⟨p, opened, low, high, missing, bits⟩ :=
    decodeFrom_opened (by omega) (opens_three above below valid)
      (UInt8.ofNat (n / 64 % 64 + 128) :: UInt8.ofNat (n % 64 + 128) :: bytes)
  rw [opened, decodeFrom_continued low high bits, missing, if_neg (by decide),
    decodeFrom_further 0, if_pos rfl]

theorem decodeFrom_four (above : 0xFFFF < n) (below : n < 0x110000) (bytes : List UInt8) :
    decodeFrom none (UInt8.ofNat (n / 262144 % 8 + 240) :: UInt8.ofNat (n / 4096 % 64 + 128) ::
        UInt8.ofNat (n / 64 % 64 + 128) :: UInt8.ofNat (n % 64 + 128) :: bytes) =
      Char.ofNat n :: decodeFrom none bytes := by
  obtain ⟨p, opened, low, high, missing, bits⟩ :=
    decodeFrom_opened (by omega) (opens_four above below)
      (UInt8.ofNat (n / 4096 % 64 + 128) :: UInt8.ofNat (n / 64 % 64 + 128) ::
        UInt8.ofNat (n % 64 + 128) :: bytes)
  have twelve : n / 4096 = n / 64 / 64 := by omega
  rw [opened, decodeFrom_continued low high bits, missing, if_neg (by decide), twelve,
    decodeFrom_further 1, if_neg (by decide), decodeFrom_further 0, if_pos rfl]

end

theorem decodeFrom_char (c : Char) (bytes : List UInt8) :
    decodeFrom none (String.utf8EncodeChar c ++ bytes) = c :: decodeFrom none bytes := by
  have again : Char.ofNat c.val.toNat = c := Char.ofNat_toNat c
  have valid : c.val.toNat < 0xD800 ∨ 0xDFFF < c.val.toNat ∧ c.val.toNat < 0x110000 := c.valid
  unfold String.utf8EncodeChar
  dsimp only
  split_ifs with one two three
  · have value : (UInt8.ofNat c.val.toNat).toNat = c.val.toNat := toNat_ofNat_of_lt (by omega)
    rw [List.cons_append, decodeFrom_plain none (by omega), value, again]
    rfl
  · exact (decodeFrom_two (by omega) two bytes).trans (by rw [again])
  · exact (decodeFrom_three (by omega) three (by omega) bytes).trans (by rw [again])
  · exact (decodeFrom_four (by omega) (by omega) bytes).trans (by rw [again])

theorem toList_loop (bytes : ByteArray) (i : Nat) (before : List UInt8) :
    ByteArray.toList.loop bytes i before = before.reverse ++ bytes.data.toList.drop i := by
  fun_induction ByteArray.toList.loop bytes i before with
  | case1 i before inside ih =>
    have next : bytes.data.toList.drop i = bytes.get! i :: bytes.data.toList.drop (i + 1) := by
      rw [List.drop_eq_getElem_cons (by simpa using inside)]
      simp [ByteArray.get!, inside]
    rw [ih, next, List.reverse_cons, List.append_assoc, List.singleton_append]
  | case2 i before outside =>
    rw [List.drop_eq_nil_of_le (by simpa using outside), List.append_nil]

theorem toList_toUTF8 (text : List Char) :
    (String.ofList text).toUTF8.toList = text.flatMap String.utf8EncodeChar := by
  rw [ByteArray.toList, toList_loop]
  exact List.toList_data_toByteArray

theorem decodeLossy_toUTF8 (text : List Char) :
    decodeLossy (String.ofList text).toUTF8.toList = text := by
  rw [toList_toUTF8, decodeLossy]
  induction text with
  | nil => rfl
  | cons c text ih => rw [List.flatMap_cons, decodeFrom_char, ih]

end Utf8

end GuidedExploration.Text
