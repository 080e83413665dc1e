/-!
Integers in text: decimal and hexadecimal digits, naturals, and integers with a sign.
-/

set_option autoImplicit false

namespace GuidedExploration.Text

def digit? (c : Char) : Option Nat :=
  if 48 ≤ c.toNat ∧ c.toNat ≤ 57 then some (c.toNat - 48) else none

def isDigit (c : Char) : Bool := (digit? c).isSome

def hexDigit? (c : Char) : Option Nat :=
  let n := c.toNat
  if 48 ≤ n ∧ n ≤ 57 then some (n - 48)
  else if 65 ≤ n ∧ n ≤ 70 then some (n - 55)
  else if 97 ≤ n ∧ n ≤ 102 then some (n - 87)
  else none

def hexDigit (n : Nat) : Char := Char.ofNat (if n < 10 then 48 + n else 87 + n)

def naturalFrom (value : Nat) : List Char → Option Nat
  | [] => some value
  | c :: s => (digit? c).bind fun d => naturalFrom (10 * value + d) s

/-- A natural number: one or more ASCII digits, leading zeros allowed. -/
def natural? (s : List Char) : Option Nat := if s.isEmpty then none else naturalFrom 0 s

def integer? : List Char → Option Int
  | '-' :: s => (natural? s).map fun n => -(n : Int)
  | s => (natural? s).map fun n => (n : Int)

def signedInteger? : List Char → Option Int
  | '+' :: s => (natural? s).map fun n => (n : Int)
  | s => integer? s

def fitsSigned (bits : Nat) (n : Int) : Bool :=
  let limit : Int := Nat.pow 2 (bits - 1)
  decide (-limit ≤ n) && decide (n < limit)

def int64? (n : Int) : Option Int64 := if fitsSigned 64 n then some (Int64.ofInt n) else none

def digitChar (d : Nat) : Char := Char.ofNat (48 + d)

def digitsOnto : Nat → Nat → List Char → List Char
  | 0, _, tail => tail
  | fuel + 1, n, tail =>
    if n < 10 then digitChar n :: tail
    else digitsOnto fuel (n / 10) (digitChar (n % 10) :: tail)

def digits (n : Nat) : List Char := digitsOnto (n + 1) n []

def integer (n : Int) : List Char :=
  match n with
  | .ofNat m => digits m
  | .negSucc m => '-' :: digits (m + 1)

def natural (n : Nat) : String := String.ofList (digits n)

theorem digit?_digitChar {d : Nat} (h : d < 10) : digit? (digitChar d) = some d := by
  have cases : d = 0 ∨ d = 1 ∨ d = 2 ∨ d = 3 ∨ d = 4 ∨ d = 5 ∨ d = 6 ∨ d = 7 ∨ d = 8 ∨ d = 9 := by
    omega
  rcases cases with h | h | h | h | h | h | h | h | h | h <;> subst h <;> rfl

theorem naturalFrom_digitsOnto {fuel n : Nat} (h : n < fuel) (tail : List Char) :
    naturalFrom 0 (digitsOnto fuel n tail) = naturalFrom n tail := by
  induction fuel generalizing n tail with
  | zero => omega
  | succ fuel ih =>
    unfold digitsOnto
    split
    · next small => simp [naturalFrom, digit?_digitChar small]
    · next large =>
      rw [ih (by omega)]
      have small : n % 10 < 10 := Nat.mod_lt _ (by decide)
      simp only [naturalFrom, digit?_digitChar small, Option.bind_some]
      rw [Nat.div_add_mod]

theorem digitsOnto_ne_nil (fuel n : Nat) (tail : List Char) :
    digitsOnto (fuel + 1) n tail ≠ [] := by
  induction fuel generalizing n tail with
  | zero =>
    unfold digitsOnto
    split <;> simp [digitsOnto]
  | succ fuel ih =>
    unfold digitsOnto
    split
    · simp
    · exact ih _ _

@[simp] theorem natural?_digits (n : Nat) : natural? (digits n) = some n := by
  have some_digit : digits n ≠ [] := digitsOnto_ne_nil n n []
  unfold natural?
  rw [if_neg (by simpa using some_digit)]
  exact naturalFrom_digitsOnto (Nat.lt_succ_self n) []

end GuidedExploration.Text
