/-
  File:      InputMask/Text/Decimal.lean
  Subject:   Natural numbers in decimal.

  Main statement: what is written reads back (`read?_write`).
-/
import InputMask.Text.Blank
namespace InputMask.Text.Decimal

/-- The digit of a number below ten. -/
def digit (n : Nat) : Char := Char.ofNat (48 + n)

/-- The number of a digit. -/
def ofDigit (c : Char) : Nat := c.toNat - 48

/-- A number without leading zeros. -/
def write (n : Nat) : Text :=
  if n < 10 then [digit n] else write (n / 10) ++ [digit (n % 10)]

/-- The number that `n` becomes when digits are written behind it. -/
def readOn (n : Nat) : Text → Option Nat
  | [] => some n
  | c :: t => if c.isDigit then readOn (10 * n + ofDigit c) t else none

/-- The number of a text of digits, at least one. -/
def read? : Text → Option Nat
  | [] => none
  | t => readOn 0 t

theorem isDigit_digit {n : Nat} (h : n < 10) : (digit n).isDigit = true := by
  have : ∀ k < 10, (digit k).isDigit = true := by decide
  exact this n h

@[simp] theorem ofDigit_digit {n : Nat} (h : n < 10) : ofDigit (digit n) = n := by
  have : ∀ k < 10, ofDigit (digit k) = k := by decide
  exact this n h

/-- A digit is not blank. -/
theorem isBlank_of_isDigit {c : Char} (h : c.isDigit = true) : isBlank c = false := by
  have hc : 48 ≤ c.toNat ∧ c.toNat ≤ 57 := by
    simp [Char.isDigit] at h
    exact h
  have hout : ¬∃ r ∈ blankRanges, r.1 ≤ c.toNat ∧ c.toNat ≤ r.2 := by
    simp [blankRanges]
    omega
  rw [← isBlank_iff] at hout
  exact Bool.eq_false_iff.mpr hout

/-- Only digits are written. -/
theorem isDigit_of_mem_write {c : Char} {n : Nat} (h : c ∈ write n) : c.isDigit = true := by
  fun_induction write n with
  | case1 n hn =>
    obtain rfl := List.mem_singleton.mp h
    exact isDigit_digit hn
  | case2 n hn ih =>
    rcases List.mem_append.mp h with h | h
    · exact ih h
    · obtain rfl := List.mem_singleton.mp h
      exact isDigit_digit (Nat.mod_lt n (by decide))

/-- Reading digits in two parts. -/
theorem readOn_append (n : Nat) (t u : Text) :
    readOn n (t ++ u) = (readOn n t).bind fun m => readOn m u := by
  induction t generalizing n with
  | nil => rfl
  | cons c t ih =>
    by_cases h : c.isDigit = true <;> simp [readOn, h, ih]

theorem readOn_write (n : Nat) : readOn 0 (write n) = some n := by
  fun_induction write n with
  | case1 n h => simp [readOn, isDigit_digit h, ofDigit_digit h]
  | case2 n h ih =>
    have hd : n % 10 < 10 := Nat.mod_lt _ (by decide)
    simp only [readOn_append, ih, Option.bind_some, readOn, isDigit_digit hd, if_true,
      ofDigit_digit hd]
    congr 1
    omega

theorem write_ne_nil (n : Nat) : write n ≠ [] := by
  unfold write
  split <;> simp

/-- A number that was written reads back. -/
theorem read?_write (n : Nat) : read? (write n) = some n := by
  unfold read?
  split
  · rename_i h; exact absurd h (write_ne_nil n)
  · exact readOn_write n

end InputMask.Text.Decimal
