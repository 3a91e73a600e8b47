import CueWatch.Text.Digit
import Mathlib.Algebra.Group.Nat.Defs
import Mathlib.Data.Nat.Init

/-!
Contract: writing and reading decimal numerals.

Owns:
- what the ASCII digits are worth, and that a written numeral is read as the number it was written
  for;
- the length of a written numeral, and the bound of what a number of digits is worth.

Does not own: how many digits a reader accepts.
-/

namespace CueWatch.Text

theorem digitValue?_digitChar : ∀ n < 10, digitValue? (digitChar n) = some n := by
  decide

theorem isDigit_digitChar {n : Nat} (small : n < 10) : isDigit (digitChar n) = true := by
  rw [isDigit, digitValue?_digitChar n small]
  rfl

theorem numeralValue_concat (digits : Text) (c : Char) :
    numeralValue (digits ++ [c]) = 10 * numeralValue digits + (digitValue? c).getD 0 := by
  rw [numeralValue, List.foldl_append]
  rfl

/-- A digit of any script is worth less than ten, and another character nothing. -/
theorem digitValue?_lt_ten (c : Char) : (digitValue? c).getD 0 < 10 := by
  rw [digitValue?]
  cases found : digitZeros.find? fun first => first ≤ c.toNat && c.toNat ≤ first + 9 with
  | none => exact Nat.zero_lt_succ 9
  | some first =>
      have bounds := List.find?_some found
      simp only [Bool.and_eq_true, decide_eq_true_eq] at bounds
      rw [Option.map_some, Option.getD_some]
      omega

theorem foldl_appendDigit_lt (start : Nat) (digits : Text) :
    digits.foldl appendDigit start < (start + 1) * 10 ^ digits.length := by
  induction digits generalizing start with
  | nil =>
      rw [List.foldl_nil, List.length_nil, Nat.pow_zero, Nat.mul_one]
      exact Nat.lt_succ_self start
  | cons c digits inductionHypothesis =>
      have next : appendDigit start c + 1 ≤ (start + 1) * 10 := by
        have digit := digitValue?_lt_ten c
        rw [appendDigit]
        omega
      calc digits.foldl appendDigit (appendDigit start c)
          < (appendDigit start c + 1) * 10 ^ digits.length := inductionHypothesis _
        _ ≤ (start + 1) * 10 * 10 ^ digits.length := Nat.mul_le_mul_right _ next
        _ = (start + 1) * 10 ^ (digits.length + 1) := by
            rw [Nat.pow_succ, Nat.mul_assoc, Nat.mul_comm 10]

/-- A text of digits is worth less than the power of ten of its length. -/
theorem numeralValue_lt (digits : Text) : numeralValue digits < 10 ^ digits.length := by
  have bound := foldl_appendDigit_lt 0 digits
  rwa [Nat.zero_add, Nat.one_mul] at bound

theorem numeralValue_decimal (n : Nat) : numeralValue (decimal n) = n := by
  fun_induction decimal n with
  | case1 n small =>
      change numeralValue ([] ++ [digitChar n]) = n
      rw [numeralValue_concat, digitValue?_digitChar n small]
      simp [numeralValue]
  | case2 n _ inductionHypothesis =>
      rw [numeralValue_concat, inductionHypothesis,
        digitValue?_digitChar (n % 10) (Nat.mod_lt n (by decide)), Option.getD_some]
      exact Nat.div_add_mod n 10

theorem isDigit_of_mem_decimal (n : Nat) : ∀ c ∈ decimal n, isDigit c = true := by
  fun_induction decimal n with
  | case1 n small =>
      intro c member
      rw [List.mem_singleton.mp member]
      exact isDigit_digitChar small
  | case2 n _ inductionHypothesis =>
      intro c member
      rcases List.mem_append.mp member with earlier | last
      · exact inductionHypothesis c earlier
      · rw [List.mem_singleton.mp last]
        exact isDigit_digitChar (Nat.mod_lt n (by decide))

theorem getLast?_decimal (n : Nat) : (decimal n).getLast? = some (digitChar (n % 10)) := by
  rw [decimal]
  split
  next small => rw [Nat.mod_eq_of_lt small, List.getLast?_singleton]
  next => rw [List.getLast?_concat]

theorem decimal_ne_nil (n : Nat) : decimal n ≠ [] := by
  fun_cases decimal n <;> simp

/-- A number below a power of ten has at most as many digits as the exponent says. -/
theorem length_decimal_le {n exponent : Nat} (positive : 0 < exponent) (below : n < 10 ^ exponent) :
    (decimal n).length ≤ exponent := by
  induction exponent, positive using Nat.le_induction generalizing n with
  | base =>
      rw [decimal, if_pos (by simpa using below)]
      exact Nat.le_refl 1
  | succ exponent _ inductionHypothesis =>
      rw [decimal]
      split
      · exact Nat.le_add_left 1 exponent
      · have shorter : n / 10 < 10 ^ exponent := by
          rw [Nat.div_lt_iff_lt_mul (by decide)]
          exact below
        rw [List.length_append, List.length_singleton]
        exact Nat.succ_le_succ (inductionHypothesis shorter)

end CueWatch.Text
