import Mathlib.Tactic.Ring
import Sexpr.Reader.Grammar

/-!
Digits and the numbers they write.

Zeros in front do not count: the other digits are at most `k` exactly if the number is below
10^k.
-/

namespace Sexpr

open Reader.Grammar (IsDigits)

theorem digitsValue_eq_ofDigitChars (digits : List Char) :
    digitsValue digits = Nat.ofDigitChars 10 digits 0 := rfl

theorem digitsValue_append (front back : List Char) :
    digitsValue (front ++ back) = 10 ^ back.length * digitsValue front + digitsValue back := by
  rw [digitsValue_eq_ofDigitChars, Nat.ofDigitChars_append,
    Nat.ofDigitChars_eq_ofDigitChars_zero]
  rfl

theorem digitsValue_cons (digit : Char) (digits : List Char) :
    digitsValue (digit :: digits) =
      10 ^ digits.length * (digit.toNat - 48) + digitsValue digits := by
  have split := digitsValue_append [digit] digits
  simpa [digitsValue] using split

@[simp]
theorem digitsValue_decimalDigits (n : Nat) : digitsValue (decimalDigits n) = n :=
  Nat.ofDigitChars_ten_toDigits

@[simp]
theorem digitsValue_replicate_zero (count : Nat) :
    digitsValue (List.replicate count '0') = 0 := by
  rw [digitsValue_eq_ofDigitChars, Nat.ofDigitChars_replicate_zero, Nat.mul_zero]

theorem isDigits_decimalDigits (n : Nat) : IsDigits (decimalDigits n) :=
  ⟨Nat.toDigits_ne_nil, fun _ membership =>
    Nat.isDigit_of_mem_toDigits (by decide) (by decide) membership⟩

theorem toNat_of_isDigit {digit : Char} (isDigit : digit.isDigit = true) :
    48 ≤ digit.toNat ∧ digit.toNat ≤ 57 := by
  simp only [Char.isDigit, Bool.and_eq_true, decide_eq_true_eq, UInt32.le_iff_toNat_le] at isDigit
  exact isDigit

theorem digitsValue_lt {digits : List Char} (areDigits : ∀ c ∈ digits, c.isDigit = true) :
    digitsValue digits < 10 ^ digits.length := by
  induction digits with
  | nil => exact Nat.one_pos
  | cons digit digits inductionHypothesis =>
      have rest := inductionHypothesis fun c membership =>
        areDigits c (List.mem_cons_of_mem digit membership)
      have bounds := toNat_of_isDigit (areDigits digit List.mem_cons_self)
      rw [digitsValue_cons, List.length_cons, Nat.pow_succ]
      have first : 10 ^ digits.length * (digit.toNat - 48) ≤ 10 ^ digits.length * 9 :=
        Nat.mul_le_mul_left _ (by omega)
      omega

/-- The digits that count. -/
def significant (digits : List Char) : List Char := digits.dropWhile (· == '0')

theorem digitsValue_significant (digits : List Char) :
    digitsValue (significant digits) = digitsValue digits := by
  induction digits with
  | nil => rfl
  | cons digit digits inductionHypothesis =>
      by_cases zero : digit = '0'
      · subst zero
        rw [digitsValue_cons]
        simpa [significant] using inductionHypothesis
      · simp [significant, zero]

/-- The number of digits that count is that of the number they write. -/
theorem length_significant_le_iff {digits : List Char}
    (areDigits : ∀ c ∈ digits, c.isDigit = true) (bound : Nat) :
    (significant digits).length ≤ bound ↔ digitsValue digits < 10 ^ bound := by
  induction digits with
  | nil => simp [significant, digitsValue]
  | cons digit digits inductionHypothesis =>
      have others : ∀ c ∈ digits, c.isDigit = true := fun c membership =>
        areDigits c (List.mem_cons_of_mem digit membership)
      by_cases zero : digit = '0'
      · subst zero
        rw [← digitsValue_significant]
        simp only [significant, List.dropWhile_cons_of_pos, beq_self_eq_true]
        rw [← significant, digitsValue_significant]
        exact inductionHypothesis others
      · have bounds := toNat_of_isDigit (areDigits digit List.mem_cons_self)
        have positive : 48 < digit.toNat := by
          refine Nat.lt_of_le_of_ne bounds.1 fun equality => zero ?_
          exact Char.toNat_inj.mp equality.symm
        have kept : significant (digit :: digits) = digit :: digits := by
          simp [significant, zero]
        rw [kept, digitsValue_cons]
        constructor
        · intro short
          have written := digitsValue_lt areDigits
          rw [digitsValue_cons] at written
          exact Nat.lt_of_lt_of_le written (Nat.pow_le_pow_right (by decide) short)
        · intro small
          have first : 10 ^ digits.length * 1 ≤ 10 ^ digits.length * (digit.toNat - 48) :=
            Nat.mul_le_mul_left _ (by omega)
          exact (Nat.pow_lt_pow_iff_right (by decide)).mp (show 10 ^ digits.length < 10 ^ bound by omega)

end Sexpr
