import Mathlib.Algebra.Order.Field.Basic
import Mathlib.Algebra.Order.Ring.Rat
import Mathlib.Tactic.FieldSimp
import Sexpr.Decimal
import Sexpr.Proofs.Decimal.Digits

/-!
The positional notation of a decimal: its two parts and what they write.
-/

namespace Sexpr

open Reader.Grammar (IsDigits)

namespace Decimal

theorem isDigits_padZeros (length : Nat) {digits : List Char} (areDigits : IsDigits digits) :
    IsDigits (padZeros length digits) := by
  refine ⟨List.append_ne_nil_of_right_ne_nil _ areDigits.1, ?_⟩
  intro c membership
  rcases List.mem_append.mp membership with padding | digit
  · rw [List.eq_of_mem_replicate padding]
    rfl
  · exact areDigits.2 c digit

theorem digitsValue_padZeros (length : Nat) (digits : List Char) :
    digitsValue (padZeros length digits) = digitsValue digits := by
  rw [padZeros, digitsValue_append, digitsValue_replicate_zero, Nat.mul_zero, Nat.zero_add]

theorem le_length_padZeros (length : Nat) (digits : List Char) :
    length ≤ (padZeros length digits).length := by
  rw [padZeros, List.length_append, List.length_replicate]
  omega

/-- The last places of digits, after a point. -/
theorem exists_take_drop {digits : List Char} {places : Nat}
    (areDigits : ∀ c ∈ digits, c.isDigit = true) (long : places + 1 ≤ digits.length)
    (nonzero : places ≠ 0) :
    IsDigits (digits.take (digits.length - places)) ∧
      IsDigits (digits.drop (digits.length - places)) ∧
      (digits.drop (digits.length - places)).length = places := by
  have lastLength : (digits.drop (digits.length - places)).length = places := by
    rw [List.length_drop]
    omega
  have firstLength : (digits.take (digits.length - places)).length ≠ 0 := by
    rw [List.length_take]
    omega
  refine ⟨⟨?_, ?_⟩, ⟨?_, ?_⟩, lastLength⟩
  · exact List.ne_nil_of_length_pos (Nat.pos_of_ne_zero firstLength)
  · exact fun c membership => areDigits c (List.mem_of_mem_take membership)
  · exact List.ne_nil_of_length_pos (by omega)
  · exact fun c membership => areDigits c (List.mem_of_mem_drop membership)

/-- The number that a decimal stands for. -/
def value (d : Decimal) : ℚ := d.coefficient * 10 ^ d.exponent

theorem value_nonneg (d : Decimal) : 0 ≤ d.value :=
  mul_nonneg (Nat.cast_nonneg d.coefficient) (zpow_nonneg (by norm_num) d.exponent)

/-- Positional notation has digits on both sides of the point, and they write the number that the
decimal stands for. -/
theorem exists_positional_eq (d : Decimal) :
    ∃ whole fraction, d.positional = whole ++ '.' :: fraction ∧ IsDigits whole ∧
      IsDigits fraction ∧
      (digitsValue (whole ++ fraction) : ℚ) / 10 ^ fraction.length = d.value := by
  rcases d with ⟨coefficient, zeros | before⟩
  · have zero : IsDigits ['0'] := ⟨by simp, by simp⟩
    refine ⟨decimalDigits coefficient ++ List.replicate zeros '0', ['0'], ?_, ?_, zero, ?_⟩
    · simp [positional]
    · refine ⟨List.append_ne_nil_of_left_ne_nil (isDigits_decimalDigits coefficient).1 _, ?_⟩
      intro c membership
      rcases List.mem_append.mp membership with digit | padding
      · exact (isDigits_decimalDigits coefficient).2 c digit
      · rw [List.eq_of_mem_replicate padding]
        rfl
    · have written : digitsValue (decimalDigits coefficient ++ List.replicate zeros '0' ++ ['0']) =
          10 ^ (zeros + 1) * coefficient := by
        rw [List.append_assoc, ← List.replicate_succ', digitsValue_append, List.length_replicate,
          digitsValue_decimalDigits, digitsValue_replicate_zero, Nat.add_zero]
      rw [written, List.length_singleton, value, Int.ofNat_eq_natCast, zpow_natCast]
      push_cast
      field_simp
      ring
  · have areDigits := isDigits_padZeros (before + 2) (isDigits_decimalDigits coefficient)
    obtain ⟨whole, fraction, places⟩ := exists_take_drop areDigits.2
      (le_length_padZeros (before + 2) (decimalDigits coefficient)) (Nat.succ_ne_zero before)
    refine ⟨_, _, rfl, whole, fraction, ?_⟩
    rw [List.take_append_drop, digitsValue_padZeros, digitsValue_decimalDigits, places, value,
      zpow_negSucc, div_eq_mul_inv]

end Decimal

end Sexpr
