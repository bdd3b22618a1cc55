import Sexpr.Proofs.Numeral.Integer
import Sexpr.Proofs.Numeral.Value

/-!
Decimals are rounded correctly, and refused from the midpoint past the greatest finite number on.

What a decimal is read as depends on its sign and on the number that it writes alone, and it is
monotone in that number.
-/

namespace Sexpr.Numeral

open Reader (Options readFirst)
open Reader.Grammar (IsDigits accepts_text opening_text)

variable {numeral other : Numeral}

/-- What a decimal is rounded to. -/
def rounded? (numeral : Numeral) : Option Binary64 :=
  let places := numeral.fraction.getD []
  Binary64.ofRatio? numeral.negative (digitsValue (numeral.whole ++ places))
    (Nat.pow 10 places.length)

theorem read_text_of_isDecimal (start : Nat) (isDecimal : numeral.IsDecimal) :
    Numeral.read start numeral.text = ofRounded start numeral.rounded? := by
  have found := ofRun?_eq_some_iff.mpr ⟨isDecimal.toIsWritten, rfl⟩
  rcases numeral with ⟨negative, whole, _ | fraction⟩
  · cases isDecimal.pointed
  · simp only [Numeral.read, found]
    rfl

theorem readFirst_text_of_isDecimal (options : Options) (isDecimal : numeral.IsDecimal) :
    readFirst options (String.ofList numeral.text) =
      ⟨(ofRounded 0 numeral.rounded?).map .leaf, [], ⟨numeral.text.length, []⟩⟩ := by
  have written := isDecimal.toIsWritten
  rw [Reader.readFirst_run options (opening_text written 0) (accepts_text written),
    ← read_text_of_isDecimal 0 isDecimal]
  rfl

theorem ratio_eq (numeral : Numeral) :
    numeral.ratio = (digitsValue (numeral.whole ++ numeral.fraction.getD []) : ℚ) /
      (Nat.pow 10 (numeral.fraction.getD []).length : Nat) := by
  rw [Nat.pow_eq, Nat.cast_pow, Nat.cast_ofNat]
  rfl

theorem ratio_nonneg (numeral : Numeral) : 0 ≤ numeral.ratio := by
  rw [ratio_eq]
  positivity

theorem abs_value (numeral : Numeral) : |numeral.value| = numeral.ratio := by
  rw [value, abs_signed, abs_of_nonneg numeral.ratio_nonneg]

theorem isRounded_of_rounded? {x : Binary64} (rounded : numeral.rounded? = some x) :
    x.negative = numeral.negative ∧ x.IsRounded numeral.value := by
  rw [value, ratio_eq]
  exact Binary64.isRounded_of_ofRatio? (Nat.pow_pos (by decide)) rounded

theorem rounded?_eq_none_iff :
    numeral.rounded? = none ↔ 2 ^ 1024 - 2 ^ 970 ≤ |numeral.value| := by
  rw [abs_value, ratio_eq]
  exact Binary64.ofRatio?_eq_none_iff (Nat.pow_pos (by decide))

theorem rounded?_congr (sameSign : numeral.negative = other.negative)
    (sameValue : numeral.value = other.value) : numeral.rounded? = other.rounded? := by
  rw [value, value, sameSign] at sameValue
  have sameRatio := signed_inj sameValue
  rw [ratio_eq, ratio_eq] at sameRatio
  simp only [rounded?, sameSign]
  exact Binary64.ofRatio?_congr _ (Nat.pow_pos (by decide)) (Nat.pow_pos (by decide)) sameRatio

/-- Only zero is written with both signs. -/
theorem value_eq_zero_of_negative_ne (differs : numeral.negative ≠ other.negative)
    (same : numeral.value = other.value) : numeral.value = 0 := by
  have size := numeral.ratio_nonneg
  have otherSize := other.ratio_nonneg
  unfold value signed at same ⊢
  cases negative : numeral.negative <;> cases otherNegative : other.negative <;>
    simp only [negative, otherNegative, ne_eq, not_true_eq_false, if_true, if_false,
      Bool.false_eq_true] at differs same ⊢ <;> linarith

theorem value_le_of_rounded? {x y : Binary64} (le : numeral.value ≤ other.value)
    (rounded : numeral.rounded? = some x) (otherRounded : other.rounded? = some y) :
    x.value ≤ y.value := by
  have nearest := (isRounded_of_rounded? rounded).2
  have otherNearest := (isRounded_of_rounded? otherRounded).2
  rcases le.lt_or_eq with less | same
  · exact nearest.value_le_of_lt otherNearest less
  · by_cases sameSign : numeral.negative = other.negative
    · rw [rounded?_congr sameSign same, otherRounded] at rounded
      cases rounded
      exact le_rfl
    · have zero := value_eq_zero_of_negative_ne sameSign same
      rw [zero] at nearest
      rw [← same, zero] at otherNearest
      rw [nearest.value_eq_zero, otherNearest.value_eq_zero]

theorem ofRounded_map_leaf_eq_ok {rounded : Option Binary64} {x : Binary64}
    (outcome : (ofRounded 0 rounded).map Tree.leaf = .ok (.leaf (.float x))) :
    rounded = some x := by
  cases rounded with
  | none => cases outcome
  | some y =>
      cases outcome
      rfl

/-- What reading a decimal comes to. -/
structure DecimalOutcome (numeral : Numeral) (outcome : Except Failure Form) : Prop where
  inRange : |numeral.value| < 2 ^ 1024 - 2 ^ 970 →
    ∃ x, outcome = .ok (.leaf (.float x)) ∧ x.negative = numeral.negative ∧
      x.IsRounded numeral.value
  outOfRange : 2 ^ 1024 - 2 ^ 970 ≤ |numeral.value| → FailsAt 0 outcome

theorem decimalOutcome_rounded? (numeral : Numeral) :
    DecimalOutcome numeral ((ofRounded 0 numeral.rounded?).map .leaf) := by
  constructor
  · intro small
    have rounds := mt rounded?_eq_none_iff.mp (not_le.mpr small)
    obtain ⟨x, rounded⟩ := Option.ne_none_iff_exists'.mp rounds
    rw [rounded]
    exact ⟨x, rfl, isRounded_of_rounded? rounded⟩
  · intro large
    rw [rounded?_eq_none_iff.mpr large]
    exact ⟨_, rfl, rfl, rfl⟩

/-- A decimal is rounded to nearest, with its own sign, unless it is too large.  Another one that
writes the same number with the same sign is read as the same, and one that writes a greater
number as none that is smaller. -/
theorem readFirst_decimal_outcome (options : Options) (isDecimal : numeral.IsDecimal) :
    DecimalOutcome numeral (readFirst options (String.ofList numeral.text)).outcome ∧
    ∀ other : Numeral, other.IsDecimal →
      (numeral.negative = other.negative → numeral.value = other.value →
        (readFirst options (String.ofList numeral.text)).outcome =
          (readFirst options (String.ofList other.text)).outcome) ∧
      (numeral.value ≤ other.value → ∀ x y,
        (readFirst options (String.ofList numeral.text)).outcome = .ok (.leaf (.float x)) →
        (readFirst options (String.ofList other.text)).outcome = .ok (.leaf (.float y)) →
        x.value ≤ y.value) := by
  rw [readFirst_text_of_isDecimal options isDecimal]
  refine ⟨decimalOutcome_rounded? numeral, fun other otherIsDecimal => ?_⟩
  rw [readFirst_text_of_isDecimal options otherIsDecimal]
  constructor
  · intro sameSign sameValue
    rw [rounded?_congr sameSign sameValue]
  · intro le x y outcome otherOutcome
    exact value_le_of_rounded? le (ofRounded_map_leaf_eq_ok outcome)
      (ofRounded_map_leaf_eq_ok otherOutcome)

theorem readFirst_decimal_outcome_midpoint :
    ∃ numeral : Numeral, numeral.IsDecimal ∧ numeral.text = "-9007199254740993.00".toList ∧
      ∃ x, (readFirst ⟨1, true, {}⟩ (String.ofList numeral.text)).outcome = .ok (.leaf (.float x)) ∧
        x.negative = true ∧ x.IsRounded (-9007199254740993) := by
  have whole : IsDigits "9007199254740993".toList :=
    ⟨by decide, List.all_eq_true.mp (by decide)⟩
  have fraction : IsDigits ['0', '0'] := ⟨by decide, List.all_eq_true.mp (by decide)⟩
  have isDecimal : IsDecimal ⟨true, "9007199254740993".toList, some ['0', '0']⟩ :=
    ⟨⟨whole, fun _ places => Option.some.inj places ▸ fraction⟩, rfl⟩
  have digits : digitsValue ("9007199254740993".toList ++ ['0', '0']) = 900719925474099300 := by
    decide
  have value : value ⟨true, "9007199254740993".toList, some ['0', '0']⟩ = -9007199254740993 := by
    simp only [value, ratio, signed, Option.getD_some, digits]
    norm_num
  refine ⟨_, isDecimal, rfl, ?_⟩
  have outcome := (readFirst_decimal_outcome ⟨1, true, {}⟩ isDecimal).1.inRange
  rw [value] at outcome
  refine outcome ?_
  have top : (2 : ℚ) ^ 1024 = 2 ^ 970 * 2 ^ 54 := by rw [← pow_add]
  have positive : (1 : ℚ) ≤ 2 ^ 970 := one_le_pow₀ (by norm_num)
  rw [top]
  generalize (2 : ℚ) ^ 970 = low at positive ⊢
  norm_num
  linarith

end Sexpr.Numeral
