import Sexpr.Proofs.Binary64.Value
import Sexpr.Proofs.Reader.Printed
import Sexpr.Proofs.Text.Delimited

/-!
The rational numbers that numerals write.

A numeral may be followed by a power of ten.  Its text tells the sign and the number, and both
notations of a decimal write the decimal.
-/

namespace Sexpr

open Reader.Grammar (IsDigits accepts_text sign)

namespace Numeral

/-- The number that a numeral writes, sign aside. -/
def ratio (numeral : Numeral) : ℚ :=
  let places := numeral.fraction.getD []
  digitsValue (numeral.whole ++ places) / 10 ^ places.length

/-- The number that a numeral writes. -/
def value (numeral : Numeral) : ℚ := signed numeral.negative numeral.ratio

/-- Digits, a point and digits. -/
structure IsDecimal (numeral : Numeral) : Prop extends IsWritten numeral where
  pointed : numeral.fraction.isSome = true

/-- A text writes a number: as a numeral, or as a numeral times a power of ten. -/
inductive Writes : List Char → Bool → ℚ → Prop where
  | plain {numeral : Numeral} :
      numeral.IsWritten →
      Writes numeral.text numeral.negative numeral.value
  | scaled {numeral : Numeral} {down : Bool} {digits : List Char} :
      numeral.IsWritten →
      IsDigits digits →
      Writes (numeral.text ++ 'e' :: (if down then '-' else '+') :: digits) numeral.negative
        (numeral.value * 10 ^ signedValue down digits)

theorem exponentMark_not_mem_text {numeral : Numeral} (written : numeral.IsWritten) :
    'e' ∉ numeral.text := by
  intro membership
  cases accepts_text written 'e' membership

/-- The characters of numerals and powers of ten. -/
def isMark (c : Char) : Bool := RunKind.number.accepts c || c == 'e' || c == '+'

theorem Writes.isMark_of_mem {text : List Char} {negative : Bool} {q : ℚ}
    (writes : Writes text negative q) {c : Char} (membership : c ∈ text) : isMark c = true := by
  have inNumeral : RunKind.number.accepts c = true → isMark c = true := by
    intro accepted
    simp [isMark, accepted]
  cases writes with
  | plain written => exact inNumeral (accepts_text written c membership)
  | @scaled numeral down digits written areDigits =>
      rcases List.mem_append.mp membership with front | scale
      · exact inNumeral (accepts_text written c front)
      · simp only [List.mem_cons] at scale
        rcases scale with rfl | rfl | digit
        · rfl
        · cases down <;> rfl
        · exact inNumeral (by simp [RunKind.accepts, areDigits.2 c digit])

theorem Writes.unique {text other : List Char} {negative otherNegative : Bool} {q otherValue : ℚ}
    (writes : Writes text negative q) (otherWrites : Writes other otherNegative otherValue)
    (same : text = other) : negative = otherNegative ∧ q = otherValue := by
  cases writes with
  | plain written =>
      cases otherWrites with
      | plain otherWritten =>
          obtain rfl := written.text_inj otherWritten same
          exact ⟨rfl, rfl⟩
      | scaled otherWritten areDigits =>
          refine absurd ?_ (exponentMark_not_mem_text written)
          simp [same]
  | @scaled numeral down digits written areDigits =>
      cases otherWrites with
      | plain otherWritten =>
          refine absurd ?_ (exponentMark_not_mem_text otherWritten)
          simp [← same]
      | @scaled otherNumeral otherDown otherDigits otherWritten otherAreDigits =>
          obtain ⟨sameText, exponents⟩ := Text.append_cons_inj_of_not_mem
            (exponentMark_not_mem_text written) (exponentMark_not_mem_text otherWritten) same
          obtain rfl := written.text_inj otherWritten sameText
          obtain ⟨sameSign, rfl⟩ := List.cons.inj exponents
          have sameDown : down = otherDown := by
            cases down <;> cases otherDown <;> first | rfl | cases sameSign
          rw [sameDown]
          exact ⟨rfl, rfl⟩

end Numeral

namespace Decimal

theorem exists_numeral_positional (d : Decimal) (negative : Bool) :
    ∃ numeral : Numeral, numeral.IsDecimal ∧ numeral.negative = negative ∧
      numeral.text = sign negative ++ d.positional ∧ numeral.value = signed negative d.value := by
  obtain ⟨whole, fraction, positional, wholeDigits, fractionDigits, written⟩ :=
    d.exists_positional_eq
  refine ⟨⟨negative, whole, some fraction⟩, ⟨⟨wholeDigits, ?_⟩, rfl⟩, rfl, ?_, ?_⟩
  · rintro _ ⟨⟩
    exact fractionDigits
  · rw [positional]
    rfl
  · rw [← written]
    rfl

theorem writes_positional (d : Decimal) (negative : Bool) :
    Numeral.Writes (sign negative ++ d.positional) negative (signed negative d.value) := by
  obtain ⟨numeral, isDecimal, rfl, text, value⟩ := d.exists_numeral_positional negative
  rw [← text, ← value]
  exact .plain isDecimal.toIsWritten

/-- One digit, and the others after a point if there are any. -/
theorem exists_numeral_mantissa (d : Decimal) (negative : Bool) (exponentDigits : Nat) :
    ∃ numeral : Numeral, numeral.IsWritten ∧ numeral.negative = negative ∧
      numeral.ratio = d.coefficient / 10 ^ ((decimalDigits d.coefficient).length - 1) ∧
      sign negative ++ d.scientific exponentDigits =
        numeral.text ++ 'e' :: (if d.leadingExponent < 0 then '-' else '+') ::
          padZeros exponentDigits (decimalDigits d.leadingExponent.natAbs) := by
  obtain ⟨nonempty, areDigits⟩ := isDigits_decimalDigits d.coefficient
  have written := digitsValue_decimalDigits d.coefficient
  unfold scientific
  generalize d.leadingExponent = exponent
  generalize decimalDigits d.coefficient = digits at nonempty areDigits written
  obtain ⟨digit, more, rfl⟩ := List.exists_cons_of_ne_nil nonempty
  rw [List.forall_mem_cons] at areDigits
  have isDigit : IsDigits [digit] := ⟨by simp, by simpa using areDigits.1⟩
  cases more with
  | nil =>
      refine ⟨⟨negative, [digit], none⟩, ⟨isDigit, nofun⟩, rfl, ?_, ?_⟩
      · simp [Numeral.ratio, ← written]
      · simp [Numeral.text, Numeral.unsignedText]
  | cons next more =>
      refine ⟨⟨negative, [digit], some (next :: more)⟩, ⟨isDigit, ?_⟩, rfl, ?_, ?_⟩
      · rintro _ ⟨⟩
        exact ⟨by simp, areDigits.2⟩
      · simp [Numeral.ratio, ← written]
      · simp [Numeral.text, Numeral.unsignedText]

theorem writes_scientific (d : Decimal) (negative : Bool) (exponentDigits : Nat) :
    Numeral.Writes (sign negative ++ d.scientific exponentDigits) negative
      (signed negative d.value) := by
  obtain ⟨numeral, written, rfl, ratio, text⟩ := d.exists_numeral_mantissa negative exponentDigits
  have exponent : Numeral.signedValue (decide (d.leadingExponent < 0))
      (padZeros exponentDigits (decimalDigits d.leadingExponent.natAbs)) = d.leadingExponent := by
    have unpadded := signedValue_decimalDigits d.leadingExponent
    rw [Numeral.signedValue] at unpadded ⊢
    rwa [digitsValue_padZeros]
  have value : numeral.value * 10 ^ d.leadingExponent = signed numeral.negative d.value := by
    rw [Numeral.value, ← signed_mul, ratio, Decimal.value, leadingExponent,
      zpow_add₀ (by norm_num), zpow_natCast]
    congr 1
    field_simp
  have writes := @Numeral.Writes.scaled numeral (decide (d.leadingExponent < 0)) _ written
    (isDigits_padZeros exponentDigits (isDigits_decimalDigits d.leadingExponent.natAbs))
  rw [exponent, value] at writes
  rw [text]
  simpa using writes

/-- Both notations of a decimal write the decimal. -/
theorem writes_write (layout : Layout) (d : Decimal) (negative : Bool) :
    Numeral.Writes (sign negative ++ d.write layout) negative (signed negative d.value) := by
  unfold write
  split
  next => exact d.writes_positional negative
  next => exact d.writes_scientific negative layout.exponentDigits

end Decimal

end Sexpr
