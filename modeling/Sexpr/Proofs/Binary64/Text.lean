import Sexpr.Proofs.Numeral.Value
import Sexpr.Proofs.Reader.Run

/-!
The texts of binary64 numbers.

Every notation of a finite number writes its shortest decimal, which is rounded to the number
again.  So a text tells its number, unless that is none, and the positional text is read as the
number that it is printed for.
-/

namespace Sexpr

open Numeral (Writes)
open Reader (Options readFirst)
open Reader.Grammar (accepts_text opening_text sign)

namespace Binary64

variable {x y : Binary64}

theorem isRounded_shortest (finite : x.isFinite = true) :
    x.IsRounded (signed x.negative x.shortest.value) :=
  isRounded_of_isNearestTo finite x.shortest.value_nonneg x.isNearestTo_shortest

theorem magnitude_eq_of_shortest (same : x.shortest.value = y.shortest.value) :
    x.magnitude = y.magnitude := by
  have nearest := x.isNearestTo_shortest
  rw [same] at nearest
  exact nearest.unique inUnits_units_strictMono y.isNearestTo_shortest

theorem writes_text (layout : Decimal.Layout) (finite : x.isFinite = true) :
    Writes (x.text (Decimal.write layout)) x.negative (signed x.negative x.shortest.value) := by
  rw [text_of_isFinite finite]
  exact x.shortest.writes_write layout x.negative

theorem magnitude_eq_of_not_isFinite (infinite : x.isFinite = false) (numeric : x.isNaN = false) :
    x.magnitude = infinityMagnitude := by
  simp only [isFinite, isNaN, decide_eq_false_iff_not] at infinite numeric
  omega

theorem text_of_not_isFinite (infinite : x.isFinite = false) (numeric : x.isNaN = false)
    (style : Decimal → List Char) : x.text style = sign x.negative ++ ['i', 'n', 'f'] := by
  rw [text, infinite, numeric]
  cases x.negative <;> rfl

theorem text_of_isNaN (notNumeric : x.isNaN = true) (style : Decimal → List Char) :
    x.text style = ['n', 'a', 'n'] := by
  rw [text, if_pos notNumeric]
  rfl

/-- The word for a number that is not finite has a letter that no numeral has. -/
theorem mem_text_iff (layout : Decimal.Layout) :
    'n' ∈ x.text (Decimal.write layout) ↔ x.isFinite = false := by
  cases finite : x.isFinite with
  | true =>
      simp only [Bool.true_eq_false, iff_false]
      intro membership
      cases (writes_text layout finite).isMark_of_mem membership
  | false =>
      simp only [iff_true]
      cases numeric : x.isNaN with
      | true => simp [text_of_isNaN numeric]
      | false => simp [text_of_not_isFinite finite numeric]

theorem parenthesis_not_mem_text (layout : Decimal.Layout) :
    ')' ∉ x.text (Decimal.write layout) := by
  intro membership
  cases finite : x.isFinite with
  | true => cases (writes_text layout finite).isMark_of_mem membership
  | false =>
      cases numeric : x.isNaN with
      | true => simp [text_of_isNaN numeric] at membership
      | false =>
          rw [text_of_not_isFinite finite numeric] at membership
          cases negative : x.negative <;> simp [negative, sign] at membership

theorem isFinite_eq_of_text (layout : Decimal.Layout)
    (same : x.text (Decimal.write layout) = y.text (Decimal.write layout)) :
    x.isFinite = y.isFinite := by
  have words : x.isFinite = false ↔ y.isFinite = false := by
    rw [← mem_text_iff layout, same, mem_text_iff layout]
  cases finite : x.isFinite with
  | true =>
      rw [finite] at words
      simpa using words
  | false => exact (words.mp finite).symm

theorem eq_of_parts (sameSign : x.negative = y.negative)
    (sameMagnitude : x.magnitude = y.magnitude) : x = y := by
  rcases x with ⟨negative, magnitude, bound⟩
  rcases y with ⟨otherNegative, otherMagnitude, otherBound⟩
  obtain rfl : negative = otherNegative := sameSign
  obtain rfl : magnitude = otherMagnitude := sameMagnitude
  rfl

theorem eq_of_text_of_isFinite (layout : Decimal.Layout) (finite : x.isFinite = true)
    (same : x.text (Decimal.write layout) = y.text (Decimal.write layout)) : x = y := by
  have otherFinite := (isFinite_eq_of_text layout same).symm.trans finite
  obtain ⟨sameSign, sameValue⟩ :=
    (writes_text layout finite).unique (writes_text layout otherFinite) same
  rw [sameSign] at sameValue
  exact eq_of_parts sameSign (magnitude_eq_of_shortest (signed_inj sameValue))

/-- A number is told by its text in any notation. -/
theorem eq_of_text (layout : Decimal.Layout) (numeric : x.isNaN = false)
    (same : x.text (Decimal.write layout) = y.text (Decimal.write layout)) : x = y := by
  have sameFinite := isFinite_eq_of_text layout same
  cases finite : x.isFinite with
  | true => exact eq_of_text_of_isFinite layout finite same
  | false =>
      have otherInfinite := sameFinite.symm.trans finite
      have text := text_of_not_isFinite finite numeric (Decimal.write layout)
      cases otherNumeric : y.isNaN with
      | true =>
          rw [same, text_of_isNaN otherNumeric] at text
          cases negative : x.negative <;> simp [negative, sign] at text
      | false =>
          rw [same, text_of_not_isFinite otherInfinite otherNumeric] at text
          have sameSign : x.negative = y.negative := by
            cases negative : x.negative <;> cases otherNegative : y.negative <;>
              simp [negative, otherNegative, sign] at text ⊢
          have sameMagnitude := (magnitude_eq_of_not_isFinite finite numeric).trans
            (magnitude_eq_of_not_isFinite otherInfinite otherNumeric).symm
          exact eq_of_parts sameSign sameMagnitude

/-- A finite number is printed with digits on both sides of a point.  That is the number which its
constructor notation writes, and it is read as what was printed. -/
theorem readFirst_print_float (options : Options) (finite : x.isFinite = true) :
    ∃ (numeral : Numeral) (shown : List Char),
      Form.print (.leaf (.float x)) = String.ofList numeral.text ∧ numeral.IsDecimal ∧
      Form.describe (.leaf (.float x)) = String.ofList ("Float(".toList ++ shown ++ [')']) ∧
      Writes shown numeral.negative numeral.value ∧
      numeral.negative = x.negative ∧ x.IsRounded numeral.value ∧
      readFirst options (String.ofList numeral.text) =
        ⟨.ok (.leaf (.float x)), [], ⟨numeral.text.length, []⟩⟩ := by
  obtain ⟨numeral, isDecimal, negative, text, value⟩ :=
    x.shortest.exists_numeral_positional x.negative
  have written := isDecimal.toIsWritten
  have printed : x.text Decimal.positional = numeral.text := by
    rw [text, text_of_isFinite finite]
  have lexeme := lexeme_positional finite
  rw [printed] at lexeme
  refine ⟨numeral, x.text (Decimal.write Atom.numberLayout), ?_, isDecimal, rfl, ?_, negative,
    ?_, ?_⟩
  · rw [← printed]
    rfl
  · rw [negative, value]
    exact writes_text Atom.numberLayout finite
  · rw [value]
    exact isRounded_shortest finite
  · rw [Reader.readFirst_run options (opening_text written 0) (accepts_text written)]
    have denoted : RunKind.number.denoted 0 numeral.text = .ok (.float x) :=
      Numeral.read_eq_ok_iff.mpr lexeme
    rw [denoted]
    rfl

theorem readFirst_print_float_scaled :
    ∃ x : Binary64, x.isFinite = true ∧ Form.describe (.leaf (.float x)) = "Float(-1e+16)" ∧
      Form.print (.leaf (.float x)) = "-10000000000000000.0" ∧
      (readFirst ⟨1, true, {}⟩ "-10000000000000000.0").outcome = .ok (.leaf (.float x)) := by
  have finite : (ofBits 0xC341C37937E08000).isFinite = true := by decide
  have printed : Form.print (.leaf (.float (ofBits 0xC341C37937E08000))) =
      "-10000000000000000.0" := by decide +kernel
  obtain ⟨numeral, shown, text, _, _, _, _, _, read⟩ := readFirst_print_float ⟨1, true, {}⟩ finite
  refine ⟨_, finite, by decide +kernel, printed, ?_⟩
  rw [← printed, text, read]

end Binary64

end Sexpr
