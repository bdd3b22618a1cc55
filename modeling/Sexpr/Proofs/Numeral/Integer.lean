import Sexpr.Proofs.Reader.Run

/-!
Integers are read exactly if they are in range.

The number of digits that count is tested before the value is known.  That never decides against the
test of the range: more than 19 such digits write no integer of 64 bits.  Only zeros in front can
make a number in range too long to be converted.
-/

namespace Sexpr

theorem fitsInt_iff_pow {n : Int} : fitsInt n = true ↔ -2 ^ 63 ≤ n ∧ n ≤ 2 ^ 63 - 1 := by
  rw [fitsInt_iff, minInt, maxInt]
  norm_num

namespace Numeral

open Reader (Cursor Method Options)
open Reader.Grammar (EndsBefore IsDigits sign)

/-- The outcome is a complaint about a number that starts at the offset. -/
def FailsAt (start : Nat) (outcome : Except Failure Form) : Prop :=
  ∃ failure, outcome = .error failure ∧ failure.kind? = some .number ∧
    failure.offset? = some start

/-- What reading an integer comes to. -/
structure IntegerOutcome (start : Nat) (negative : Bool) (digits : List Char)
    (outcome : Except Failure Form) : Prop where
  overlong : IsOverlong digits → outcome = .error (.tooManyDigits digits.length)
  inRange : ¬IsOverlong digits → -2 ^ 63 ≤ signedValue negative digits →
    signedValue negative digits ≤ 2 ^ 63 - 1 →
    outcome = .ok (.leaf (.int (signedValue negative digits)))
  outOfRange : ¬IsOverlong digits →
    ¬(-2 ^ 63 ≤ signedValue negative digits ∧ signedValue negative digits ≤ 2 ^ 63 - 1) →
    FailsAt start outcome

theorem readInteger_outcome (start : Nat) (run : List Char) (negative : Bool) {digits : List Char}
    (areDigits : ∀ c ∈ digits, c.isDigit = true) :
    IntegerOutcome start negative digits
      ((readInteger start run negative digits).map .leaf) := by
  have inRange := @fitsInt_iff_pow (signedValue negative digits)
  rcases readInteger_cases start run negative areDigits with
    ⟨overlong, outcome⟩ | ⟨notOverlong, fits, outcome⟩ |
    ⟨notOverlong, exceeds, complaint, isNumber, outcome⟩
  · rw [outcome]
    exact ⟨fun _ => rfl, fun notOverlong => absurd overlong notOverlong,
      fun notOverlong => absurd overlong notOverlong⟩
  · rw [outcome]
    exact ⟨fun overlong => absurd overlong notOverlong, fun _ _ _ => rfl,
      fun _ outside => absurd (inRange.mp fits) outside⟩
  · rw [outcome]
    refine ⟨fun overlong => absurd overlong notOverlong, fun _ least most => ?_, fun _ _ => ?_⟩
    · rw [inRange.mpr ⟨least, most⟩] at exceeds
      cases exceeds
    · exact ⟨_, rfl, congrArg some isNumber, rfl⟩

/-- A run of number characters is taken as a whole.  If it is an integer then its value decides what
it comes to, and if it is no number at all then that is the complaint. -/
theorem read_number_outcome (options : Options) {place : Cursor} {run rest : List Char}
    (split : place.rest = run ++ rest) (accepted : ∀ c ∈ run, RunKind.number.accepts c = true)
    (ends : EndsBefore .number rest) :
    ∃ outcome,
      (Method.run .number).read options place =
        ⟨outcome, [], ⟨place.offset + run.length, rest⟩⟩ ∧
      (∀ negative digits, IsDigits digits → run = sign negative ++ digits →
        IntegerOutcome place.offset negative digits outcome) ∧
      ((∀ numeral : Numeral, numeral.IsWritten → run ≠ numeral.text) →
        FailsAt place.offset outcome) := by
  refine ⟨_, Method.read_run options split accepted ends, ?_, ?_⟩
  · intro negative digits areDigits written
    have found : ofRun? run = some ⟨negative, digits, none⟩ :=
      ofRun?_eq_some_iff.mpr ⟨⟨areDigits, nofun⟩, written⟩
    simp only [RunKind.denoted, Numeral.read, found]
    exact readInteger_outcome place.offset run negative areDigits.2
  · intro unwritten
    have malformed : ofRun? run = none := by
      refine Option.eq_none_iff_forall_ne_some.mpr fun numeral found => ?_
      obtain ⟨written, text⟩ := ofRun?_eq_some_iff.mp found
      exact unwritten numeral written text
    simp only [RunKind.denoted, Numeral.read, malformed]
    exact ⟨_, rfl, rfl, rfl⟩

theorem read_number_outcome_least :
    ∃ digits : List Char, digits = "009223372036854775808".toList ∧
      (∀ c ∈ '-' :: digits, RunKind.number.accepts c = true) ∧ EndsBefore .number [')'] ∧
      (Method.run .number).read ⟨1, true, {}⟩ ⟨3, '-' :: digits ++ [')']⟩ =
        ⟨.ok (.leaf (.int (-9223372036854775808))), [], ⟨25, [')']⟩⟩ := by
  have accepted : ∀ c ∈ '-' :: "009223372036854775808".toList,
      RunKind.number.accepts c = true := List.all_eq_true.mp (by decide)
  have ends : EndsBefore .number [')'] := rfl
  refine ⟨_, rfl, accepted, ends, ?_⟩
  obtain ⟨outcome, read, integer, _⟩ :=
    @read_number_outcome ⟨1, true, {}⟩ ⟨3, '-' :: "009223372036854775808".toList ++ [')']⟩ _ _ rfl
      accepted ends
  have areDigits : IsDigits "009223372036854775808".toList :=
    ⟨by decide, List.all_eq_true.mp (by decide)⟩
  have short : ¬IsOverlong "009223372036854775808".toList := fun overlong =>
    absurd overlong.2 (by decide)
  have inRange := (integer true _ areDigits rfl).inRange short (by decide) (by decide)
  rw [read, inRange]
  rfl

end Numeral

end Sexpr
