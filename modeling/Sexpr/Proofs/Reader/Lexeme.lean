import Mathlib.Tactic.SplitIfs
import Sexpr.Proofs.Decimal.Digits
import Sexpr.Proofs.Form.Symbol
import Sexpr.Proofs.Reader.Step

/-!
Complete runs denote exactly the lexemes of the grammar.

For numbers this needs two things: the scanner finds the parts of a written number, and the
test of the number of digits that count never decides against the test of the range.
-/

namespace Sexpr

open Reader.Grammar (IsDigits Lexeme sign)

theorem fitsInt_iff {n : Int} : fitsInt n = true ↔ minInt ≤ n ∧ n ≤ maxInt := by
  simp [fitsInt]

theorem takeWhile_append_of_ends {accepts : Char → Bool} {run : List Char} (rest : List Char)
    (accepted : ∀ c ∈ run, accepts c = true) (ends : rest.head?.any accepts = false) :
    (run ++ rest).takeWhile accepts = run ∧ (run ++ rest).dropWhile accepts = rest := by
  rw [List.takeWhile_append_of_pos accepted, List.dropWhile_append_of_pos accepted]
  cases rest with
  | nil => simp
  | cons c rest =>
      have rejected : ¬ accepts c = true := by simpa using ends
      simp [rejected]

namespace Numeral

/-- The digits and the point of a number, without its sign. -/
def unsignedText (numeral : Numeral) : List Char :=
  match numeral.fraction with
  | none => numeral.whole
  | some fraction => numeral.whole ++ '.' :: fraction

/-- Whether there are digits before the point and after it, and only digits. -/
structure IsWritten (numeral : Numeral) : Prop where
  whole : IsDigits numeral.whole
  fraction : ∀ fraction, numeral.fraction = some fraction → IsDigits fraction

theorem ofUnsigned?_unsignedText {numeral : Numeral} (written : numeral.IsWritten) :
    ofUnsigned? numeral.negative numeral.unsignedText = some numeral := by
  rcases numeral with ⟨negative, whole, fraction⟩
  obtain ⟨nonempty, areDigits⟩ := written.whole
  dsimp only at nonempty areDigits
  obtain ⟨digit, digits, rfl⟩ := List.exists_cons_of_ne_nil nonempty
  cases fraction with
  | none =>
      obtain ⟨taken, dropped⟩ := takeWhile_append_of_ends [] areDigits rfl
      rw [List.append_nil] at taken dropped
      simp only [unsignedText, ofUnsigned?, taken, dropped]
  | some fraction =>
      obtain ⟨taken, dropped⟩ :=
        takeWhile_append_of_ends ('.' :: fraction) areDigits rfl
      obtain ⟨nonempty, fractionDigits⟩ := written.fraction fraction rfl
      simp only [unsignedText, ofUnsigned?, taken, dropped]
      simp [nonempty, List.all_eq_true.mpr fractionDigits]

theorem ofUnsigned?_eq_some_iff {negative : Bool} {run : List Char} {numeral : Numeral} :
    ofUnsigned? negative run = some numeral ↔
      numeral.negative = negative ∧ numeral.IsWritten ∧ run = numeral.unsignedText := by
  constructor
  · intro found
    have parts := List.takeWhile_append_dropWhile (p := Char.isDigit) (l := run)
    have areDigits := List.all_eq_true.mp (List.all_takeWhile (p := Char.isDigit) (l := run))
    unfold ofUnsigned? at found
    generalize run.takeWhile Char.isDigit = whole at found parts areDigits
    generalize run.dropWhile Char.isDigit = rest at found parts
    split at found
    next => cases found
    next _ nonempty =>
      cases found
      refine ⟨rfl, ⟨⟨nonempty, areDigits⟩, ?_⟩, ?_⟩
      · intro fraction equality
        cases equality
      · rw [← parts, List.append_nil]
        rfl
    next _ fraction nonempty =>
      split at found
      next valid =>
        cases found
        simp only [Bool.and_eq_true, Bool.not_eq_true', List.isEmpty_eq_false_iff,
          List.all_eq_true] at valid
        refine ⟨rfl, ⟨⟨nonempty, areDigits⟩, ?_⟩, parts.symm⟩
        intro fraction equality
        cases equality
        exact valid
      next => cases found
    next => cases found
  · rintro ⟨rfl, written, rfl⟩
    exact ofUnsigned?_unsignedText written

/-- A number as it is written. -/
def text (numeral : Numeral) : List Char := sign numeral.negative ++ numeral.unsignedText

theorem ofRun?_eq_some_iff {run : List Char} {numeral : Numeral} :
    ofRun? run = some numeral ↔ numeral.IsWritten ∧ run = numeral.text := by
  constructor
  · intro found
    unfold ofRun? at found
    split at found
    next =>
      obtain ⟨negative, written, rfl⟩ := ofUnsigned?_eq_some_iff.mp found
      exact ⟨written, by rw [text, negative]; rfl⟩
    next =>
      obtain ⟨negative, written, rfl⟩ := ofUnsigned?_eq_some_iff.mp found
      exact ⟨written, by rw [text, negative]; rfl⟩
  · rintro ⟨written, rfl⟩
    have found := ofUnsigned?_unsignedText written
    rcases numeral with ⟨_ | _, whole, fraction⟩
    · have unsigned : ∀ rest, unsignedText ⟨false, whole, fraction⟩ ≠ '-' :: rest := by
        intro rest equality
        obtain ⟨nonempty, areDigits⟩ := written.whole
        dsimp only at nonempty areDigits
        obtain ⟨digit, digits, rfl⟩ := List.exists_cons_of_ne_nil nonempty
        have isMinus : digit = '-' := by
          cases fraction <;> exact (List.cons.inj equality).1
        subst isMinus
        cases areDigits '-' List.mem_cons_self
      unfold ofRun?
      split
      next rest equality => exact absurd equality (unsigned rest)
      next => exact found
    · exact found

theorem IsWritten.text_inj {numeral other : Numeral} (written : numeral.IsWritten)
    (otherWritten : other.IsWritten) (same : numeral.text = other.text) : numeral = other := by
  have found := ofRun?_eq_some_iff.mpr ⟨written, rfl⟩
  have otherFound := ofRun?_eq_some_iff.mpr ⟨otherWritten, same⟩
  exact Option.some.inj (found.symm.trans otherFound)

theorem natAbs_signedValue (negative : Bool) (digits : List Char) :
    (signedValue negative digits).natAbs = digitsValue digits := by
  cases negative <;> simp [signedValue]

theorem signedValue_significant (negative : Bool) (digits : List Char) :
    signedValue negative (significant digits) = signedValue negative digits := by
  simp only [signedValue, digitsValue_significant]

theorem digitsValue_lt_of_fitsInt {negative : Bool} {digits : List Char}
    (fits : fitsInt (signedValue negative digits) = true) :
    digitsValue digits < 10 ^ significantDigits := by
  have size := natAbs_signedValue negative digits
  rw [fitsInt_iff, minInt, maxInt] at fits
  have bound : 10 ^ significantDigits = 10000000000000000000 := by decide
  omega

/-- At most 19 digits count, but there are more than 4300. -/
def IsOverlong (digits : List Char) : Prop :=
  (significant digits).length ≤ 19 ∧ 4300 < digits.length

/-- The test of the number of digits that count never decides against the test of the range. -/
theorem readInteger_cases (start : Nat) (run : List Char) (negative : Bool) {digits : List Char}
    (areDigits : ∀ c ∈ digits, c.isDigit = true) :
    (IsOverlong digits ∧
      readInteger start run negative digits = .error (.tooManyDigits digits.length)) ∨
    (¬IsOverlong digits ∧ fitsInt (signedValue negative digits) = true ∧
      readInteger start run negative digits = .ok (.int (signedValue negative digits))) ∨
    (¬IsOverlong digits ∧ fitsInt (signedValue negative digits) = false ∧
      ∃ complaint, complaint.kind = .number ∧
        readInteger start run negative digits = .error (.located start complaint)) := by
  have short := length_significant_le_iff areDigits significantDigits
  simp only [readInteger]
  rw [← significant, signedValue_significant]
  split_ifs with long many fits
  · refine .inr (.inr ⟨fun overlong => absurd overlong.1 (Nat.not_le.mpr long), ?_, _, rfl, rfl⟩)
    rw [Bool.eq_false_iff]
    intro fits
    exact absurd (short.mpr (digitsValue_lt_of_fitsInt fits)) (Nat.not_le.mpr long)
  · exact .inl ⟨⟨Nat.le_of_not_lt long, many⟩, rfl⟩
  · exact .inr (.inl ⟨fun overlong => absurd overlong.2 many, fits, rfl⟩)
  · have exceeds := Bool.eq_false_iff.mpr fits
    exact .inr (.inr ⟨fun overlong => absurd overlong.2 many, exceeds, _, rfl, rfl⟩)

theorem readInteger_eq_ok_iff {start : Nat} {run : List Char} {negative : Bool}
    {digits : List Char} {atom : Atom} (areDigits : ∀ c ∈ digits, c.isDigit = true) :
    readInteger start run negative digits = .ok atom ↔
      digits.length ≤ Text.digitLimit ∧ fitsInt (signedValue negative digits) = true ∧
        atom = .int (signedValue negative digits) := by
  rcases readInteger_cases start run negative areDigits with
    ⟨overlong, outcome⟩ | ⟨notOverlong, fits, outcome⟩ | ⟨_, exceeds, complaint, _, outcome⟩
  · simp only [outcome, reduceCtorEq, false_iff, not_and]
    intro few
    exact absurd overlong.2 (Nat.not_lt.mpr few)
  · have short : (significant digits).length ≤ 19 :=
      (length_significant_le_iff areDigits 19).mpr (digitsValue_lt_of_fitsInt fits)
    have few : digits.length ≤ Text.digitLimit :=
      Nat.le_of_not_lt fun many => notOverlong ⟨short, many⟩
    simp [outcome, few, fits, eq_comm]
  · simp [outcome, exceeds]

theorem ofRounded_eq_ok_iff {start : Nat} {rounded : Option Binary64} {atom : Atom} :
    ofRounded start rounded = .ok atom ↔ ∃ value, rounded = some value ∧ atom = .float value := by
  cases rounded <;> simp [ofRounded, eq_comm]

theorem read_eq_ok_iff {start : Nat} {run : List Char} {atom : Atom} :
    Numeral.read start run = .ok atom ↔ Lexeme .number run atom := by
  constructor
  · intro outcome
    unfold Numeral.read at outcome
    split at outcome
    next negative digits found =>
      obtain ⟨written, rfl⟩ := ofRun?_eq_some_iff.mp found
      obtain ⟨few, fits, rfl⟩ := (readInteger_eq_ok_iff written.whole.2).mp outcome
      exact .integer written.whole few fits
    next negative whole fraction found =>
      obtain ⟨written, rfl⟩ := ofRun?_eq_some_iff.mp found
      obtain ⟨value, rounded, rfl⟩ := ofRounded_eq_ok_iff.mp outcome
      have lexeme := Lexeme.decimal written.whole (written.fraction fraction rfl) rounded
      rwa [List.append_assoc] at lexeme
    next => cases outcome
  · intro lexeme
    cases lexeme with
    | @integer negative digits areDigits few fits =>
        have found : ofRun? (sign negative ++ digits) = some ⟨negative, digits, none⟩ :=
          ofRun?_eq_some_iff.mpr ⟨⟨areDigits, by simp⟩, rfl⟩
        simp only [Numeral.read, found]
        exact (readInteger_eq_ok_iff areDigits.2).mpr ⟨few, fits, rfl⟩
    | @decimal negative whole fraction value wholeDigits fractionDigits rounded =>
        have found : ofRun? (sign negative ++ whole ++ '.' :: fraction) =
            some ⟨negative, whole, some fraction⟩ := by
          refine ofRun?_eq_some_iff.mpr ⟨⟨wholeDigits, ?_⟩, List.append_assoc _ _ _⟩
          intro digits equality
          cases equality
          exact fractionDigits
        simp only [Numeral.read, found]
        exact ofRounded_eq_ok_iff.mpr ⟨value, rounded, rfl⟩

end Numeral

namespace Reader.State

theorem opening?_number {c : Char} (offset : Nat) (starts : c.isDigit = true ∨ c = '-') :
    opening? offset c = some (.run .number offset [c]) := by
  have notOpen : c ≠ '(' := by
    rintro rfl
    rcases starts with isDigit | equality
    · cases isDigit
    · cases equality
  simp [opening?, notOpen, starts]

theorem opening?_name {c : Char} (offset : Nat) (isAlpha : c.isAlpha = true) :
    opening? offset c = some (.run .name offset [c]) := by
  have notDigit := isDigit_eq_false_of_isAlpha isAlpha
  have notMinus : c ≠ '-' := by
    rintro rfl
    cases isAlpha
  have notOpen : c ≠ '(' := by
    rintro rfl
    cases isAlpha
  simp [opening?, isAlpha, notDigit, notMinus, notOpen]

end Reader.State

namespace Reader.Grammar

open State (opening?)

theorem Lexeme.isPlainName {name : List Char} {atom : Atom} (lexeme : Lexeme .name name atom) :
    Sexpr.isPlainName name = true := by
  cases lexeme with
  | constant named =>
      rcases constantNamed?_cases named with ⟨_, rfl | rfl⟩ | ⟨_, rfl⟩ <;> rfl
  | plain plain ordinary => exact plain

theorem checked_eq_ok_iff {valid : Bool} {failure : Failure} {value atom : Atom} :
    (if valid = true then Except.ok value else .error failure) = .ok atom ↔
      valid = true ∧ atom = value := by
  cases valid <;> simp [eq_comm]

/-- A complete run denotes what the grammar says. -/
theorem denoted_eq_ok_iff {kind : RunKind} (start : Nat) {run : List Char} {atom : Atom}
    (named : kind = .name → Sexpr.isPlainName run = true) :
    kind.denoted start run = .ok atom ↔ Lexeme kind run atom := by
  cases kind with
  | number => exact Numeral.read_eq_ok_iff
  | name =>
      simp only [RunKind.denoted, Except.ok.injEq, atomNamed]
      constructor
      · rintro rfl
        cases constant : constantNamed? run with
        | none => exact .plain (named rfl) constant
        | some atom => exact .constant constant
      · intro lexeme
        cases lexeme with
        | constant constant => rw [constant, Option.getD_some]
        | plain plain ordinary => rw [ordinary, Option.getD_none]
  | keyword =>
      rw [RunKind.denoted, checked_eq_ok_iff]
      constructor
      · rintro ⟨valid, rfl⟩
        exact .keyword valid
      · intro lexeme
        cases lexeme with
        | keyword valid => exact ⟨valid, rfl⟩
  | special =>
      rw [RunKind.denoted, checked_eq_ok_iff]
      constructor
      · rintro ⟨valid, rfl⟩
        exact .special valid
      · intro lexeme
        cases lexeme with
        | special valid => exact ⟨valid, rfl⟩

/-- All characters of a number continue it. -/
theorem accepts_text {numeral : Numeral} (written : numeral.IsWritten) :
    ∀ c ∈ numeral.text, RunKind.number.accepts c = true := by
  rcases numeral with ⟨negative, whole, fraction⟩
  have ofDigit : ∀ {digits : List Char}, IsDigits digits →
      ∀ c ∈ digits, RunKind.number.accepts c = true := by
    intro digits areDigits c membership
    simp [RunKind.accepts, areDigits.2 c membership]
  intro c membership
  rcases List.mem_append.mp membership with isSign | unsigned
  · cases negative with
    | false => cases isSign
    | true =>
        obtain rfl := List.mem_singleton.mp isSign
        rfl
  · cases fraction with
    | none => exact ofDigit written.whole c unsigned
    | some fraction =>
        rcases List.mem_append.mp unsigned with before | after
        · exact ofDigit written.whole c before
        · rcases List.mem_cons.mp after with rfl | isDigit
          · rfl
          · exact ofDigit (written.fraction fraction rfl) c isDigit

/-- The first character of a number opens a number. -/
theorem opening_text {numeral : Numeral} (written : numeral.IsWritten) (offset : Nat) :
    ∃ c more, numeral.text = c :: more ∧
      opening? offset c = some (.run .number offset [c]) := by
  rcases numeral with ⟨negative, whole, fraction⟩
  obtain ⟨nonempty, areDigits⟩ := written.whole
  dsimp only at nonempty areDigits
  obtain ⟨digit, digits, rfl⟩ := List.exists_cons_of_ne_nil nonempty
  cases negative with
  | false =>
      have isDigit := areDigits digit List.mem_cons_self
      have opening := State.opening?_number offset (.inl isDigit)
      cases fraction with
      | none => exact ⟨digit, digits, rfl, opening⟩
      | some fraction => exact ⟨digit, digits ++ '.' :: fraction, rfl, opening⟩
  | true => exact ⟨'-', _, rfl, State.opening?_number offset (.inr rfl)⟩

theorem Lexeme.exists_numeral {run : List Char} {atom : Atom}
    (lexeme : Lexeme .number run atom) :
    ∃ numeral : Numeral, numeral.IsWritten ∧ run = numeral.text := by
  cases lexeme with
  | @integer negative digits areDigits few fits =>
      exact ⟨⟨negative, digits, none⟩, ⟨areDigits, nofun⟩, rfl⟩
  | @decimal negative whole fraction value wholeDigits fractionDigits rounded =>
      refine ⟨⟨negative, whole, some fraction⟩, ⟨wholeDigits, ?_⟩, List.append_assoc _ _ _⟩
      rintro _ ⟨⟩
      exact fractionDigits

/-- All characters of a lexeme continue a run of its kind. -/
theorem Lexeme.accepts {kind : RunKind} {run : List Char} {atom : Atom}
    (lexeme : Lexeme kind run atom) : ∀ c ∈ run, kind.accepts c = true := by
  cases kind with
  | number =>
      obtain ⟨numeral, written, rfl⟩ := lexeme.exists_numeral
      exact accepts_text written
  | name => exact isNameChar_of_isPlainName lexeme.isPlainName
  | keyword =>
      cases lexeme with
      | keyword valid =>
          obtain ⟨inner, rfl, plain⟩ := isKeywordName_iff.mp valid
          intro c membership
          rcases List.mem_cons.mp membership with rfl | within
          · rfl
          · simp [RunKind.accepts, isNameChar_of_isPlainName plain c within]
  | special =>
      cases lexeme with
      | special valid =>
          obtain ⟨inner, rfl, plain⟩ := isSpecialName_iff.mp valid
          intro c membership
          rcases List.mem_append.mp membership with before | last
          · rcases List.mem_cons.mp before with rfl | within
            · rfl
            · simp [RunKind.accepts, isNameChar_of_isPlainName plain c within]
          · obtain rfl := List.mem_singleton.mp last
            rfl

/-- The first character of a lexeme opens a run of its kind. -/
theorem Lexeme.opening {kind : RunKind} {run : List Char} {atom : Atom}
    (lexeme : Lexeme kind run atom) (offset : Nat) :
    ∃ c more, run = c :: more ∧ opening? offset c = some (.run kind offset [c]) := by
  cases kind with
  | number =>
      obtain ⟨numeral, written, rfl⟩ := lexeme.exists_numeral
      exact opening_text written offset
  | name =>
      obtain ⟨c, more, rfl, isAlpha, _⟩ := isPlainName_iff.mp lexeme.isPlainName
      exact ⟨c, more, rfl, State.opening?_name offset isAlpha⟩
  | keyword =>
      cases lexeme with
      | keyword valid =>
          obtain ⟨inner, rfl, _⟩ := isKeywordName_iff.mp valid
          exact ⟨':', inner, rfl, rfl⟩
  | special =>
      cases lexeme with
      | special valid =>
          obtain ⟨inner, rfl, _⟩ := isSpecialName_iff.mp valid
          exact ⟨'*', inner ++ ['*'], rfl, rfl⟩

end Reader.Grammar

end Sexpr
