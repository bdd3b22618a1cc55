import Sexpr.Proofs.Reader.Origin

/-!
Failures and the text they are about.

A complaint is about a character that the reader comes to between two forms, and that character
suits it.  One failure has no place and belongs to no family: an integer that has few enough
significant digits to be in range, but is written with too many zeros before them.
-/

namespace Sexpr

open Text.Quoted (doubleQuote apostrophe)

/-- The characters that forms start with. -/
def StartsForm (c : Char) : Prop :=
  c.isDigit = true ∨ c.isAlpha = true ∨ c ∈ ['(', '-', '*', ':', doubleQuote, apostrophe]

/-- The characters that a complaint can be about. -/
def Complaint.Suits (c : Char) : Complaint → Prop
  | .unterminatedList => c = '('
  | .unterminatedString => c = doubleQuote
  | .danglingQuote => c = apostrophe
  | .strayClose => c = ')'
  | .tooDeep _ => c = '(' ∨ c = apostrophe
  | .malformedNumber _ | .integerTooLong _ | .integerOutOfRange _ | .floatOutOfRange =>
      c.isDigit = true ∨ c = '-'
  | .malformedKeyword _ => c = ':'
  | .malformedSpecial _ => c = '*'
  | .unexpectedCharacter found => found = c ∧ ¬ StartsForm c
  | .unexpectedEnd | .noForm => False

theorem Complaint.suits_of_number {c : Char} {complaint : Complaint}
    (isNumber : complaint.kind = .number) (starts : c.isDigit = true ∨ c = '-') :
    complaint.Suits c := by
  cases complaint <;> first | exact starts | cases isNumber

theorem Complaint.Suits.kind_mem {c : Char} {complaint : Complaint} (suits : complaint.Suits c) :
    complaint.kind ∈ [ErrorKind.malformed, .depth, .number] := by
  cases complaint with
  | unexpectedEnd => cases suits
  | noForm => cases suits
  | _ => simp [kind]

/-- An integer of the text with at most as many significant digits as one in range, but with more
digits than can be converted. -/
def HasOverlongInteger (text : List Char) (count : Nat) : Prop :=
  ∃ before negative digits after,
    text = before ++ (Reader.Grammar.sign negative ++ digits) ++ after ∧
    Reader.Grammar.IsDigits digits ∧ Reader.Grammar.EndsBefore .number after ∧
    (significant digits).length ≤ Numeral.significantDigits ∧
    Text.digitLimit < digits.length ∧ digits.length = count

end Sexpr

namespace Sexpr.Reader

open State (Settles SettleFails TakeFails FinishFails OpensWith opening?)

/-- What in a text explains that it cannot be read. -/
inductive Explains (options : Options) (text : List Char) : Failure → Prop where
  | place {offset : Nat} {c : Char} {complaint : Complaint} :
      ComesTo options text offset c →
      complaint.Suits c →
      Explains options text (.located offset complaint)
  | exhausted : Explains options text .stackExhausted
  | digits {count : Nat} :
      HasOverlongInteger text count →
      Explains options text (.tooManyDigits count)

section Explanations

variable {options : Options}

theorem not_startsForm_of_opening {offset : Nat} {c : Char} (unknown : opening? offset c = none) :
    ¬ StartsForm c := by
  have known : ∀ {scan}, opening? offset c ≠ some scan := by simp [unknown]
  rintro (isDigit | isAlpha | listed)
  · exact known (State.opening?_number offset (.inl isDigit))
  · exact known (State.opening?_name offset isAlpha)
  · simp only [List.mem_cons, List.not_mem_nil, or_false] at listed
    rcases listed with rfl | rfl | rfl | rfl | rfl | rfl <;> exact known rfl

theorem State.SettleFails.explains {front rest : List Char} {state : State} {failure : Failure}
    (grounded : state.IsGrounded options front)
    (fails : SettleFails options rest.head? state failure) :
    Explains options (front ++ rest) failure := by
  cases fails with
  | tooDeep opens =>
      rcases opens with rfl | rfl
      · exact .place (ComesTo.append grounded.scan rest) (.inl rfl)
      · exact .place (ComesTo.append grounded.scan rest) (.inr rfl)
  | exhausted => exact .exhausted
  | quote => exact .place (ComesTo.append grounded.scan rest) rfl
  | run ends fails =>
      obtain ⟨before, c, more, rfl, written, opens, comes⟩ := grounded.scan
      cases fails with
      | number isNumber =>
          exact .place (comes.append rest) (Complaint.suits_of_number isNumber opens)
      | @digits negative digits run areDigits few many =>
          rw [run] at written
          refine .digits ⟨before, negative, digits, rest, ?_, areDigits, ends, few, many, rfl⟩
          rw [written]
      | keyword => exact .place (comes.append rest) opens
      | special => exact .place (comes.append rest) opens

theorem State.TakeFails.explains {front rest : List Char} {c : Char} {state settled : State}
    {failure : Failure} (reached : Reaches options front state)
    (settles : Settles options (some c) state settled)
    (fails : TakeFails front.length c settled failure) :
    Explains options (front ++ c :: rest) failure := by
  have comes : settled.scan = .gap → ComesTo options (front ++ c :: rest) front.length c :=
    fun gap => ⟨front, rest, state, settled, rfl, rfl, reached, settles, gap⟩
  cases fails with
  | close equality => exact .place (comes rfl) equality
  | start unknown => exact .place (comes rfl) ⟨rfl, not_startsForm_of_opening unknown⟩

theorem State.FinishFails.explains {text : List Char} {state : State} {failure : Failure}
    (grounded : state.IsGrounded options text) (fails : FinishFails state failure) :
    Explains options text failure := by
  cases fails with
  | string => exact .place grounded.scan rfl
  | list => exact .place (grounded.frames _ List.mem_cons_self) rfl
  | quote => exact .place (grounded.frames _ List.mem_cons_self) rfl
  | exhausted => exact .exhausted

/-- Every failure is explained by the text. -/
theorem explains_of_advance {text : List Char} {failure : Failure}
    (outcome : (advance options .all .initial 0 text).outcome = .error failure) :
    Explains options text failure := by
  rcases fails_of_advance outcome with
    ⟨state, reached, concluded⟩ | ⟨front, c, rest, state, rfl, reached, stopped⟩
  · rcases State.fails_of_conclude concluded with fails | ⟨settled, settles, fails⟩
    · have explained : Explains options (text ++ []) failure := fails.explains reached.isGrounded
      rwa [List.append_nil] at explained
    · exact fails.explains (reached.isGrounded.settled settles)
  · rcases State.fails_of_stop stopped with fails | ⟨settled, settles, fails⟩
    · exact fails.explains reached.isGrounded
    · exact fails.explains reached settles

end Explanations

end Sexpr.Reader
