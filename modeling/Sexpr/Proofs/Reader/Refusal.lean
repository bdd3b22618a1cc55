import Sexpr.Proofs.Reader.Lexeme
import Sexpr.Proofs.Reader.Passage

/-!
Why a reader stops.

A failure arises when a run is complete that denotes nothing, when a list or quote is not entered,
at a character that cannot be taken, or at the end of the text.  Each relation below lists what can
be wrong with the state in one of these cases, so that nothing else needs to look into the reader.
-/

namespace Sexpr

open Reader.Grammar (IsDigits sign)

/-- What is wrong with a complete run. -/
inductive RunKind.Fails (start : Nat) (run : List Char) : RunKind → Failure → Prop where
  | number {complaint : Complaint} :
      complaint.kind = .number →
      Fails start run .number (.located start complaint)
  | digits {negative : Bool} {digits : List Char} :
      run = sign negative ++ digits →
      IsDigits digits →
      (significant digits).length ≤ Numeral.significantDigits →
      Text.digitLimit < digits.length →
      Fails start run .number (.tooManyDigits digits.length)
  | keyword : Fails start run .keyword (.located start (.malformedKeyword run))
  | special : Fails start run .special (.located start (.malformedSpecial run))

theorem Numeral.fails_of_readInteger {start : Nat} {negative : Bool} {digits : List Char}
    {failure : Failure} (areDigits : IsDigits digits)
    (outcome : readInteger start (sign negative ++ digits) negative digits = .error failure) :
    RunKind.Fails start (sign negative ++ digits) .number failure := by
  rcases readInteger_cases start (sign negative ++ digits) negative areDigits.2 with
    ⟨overlong, found⟩ | ⟨_, _, found⟩ | ⟨_, _, complaint, isNumber, found⟩
  · rw [found] at outcome
    cases outcome
    exact .digits rfl areDigits overlong.1 overlong.2
  · rw [found] at outcome
    cases outcome
  · rw [found] at outcome
    cases outcome
    exact .number isNumber

theorem Numeral.fails_of_rounded {start : Nat} {run : List Char} {rounded : Option Binary64}
    {failure : Failure} (outcome : ofRounded start rounded = .error failure) :
    RunKind.Fails start run .number failure := by
  cases rounded with
  | none =>
      cases outcome
      exact .number rfl
  | some value => cases outcome

theorem Numeral.fails_of_read {start : Nat} {run : List Char} {failure : Failure}
    (outcome : Numeral.read start run = .error failure) :
    RunKind.Fails start run .number failure := by
  unfold Numeral.read at outcome
  split at outcome
  next negative digits found =>
    obtain ⟨written, rfl⟩ := ofRun?_eq_some_iff.mp found
    exact fails_of_readInteger written.whole outcome
  next negative whole fraction found =>
    exact fails_of_rounded outcome
  next =>
    cases outcome
    exact .number rfl

theorem RunKind.fails_of_denoted {kind : RunKind} {start : Nat} {run : List Char}
    {failure : Failure} (outcome : kind.denoted start run = .error failure) :
    kind.Fails start run failure := by
  cases kind with
  | number => exact Numeral.fails_of_read outcome
  | name => cases outcome
  | keyword =>
      simp only [denoted] at outcome
      split at outcome
      all_goals cases outcome
      exact .keyword
  | special =>
      simp only [denoted] at outcome
      split at outcome
      all_goals cases outcome
      exact .special

end Sexpr

namespace Sexpr.Reader

open State (Goal Settles)

namespace State

/-- What is wrong with a state that the next character, or the end of the text, does not settle. -/
inductive SettleFails (options : Options) (next : Option Char) : State → Failure → Prop where
  | tooDeep {scan : Scan} {start : Nat} {frames : List Frame} {forms : List Form} :
      scan = .opened start ∨ scan = .quoted start →
      SettleFails options next ⟨scan, frames, forms⟩ (.located start (.tooDeep options.maxDepth))
  | exhausted {state : State} : SettleFails options next state .stackExhausted
  | quote {start : Nat} {frames : List Frame} {forms : List Form} :
      SettleFails options next ⟨.quoted start, frames, forms⟩ (.located start .danglingQuote)
  | run {kind : RunKind} {start : Nat} {taken : List Char} {frames : List Frame}
      {forms : List Form} {failure : Failure} :
      next.any kind.accepts = false →
      kind.Fails start taken.reverse failure →
      SettleFails options next ⟨.run kind start taken, frames, forms⟩ failure

theorem eq_of_enter {options : Options} {start : Nat} {frame : Frame} {state : State}
    {failure : Failure} (outcome : state.enter options start frame = .error failure) :
    failure = .located start (.tooDeep options.maxDepth) ∨ failure = .stackExhausted := by
  simp only [enter] at outcome
  split at outcome
  next =>
    cases outcome
    exact .inl rfl
  next =>
    split at outcome
    all_goals cases outcome
    exact .inr rfl

theorem fails_of_settle {options : Options} {next : Option Char} {state : State}
    {failure : Failure} (outcome : state.settle options next = .error failure) :
    SettleFails options next state failure := by
  rcases state with ⟨scan, frames, forms⟩
  cases scan with
  | gap => cases outcome
  | string start taken => cases outcome
  | opened start =>
      rcases eq_of_enter outcome with rfl | rfl
      · exact .tooDeep (.inl rfl)
      · exact .exhausted
  | quoted start =>
      simp only [settle] at outcome
      split at outcome
      next =>
        rcases eq_of_enter outcome with rfl | rfl
        · exact .tooDeep (.inr rfl)
        · exact .exhausted
      next =>
        cases outcome
        exact .quote
  | run kind start taken =>
      simp only [settle] at outcome
      split at outcome
      next => cases outcome
      next ends =>
        split at outcome
        next denoted =>
          cases outcome
          exact .run (Bool.eq_false_iff.mpr ends) (RunKind.fails_of_denoted denoted)
        next => cases outcome

/-- What is wrong with a character that a settled state does not take. -/
inductive TakeFails (offset : Nat) (c : Char) : State → Failure → Prop where
  | close {forms : List Form} :
      c = ')' →
      TakeFails offset c ⟨.gap, [], forms⟩ (.located offset .strayClose)
  | start {frames : List Frame} {forms : List Form} :
      opening? offset c = none →
      TakeFails offset c ⟨.gap, frames, forms⟩ (.located offset (.unexpectedCharacter c))

theorem TakeFails.of_startForm {offset : Nat} {c : Char} {frames : List Frame}
    {forms : List Form} {failure : Failure}
    (outcome : startForm offset c ⟨.gap, frames, forms⟩ = .error failure) :
    TakeFails offset c ⟨.gap, frames, forms⟩ failure := by
  unfold startForm at outcome
  split at outcome
  next => cases outcome
  next unknown =>
    cases outcome
    exact .start unknown

theorem TakeFails.of_takeInGap {goal : Goal} {offset : Nat} {c : Char} {frames : List Frame}
    {forms : List Form} {failure : Failure}
    (outcome : takeInGap goal offset c ⟨.gap, frames, forms⟩ = .error failure) :
    TakeFails offset c ⟨.gap, frames, forms⟩ failure := by
  rcases frames with _ | ⟨⟨start, items⟩ | start, frames⟩
  · cases goal with
    | one => exact .of_startForm outcome
    | all =>
        simp only [takeInGap] at outcome
        split at outcome
        next => cases outcome
        next =>
          split at outcome
          next close =>
            cases outcome
            exact .close close
          next => exact .of_startForm outcome
  · simp only [takeInGap] at outcome
    split at outcome
    next => cases outcome
    next =>
      split at outcome
      next => cases outcome
      next => exact .of_startForm outcome
  · exact .of_startForm outcome

theorem Settles.fails_of_take {options : Options} {goal : Goal} {offset : Nat} {c : Char}
    {next : Option Char} {state settled : State} {failure : Failure}
    (settles : Settles options next state settled)
    (outcome : settled.take goal offset c = .error failure) :
    TakeFails offset c settled failure := by
  have waiting := settles.scan_ne
  rcases settled with ⟨scan, frames, forms⟩
  cases scan with
  | gap => exact .of_takeInGap outcome
  | opened start => exact absurd rfl (waiting start).1
  | quoted start => exact absurd rfl (waiting start).2
  | run kind start taken => cases outcome
  | string start taken =>
      simp only [take] at outcome
      split at outcome
      all_goals cases outcome

/-- What is wrong with a settled state at the end of the text. -/
inductive FinishFails : State → Failure → Prop where
  | string {start : Nat} {taken : List Char} {frames : List Frame} {forms : List Form} :
      FinishFails ⟨.string start taken, frames, forms⟩ (.located start .unterminatedString)
  | list {scan : Scan} {start : Nat} {items : List Form} {frames : List Frame}
      {forms : List Form} :
      FinishFails ⟨scan, .list start items :: frames, forms⟩ (.located start .unterminatedList)
  | quote {scan : Scan} {start : Nat} {frames : List Frame} {forms : List Form} :
      FinishFails ⟨scan, .quote start :: frames, forms⟩ (.located start .danglingQuote)
  | exhausted {state : State} : FinishFails state .stackExhausted

theorem fails_of_finish {options : Options} {state : State} {failure : Failure}
    (outcome : state.finish options = .error failure) : FinishFails state failure := by
  rcases state with ⟨scan, frames, forms⟩
  unfold finish at outcome
  split at outcome
  next start taken scanned =>
    obtain rfl : scan = .string start taken := scanned
    obtain ⟨_, rfl⟩ | ⟨_, _, rfl⟩ := closeAtEnd_eq_error_iff.mp outcome
    · exact .string
    · exact .exhausted
  next framed _ =>
    obtain rfl := framed
    obtain ⟨_, rfl⟩ | ⟨_, _, rfl⟩ := closeAtEnd_eq_error_iff.mp outcome
    · exact .list
    · exact .exhausted
  next framed _ =>
    obtain rfl := framed
    cases outcome
    exact .quote
  next => cases outcome

theorem fails_of_stop {options : Options} {goal : Goal} {offset : Nat} {c : Char} {state : State}
    {failure : Failure} (stopped : state.move options goal offset c = .stop (.error failure)) :
    SettleFails options (some c) state failure ∨
      ∃ settled, Settles options (some c) state settled ∧ TakeFails offset c settled failure := by
  unfold move at stopped
  split at stopped
  next outcome =>
    cases stopped
    exact .inl (fails_of_settle outcome)
  next settled outcome =>
    have settles := settle_eq_ok_iff.mp outcome
    split at stopped
    next => cases stopped
    next =>
      split at stopped
      next outcome =>
        cases stopped
        exact .inr ⟨settled, settles, settles.fails_of_take outcome⟩
      next => cases stopped

theorem fails_of_conclude {options : Options} {state : State} {failure : Failure}
    (outcome : state.conclude options = .error failure) :
    SettleFails options none state failure ∨
      ∃ settled, Settles options none state settled ∧ FinishFails settled failure := by
  unfold conclude at outcome
  split at outcome
  next fails =>
    cases outcome
    exact .inl (fails_of_settle fails)
  next settled settles => exact .inr ⟨settled, settle_eq_ok_iff.mp settles, fails_of_finish outcome⟩

end State

end Sexpr.Reader
