import Sexpr.Proofs.Reader.Blame
import Sexpr.Proofs.Reader.Completeness

/-!
The families of failures.

Whatever the text, reading fails with a complaint of one of three families, or because no form is
found in it, which happens exactly if it has spaces only.  The exception is an integer with more
digits than can be converted, which zeros before the digits that count can make of any integer.
-/

namespace Sexpr

theorem Numeral.read_zeros {start count : Nat} (many : Text.digitLimit < count) :
    Numeral.read start (List.replicate count '0') = .error (.tooManyDigits count) := by
  have nonempty : List.replicate count '0' ≠ [] := by
    intro equality
    rw [List.replicate_eq_nil_iff] at equality
    omega
  have areDigits : Reader.Grammar.IsDigits (List.replicate count '0') := by
    refine ⟨nonempty, ?_⟩
    intro c membership
    obtain rfl := List.eq_of_mem_replicate membership
    rfl
  have found : Numeral.ofRun? (List.replicate count '0') =
      some ⟨false, List.replicate count '0', none⟩ :=
    Numeral.ofRun?_eq_some_iff.mpr ⟨⟨areDigits, by simp⟩, rfl⟩
  have few : ¬ Numeral.significantDigits < (significant (List.replicate count '0')).length := by
    simp [significant]
  simp only [Numeral.read, found, Numeral.readInteger, List.length_replicate]
  rw [← significant, if_neg few, if_pos many]

end Sexpr

namespace Sexpr.Reader

open State (Settles Takes deliver opening?)

/-! ## Texts without forms -/

namespace State

theorem deliver_ne_initial (form : Form) (frames : List Frame) (forms : List Form) :
    deliver form frames forms ≠ .initial := by
  induction frames generalizing form with
  | nil => simp [deliver, initial]
  | cons frame frames inductionHypothesis =>
      cases frame with
      | list start items => simp [deliver, initial]
      | quote start => exact inductionHypothesis form.quote

theorem Settles.eq_initial {options : Options} {next : Option Char} {state : State}
    (settles : Settles options next state .initial) : state = .initial := by
  generalize isInitial : State.initial = settled at settles
  cases settles with
  | gap => rfl
  | string => rfl
  | run more => rfl
  | atom ends denoted => exact absurd isInitial.symm (deliver_ne_initial _ _ _)
  | list shallow ample => cases isInitial
  | quote follows shallow ample => cases isInitial

theorem eq_initial_of_go {options : Options} {offset : Nat} {c : Char} {state : State}
    (moved : state.move options .all offset c = .go .initial) : c = ' ' ∧ state = .initial := by
  obtain ⟨settled, settles, _, takes⟩ := move_eq_go_iff.mp moved
  generalize isInitial : State.initial = taken at takes
  cases takes with
  | run => cases isInitial
  | string more => cases isInitial
  | stringEnd ends => exact absurd isInitial.symm (deliver_ne_initial _ _ _)
  | space between equality =>
      cases isInitial
      exact ⟨equality, settles.eq_initial⟩
  | listEnd equality => exact absurd isInitial.symm (deliver_ne_initial _ _ _)
  | start opening =>
      cases isInitial
      exact absurd opening (opening?_ne_gap _ _)

theorem eq_initial_of_conclude {options : Options} {state : State} {notices : List Notice}
    (concluded : state.conclude options = .ok (notices, [])) : state = .initial := by
  unfold conclude at concluded
  split at concluded
  next => cases concluded
  next settled outcome =>
    have settles := settle_eq_ok_iff.mp outcome
    suffices isInitial : settled = .initial by
      rw [isInitial] at settles
      exact settles.eq_initial
    rcases settled with ⟨scan, frames, forms⟩
    rcases settles.scan_atEnd with gap | ⟨start, taken, string⟩
    · cases gap
      rcases frames with _ | ⟨⟨start, items⟩ | start, frames⟩
      · cases concluded
        rfl
      · obtain ⟨_, _, closed⟩ := closeAtEnd_eq_ok_iff.mp concluded
        cases closed
      · cases concluded
    · cases string
      obtain ⟨_, _, closed⟩ := closeAtEnd_eq_ok_iff.mp concluded
      cases closed

end State

theorem advance_spaces (options : Options) {text : List Char} (spaces : ∀ c ∈ text, c = ' ')
    (offset : Nat) :
    (advance options .all .initial offset text).outcome = .ok [] := by
  induction text generalizing offset with
  | nil => rfl
  | cons c rest inductionHypothesis =>
      rw [List.forall_mem_cons] at spaces
      obtain ⟨rfl, spaces⟩ := spaces
      rw [State.initial, advance_take .gap (by simp) (.space rfl rfl)]
      exact inductionHypothesis spaces (offset + 1)

/-- Nothing is read from spaces, and from nothing else. -/
theorem advance_eq_ok_nil_iff {options : Options} {text : List Char} :
    (advance options .all .initial 0 text).outcome = .ok [] ↔ ∀ c ∈ text, c = ' ' := by
  constructor
  · intro outcome
    have spaces : State.initial = .initial ∧ ∀ c ∈ text, c = ' ' := by
      refine advance_induct (motive := fun state text => state = .initial ∧ ∀ c ∈ text, c = ' ')
        ?_ ?_ outcome
      · intro state notices concluded
        exact ⟨State.eq_initial_of_conclude concluded, by simp⟩
      · rintro state offset c taken rest moved ⟨rfl, spaces⟩
        obtain ⟨rfl, isInitial⟩ := State.eq_initial_of_go moved
        exact ⟨isInitial, List.forall_mem_cons.mpr ⟨rfl, spaces⟩⟩
    exact spaces.2
  · intro spaces
    exact advance_spaces options spaces 0

/-- To read the first form fails where reading all forms fails, or because there is none. -/
theorem readFirst_eq_error_iff {options : Options} {text : String} {failure : Failure} :
    (readFirst options text).outcome = .error failure ↔
      (readAll options text).outcome = .error failure ∨
        (∀ c ∈ text.toList, c = ' ') ∧
          failure = .located (readAll options text).cursor.offset .noForm := by
  rw [readAll_eq_error_iff, ← @advance_eq_ok_nil_iff options, readAll_eq,
    ← Reading.outcome_catching_eq_ok_iff]
  simp only [readFirst, Method.read, Method.place, Method.goal, Method.scan, Method.report,
    Reading.map]
  rw [← State.initial]
  cases (advance options .all .initial 0 text.toList).catching.outcome with
  | error other => simp
  | ok forms =>
      rcases forms.eq_nil_or_concat with rfl | ⟨others, first, rfl⟩
      · simp [Method.choose, eq_comm]
      · simp only [List.concat_eq_append, List.reverse_append, List.reverse_singleton,
          List.singleton_append]
        cases others.reverse <;> simp [Method.choose]

/-- What a reader reports comes with a form. -/
theorem notices_advance (options : Options) (goal : State.Goal) (state : State) (offset : Nat)
    (text : List Char) :
    (advance options goal state offset text).notices = [] ∨
      ∃ form forms, (advance options goal state offset text).outcome = .ok (form :: forms) := by
  induction text generalizing state offset with
  | nil =>
      simp only [advance]
      cases concluded : state.conclude options with
      | error failure => exact .inl rfl
      | ok finished =>
          rcases finished with ⟨notices, _ | ⟨form, forms⟩⟩
          · rw [State.eq_initial_of_conclude concluded] at concluded
            cases concluded
            exact .inl rfl
          · exact .inr ⟨form, forms, rfl⟩
  | cons c rest inductionHypothesis =>
      simp only [advance]
      cases state.move options goal offset c with
      | stop outcome => exact .inl rfl
      | go taken => exact inductionHypothesis taken (offset + 1)

/-- A failure to read the first form comes without a report. -/
theorem notices_readFirst_of_error {options : Options} {text : String} {failure : Failure}
    (outcome : (readFirst options text).outcome = .error failure) :
    (readFirst options text).notices = [] := by
  simp only [readFirst, Method.read, Method.place, Method.goal, Method.scan, Method.report]
    at outcome ⊢
  rw [← State.initial] at outcome ⊢
  have reported : (advance options .all .initial 0 text.toList).catching.notices = [] ∨
      ∃ form forms, (advance options .all .initial 0 text.toList).catching.outcome =
        .ok (form :: forms) := by
    simpa using notices_advance options .all .initial 0 text.toList
  generalize (advance options .all .initial 0 text.toList).catching = reading at outcome reported ⊢
  cases read : reading.outcome with
  | error other => simpa [read] using reported
  | ok forms =>
      rcases forms.eq_nil_or_concat with rfl | ⟨others, first, rfl⟩
      · simpa [read, Method.choose] using reported
      · rw [read] at outcome
        simp only [List.concat_eq_append, List.reverse_append, List.reverse_singleton,
          List.singleton_append] at outcome
        cases inOrder : others.reverse <;> simp [inOrder, Method.choose] at outcome

/-! ## All families -/

theorem kind?_of_readAll {options : Options} {text : String} {failure : Failure}
    (outcome : (readAll options text).outcome = .error failure) :
    (∃ kind ∈ [ErrorKind.malformed, .depth, .number], failure.kind? = some kind) ∨
      ∃ count, failure = .tooManyDigits count ∧ HasOverlongInteger text.toList count := by
  obtain ⟨raised, raises, rfl⟩ :=
    Reading.outcome_catching_eq_error_iff.mp (readAll_eq_error_iff.mp outcome)
  cases explains_of_advance raises with
  | @place offset c complaint comes suits => exact .inl ⟨complaint.kind, suits.kind_mem, rfl⟩
  | exhausted => exact .inl ⟨.depth, by decide, rfl⟩
  | @digits count overlong => exact .inr ⟨count, rfl, overlong⟩

theorem ne_unexpectedEnd_of_readAll {options : Options} {text : String} {failure : Failure}
    (outcome : (readAll options text).outcome = .error failure) (offset : Nat) :
    failure ≠ .located offset .unexpectedEnd := by
  rintro rfl
  cases explains_of_advance (readAll_eq_error_located_iff.mp outcome) with
  | place comes suits => exact suits

/-- Every failure is of one of the families, unless the text has an integer with too many digits.
To read the first form fails in one more way, exactly for texts of spaces, and nothing ever fails
by expecting a form where the text ends. -/
theorem failures_of_read (options : Options) (text : String) :
    (∀ failure, (readAll options text).outcome = .error failure →
      ((∃ kind ∈ [ErrorKind.malformed, .depth, .number], failure.kind? = some kind) ∨
        ∃ count, failure = .tooManyDigits count ∧ HasOverlongInteger text.toList count) ∧
      ∀ offset, failure ≠ .located offset .unexpectedEnd) ∧
    (∀ failure, (readFirst options text).outcome = .error failure →
      ((readAll options text).outcome = .error failure ∨ failure.kind? = some .missing) ∧
      ∀ offset, failure ≠ .located offset .unexpectedEnd) ∧
    ((∃ failure, (readFirst options text).outcome = .error failure ∧
      failure.kind? = some .missing) ↔ ∀ c ∈ text.toList, c = ' ') := by
  refine ⟨?_, ?_, ?_⟩
  · intro failure outcome
    exact ⟨kind?_of_readAll outcome, ne_unexpectedEnd_of_readAll outcome⟩
  · intro failure outcome
    rcases readFirst_eq_error_iff.mp outcome with fails | ⟨spaces, rfl⟩
    · exact ⟨.inl fails, ne_unexpectedEnd_of_readAll fails⟩
    · refine ⟨.inr rfl, ?_⟩
      rintro offset impossible
      cases impossible
  · constructor
    · rintro ⟨failure, outcome, missing⟩
      rcases readFirst_eq_error_iff.mp outcome with fails | ⟨spaces, _⟩
      · rcases kind?_of_readAll fails with ⟨kind, listed, other⟩ | ⟨count, rfl, _⟩
        · rw [missing] at other
          cases other
          exact absurd listed (by decide)
        · cases missing
      · exact spaces
    · intro spaces
      exact ⟨_, readFirst_eq_error_iff.mpr (.inr ⟨spaces, rfl⟩), rfl⟩

theorem failures_of_read_spaces :
    (∃ failure, (readFirst {} "  ").outcome = .error failure ∧ failure.kind? = some .missing) ∧
      ((readFirst {} "(a").outcome = .error (.located 0 .unterminatedList) ∧
        (readAll {} "(a").outcome = .error (.located 0 .unterminatedList)) := by
  have outcome : (readFirst {} "(a").outcome = .error (.located 0 .unterminatedList) := by rfl
  refine ⟨(failures_of_read {} "  ").2.2.mpr (by simp), outcome, ?_⟩
  rcases ((failures_of_read {} "(a").2.1 _ outcome).1 with fails | missing
  · exact fails
  · cases missing

/-! ## Too many digits -/

theorem readAll_zeros (options : Options) {count : Nat} (many : Text.digitLimit < count) :
    (readAll options (String.ofList (List.replicate count '0'))).outcome =
      .error (.tooManyDigits count) := by
  rw [readAll_eq_error_iff, Reading.outcome_catching_eq_error_iff, String.toList_ofList]
  refine ⟨.tooManyDigits count, ?_, rfl⟩
  have zeros : Numeral.read 0 (List.replicate count '0') = .error (.tooManyDigits count) :=
    Numeral.read_zeros many
  cases count with
  | zero => exact absurd many (Nat.not_lt_zero _)
  | succ count =>
      have accepted : ∀ c ∈ List.replicate count '0', RunKind.number.accepts c = true := by
        intro c membership
        obtain rfl := List.eq_of_mem_replicate membership
        rfl
      have opening : opening? 0 '0' = some (.run .number 0 ['0']) := rfl
      have read : advance options .all ⟨.run .number 0 ['0'], [], []⟩ 1
          (List.replicate count '0' ++ []) = _ := advance_run accepted
      rw [List.append_nil] at read
      rw [List.replicate_succ] at zeros ⊢
      rw [State.initial, advance_start (by simp) opening, read, advance, State.conclude,
        State.settle]
      simp only [Option.any_none, Bool.false_eq_true, if_false, List.reverse_append,
        List.reverse_reverse, List.reverse_singleton, List.singleton_append, RunKind.denoted,
        zeros, atEnd]

/-- A failure of no family escapes. -/
theorem exists_readAll_failure_without_kind :
    ∃ failure, (readAll {} (String.ofList (List.replicate 4301 '0'))).outcome = .error failure ∧
      failure.kind? = none :=
  ⟨.tooManyDigits 4301, readAll_zeros {} (by decide), rfl⟩

end Sexpr.Reader
