import Sexpr.Proofs.Reader.Step
import Sexpr.Reader.Basic

/-!
Reading as a passage through the text and a conclusion at its end.

`pass` takes characters and never looks at how the text ends, so all that it does is kept when
text is added at the end.  What a lenient reader does differently is a matter of the conclusion.
-/

namespace Sexpr.Reader

open State (Goal Settles Takes)

/-- The state after a whole text, or the reading that stops before its end. -/
def pass (options : Options) (goal : Goal) :
    State → Nat → List Char → Except (Reading (List Form)) State
  | state, _, [] => .ok state
  | state, offset, c :: rest =>
      match state.move options goal offset c with
      | .stop outcome => .error ⟨outcome, [], ⟨offset, c :: rest⟩⟩
      | .go taken => pass options goal taken (offset + 1) rest

section Passage

variable {options : Options} {goal : Goal} {state final : State} {offset : Nat}

theorem pass_cons_eq_ok_iff {c : Char} {rest : List Char} :
    pass options goal state offset (c :: rest) = .ok final ↔
      ∃ taken, state.move options goal offset c = .go taken ∧
        pass options goal taken (offset + 1) rest = .ok final := by
  cases moved : state.move options goal offset c <;> simp [pass, moved]

/-- What every step keeps is kept by a passage. -/
theorem pass_induct {motive : Nat → State → Prop}
    (step : ∀ {offset c state taken}, motive offset state →
      state.move options goal offset c = .go taken → motive (offset + 1) taken)
    {text : List Char} (begun : motive offset state)
    (passed : pass options goal state offset text = .ok final) :
    motive (offset + text.length) final := by
  induction text generalizing state offset with
  | nil =>
      cases passed
      exact begun
  | cons c rest inductionHypothesis =>
      obtain ⟨taken, moved, passed⟩ := pass_cons_eq_ok_iff.mp passed
      have kept := inductionHypothesis (step begun moved) passed
      rwa [List.length_cons, Nat.add_comm rest.length, ← Nat.add_assoc]

theorem advance_of_stop {text : List Char} {reading : Reading (List Form)}
    (stopped : pass options goal state offset text = .error reading) :
    advance options goal state offset text = reading := by
  induction text generalizing state offset with
  | nil => cases stopped
  | cons c rest inductionHypothesis =>
      cases moved : state.move options goal offset c with
      | stop outcome =>
          simp only [pass, moved, Except.error.injEq] at stopped
          simp only [advance, moved, stopped]
      | go taken =>
          simp only [pass, moved] at stopped
          simp only [advance, moved, inductionHypothesis stopped]

theorem advance_append {text : List Char} (rest : List Char)
    (passed : pass options goal state offset text = .ok final) :
    advance options goal state offset (text ++ rest) =
      advance options goal final (offset + text.length) rest := by
  induction text generalizing state offset with
  | nil =>
      cases passed
      rfl
  | cons c text inductionHypothesis =>
      obtain ⟨taken, moved, passed⟩ := pass_cons_eq_ok_iff.mp passed
      simp only [List.cons_append, advance, moved, inductionHypothesis passed,
        List.length_cons, Nat.add_assoc, Nat.add_comm 1]

theorem advance_of_pass {text : List Char}
    (passed : pass options goal state offset text = .ok final) :
    advance options goal state offset text =
      atEnd (offset + text.length) (final.conclude options) := by
  simpa [advance] using advance_append [] passed

/-- What the next character brings about may be done in advance. -/
theorem advance_settle {settled : State} {text : List Char}
    (settles : Settles options text.head? state settled) :
    advance options goal state offset text = advance options goal settled offset text := by
  have first := State.settle_eq_ok_iff.mpr settles
  have second := State.settle_eq_ok_iff.mpr settles.settled
  cases text with
  | nil =>
      rw [List.head?_nil] at first second
      simp only [advance, State.conclude, first, second]
  | cons c rest =>
      rw [List.head?_cons] at first second
      simp only [advance, State.move, first, second]

/-- What the next character brings about may be a failure, which leaves the character. -/
theorem advance_of_unsettled {text : List Char} {failure : Failure}
    (unsettled : state.settle options text.head? = .error failure) :
    advance options goal state offset text = ⟨.error failure, [], ⟨offset, text⟩⟩ := by
  cases text with
  | nil =>
      rw [List.head?_nil] at unsettled
      simp only [advance, State.conclude, unsettled, atEnd]
  | cons c rest =>
      rw [List.head?_cons] at unsettled
      simp only [advance, State.move, unsettled]

theorem advance_take {c : Char} {rest : List Char} {taken : State}
    (settles : Settles options (some c) state state)
    (incomplete : ¬(goal = .one ∧ state.isComplete = true))
    (takes : Takes goal offset c state taken) :
    advance options goal state offset (c :: rest) =
      advance options goal taken (offset + 1) rest := by
  have moved := State.move_eq_go_iff.mpr ⟨state, settles, incomplete, takes⟩
  simp only [advance, moved]

theorem advance_nil_eq_ok_iff {forms : List Form} :
    (advance options goal state offset []).outcome = .ok forms ↔
      ∃ notices, state.conclude options = .ok (notices, forms) := by
  simp only [advance]
  cases state.conclude options with
  | error failure => simp [atEnd]
  | ok result => simp [atEnd, Prod.ext_iff]

theorem advance_cons_eq_ok_iff {c : Char} {rest : List Char} {forms : List Form} :
    (advance options .all state offset (c :: rest)).outcome = .ok forms ↔
      ∃ taken, state.move options .all offset c = .go taken ∧
        (advance options .all taken (offset + 1) rest).outcome = .ok forms := by
  cases moved : state.move options .all offset c with
  | stop stopped =>
      obtain ⟨failure, rfl⟩ := State.exists_error_of_stop moved
      simp [advance, moved]
  | go taken => simp [advance, moved]

/-- What holds at the end of a text that is read, and before a character if it holds after, holds
of every text that is read. -/
theorem advance_induct {motive : State → List Char → Prop} {forms : List Form}
    (conclude : ∀ {state notices}, State.conclude options state = .ok (notices, forms) →
      motive state [])
    (step : ∀ {state offset c taken rest}, State.move options .all offset c state = .go taken →
      motive taken rest → motive state (c :: rest))
    {text : List Char} (outcome : (advance options .all state offset text).outcome = .ok forms) :
    motive state text := by
  induction text generalizing state offset with
  | nil =>
      obtain ⟨notices, concluded⟩ := advance_nil_eq_ok_iff.mp outcome
      exact conclude concluded
  | cons c rest inductionHypothesis =>
      obtain ⟨taken, moved, outcome⟩ := advance_cons_eq_ok_iff.mp outcome
      exact step moved (inductionHypothesis outcome)

end Passage

section Strictness

variable (maxDepth : Nat) (strict : Bool) {room : Room} (closing : Nat)

theorem State.settle_closing (next : Option Char) (state : State) :
    state.settle ⟨maxDepth, strict, ⟨room.reading, closing⟩⟩ next =
      state.settle ⟨maxDepth, true, room⟩ next := by
  rcases state with ⟨_ | _ | _ | _ | _, frames, forms⟩ <;> rfl

theorem State.move_closing (goal : Goal) (offset : Nat) (c : Char) (state : State) :
    state.move ⟨maxDepth, strict, ⟨room.reading, closing⟩⟩ goal offset c =
      state.move ⟨maxDepth, true, room⟩ goal offset c := by
  simp only [State.move, State.settle_closing maxDepth strict closing]

/-- Strictness and the room for closing do not matter before the end of the text. -/
theorem pass_closing (goal : Goal) (state : State) (offset : Nat) (text : List Char) :
    pass ⟨maxDepth, strict, ⟨room.reading, closing⟩⟩ goal state offset text =
      pass ⟨maxDepth, true, room⟩ goal state offset text := by
  induction text generalizing state offset with
  | nil => rfl
  | cons c rest inductionHypothesis =>
      simp only [pass, State.move_closing maxDepth strict closing, inductionHypothesis]

theorem State.settle_strict (next : Option Char) (state : State) :
    state.settle ⟨maxDepth, strict, room⟩ next = state.settle ⟨maxDepth, true, room⟩ next :=
  State.settle_closing maxDepth strict room.closing next state

theorem pass_strict (goal : Goal) (state : State) (offset : Nat) (text : List Char) :
    pass ⟨maxDepth, strict, room⟩ goal state offset text =
      pass ⟨maxDepth, true, room⟩ goal state offset text :=
  pass_closing maxDepth strict room.closing goal state offset text

end Strictness

/-- A reading with another result. -/
def Reading.map {α β : Type} (f : α → β) (reading : Reading α) : Reading β :=
  ⟨reading.outcome.map f, reading.notices, reading.cursor⟩

section Catching

variable {α : Type} {reading : Reading α}

@[simp]
theorem Reading.notices_catching (reading : Reading α) :
    reading.catching.notices = reading.notices :=
  rfl

theorem Reading.catching_of_ok {value : α} (outcome : reading.outcome = .ok value) :
    reading.catching = reading := by
  rcases reading with ⟨_ | _, notices, cursor⟩
  · cases outcome
  · rfl

theorem Reading.catching_of_error {failure : Failure} (outcome : reading.outcome = .error failure) :
    reading.catching =
      ⟨.error (failure.caught reading.cursor.offset), reading.notices, reading.cursor⟩ := by
  rcases reading with ⟨_ | _, notices, cursor⟩
  · cases outcome
    rfl
  · cases outcome

@[simp]
theorem Reading.outcome_catching_eq_ok_iff {value : α} :
    reading.catching.outcome = .ok value ↔ reading.outcome = .ok value := by
  cases outcome : reading.outcome with
  | error failure => simp [catching_of_error outcome]
  | ok found => rw [catching_of_ok outcome, outcome]

theorem Reading.outcome_catching_eq_error_iff {failure : Failure} :
    reading.catching.outcome = .error failure ↔
      ∃ raised, reading.outcome = .error raised ∧
        raised.caught reading.cursor.offset = failure := by
  cases outcome : reading.outcome with
  | error raised => simp [catching_of_error outcome]
  | ok found => simp [catching_of_ok outcome, outcome]

theorem Reading.catching_map {β : Type} (f : α → β) (reading : Reading α) :
    (reading.map f).catching = reading.catching.map f := by
  rcases reading with ⟨_ | _, notices, cursor⟩ <;> rfl

end Catching

theorem readAll_eq (options : Options) (text : String) :
    readAll options text =
      (advance options .all State.initial 0 text.toList).catching.map
        fun forms => .list forms.reverse := by
  simp only [readAll, Method.read, Method.place, Method.goal, Method.scan, Method.report,
    Reading.map, State.initial]
  cases outcome : (advance options .all ⟨.gap, [], []⟩ 0 text.toList).catching.outcome with
  | error failure => rfl
  | ok forms => simp [Method.choose, Except.map]

theorem readAll_eq_ok_iff {options : Options} {text : String} {form : Form} :
    (readAll options text).outcome = .ok form ↔
      ∃ forms, form = .list forms ∧
        (advance options .all State.initial 0 text.toList).outcome = .ok forms.reverse := by
  rw [readAll_eq]
  generalize advance options .all State.initial 0 text.toList = reading
  have same (forms : List Form) := @Reading.outcome_catching_eq_ok_iff _ reading forms
  simp only [Reading.map, ← same]
  cases reading.catching.outcome with
  | error failure => simp [Except.map]
  | ok read =>
      simp only [Except.map, Except.ok.injEq]
      constructor
      · intro equality
        exact ⟨read.reverse, equality.symm, read.reverse_reverse.symm⟩
      · rintro ⟨forms, rfl, rfl⟩
        rw [List.reverse_reverse]

theorem readAll_eq_error_iff {options : Options} {text : String} {failure : Failure} :
    (readAll options text).outcome = .error failure ↔
      (advance options .all State.initial 0 text.toList).catching.outcome = .error failure := by
  rw [readAll_eq]
  simp only [Reading.map]
  cases (advance options .all State.initial 0 text.toList).catching.outcome <;> simp [Except.map]

theorem readAll_eq_error_located_iff {options : Options} {text : String} {offset : Nat}
    {complaint : Complaint} :
    (readAll options text).outcome = .error (.located offset complaint) ↔
      (advance options .all State.initial 0 text.toList).outcome =
        .error (.located offset complaint) := by
  rw [readAll_eq_error_iff, Reading.outcome_catching_eq_error_iff]
  constructor
  · rintro ⟨_ | _ | _ | _, outcome, caught⟩ <;> cases caught
    exact outcome
  · intro outcome
    exact ⟨_, outcome, rfl⟩

theorem readFirst_of_advance {options : Options} {text : String} {form : Form}
    {notices : List Notice} {cursor : Cursor}
    (read : advance options .all .initial 0 text.toList = ⟨.ok [form], notices, cursor⟩) :
    readFirst options text = ⟨.ok form, notices, cursor⟩ := by
  simp only [readFirst, Method.read, Method.place, Method.goal, Method.scan, Method.report]
  rw [← State.initial, read, Reading.catching_of_ok rfl]
  simp [Method.choose]

theorem exists_of_readFirst {options : Options} {text : String} {form : Form}
    (outcome : (readFirst options text).outcome = .ok form) :
    ∃ forms, (advance options .all .initial 0 text.toList).outcome = .ok forms ∧
      form ∈ forms := by
  simp only [readFirst, Method.read, Method.place, Method.goal, Method.scan, Method.report]
    at outcome
  rw [← State.initial] at outcome
  cases read : (advance options .all .initial 0 text.toList).catching.outcome with
  | error failure =>
      rw [read] at outcome
      cases outcome
  | ok forms =>
      rw [read] at outcome
      refine ⟨forms, Reading.outcome_catching_eq_ok_iff.mp read, List.mem_reverse.mp ?_⟩
      dsimp only at outcome
      generalize forms.reverse = inOrder at outcome ⊢
      rcases inOrder with _ | ⟨first, _ | ⟨second, others⟩⟩
      · cases outcome
      · cases outcome
        exact List.mem_cons_self
      · cases outcome
        exact List.mem_cons_self

end Sexpr.Reader
