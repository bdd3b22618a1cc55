import Sexpr.Proofs.Reader.Recovery
import Sexpr.Proofs.Reader.Shift

/-!
The text that is not looked at.

A reader that stops before the end of the text has looked at one character that it leaves.  What
follows that character has no part in what it returns, where it stops or what it says.
-/

namespace Sexpr

theorem Failure.placeText_congr {text other : List Char} {offset : Nat}
    (same : other.take offset = text.take offset) :
    placeText other offset = placeText text offset := by
  unfold placeText Text.Location.ofOffset
  rw [same]

/-- The message of a failure depends on the text before its place only. -/
theorem Failure.message_congr {text other : List Char} {failure : Failure}
    (same : ∀ place, failure.offset? = some place → other.take place = text.take place) :
    failure.message other = failure.message text := by
  unfold message
  cases failure with
  | located offset complaint | nestingExhausted offset =>
      have before : other.take offset = text.take offset := same offset (by rw [offset?])
      dsimp only
      rw [placeText_congr before]
  | stackExhausted => dsimp only
  | tooManyDigits count => dsimp only

theorem Failure.offset?_caught {failure : Failure} {offset place : Nat}
    (located : (failure.caught offset).offset? = some place) :
    failure.offset? = some place ∨ place = offset := by
  cases failure with
  | stackExhausted => exact .inr (Option.some.inj located).symm
  | located | nestingExhausted | tooManyDigits => exact .inl located

end Sexpr

namespace Sexpr.Reader

open State (Goal)

/-! ## The places of failures -/

namespace State

/-- Nothing that is open starts after an offset. -/
def StartsBy (offset : Nat) (state : State) : Prop := ∀ start ∈ state.starts, start ≤ offset

theorem StartsBy.move {options : Options} {goal : Goal} {offset : Nat} {c : Char}
    {state taken : State} (starts : state.StartsBy offset)
    (moved : state.move options goal offset c = .go taken) : taken.StartsBy (offset + 1) := by
  intro start membership
  rcases List.mem_cons.mp ((starts_sublist_of_go moved).subset membership) with rfl | before
  · exact Nat.le_succ start
  · exact Nat.le_succ_of_le (starts start before)

theorem SettleFails.place_mem_starts {options : Options} {next : Option Char} {state : State}
    {failure : Failure} (fails : SettleFails options next state failure) {place : Nat}
    (located : failure.offset? = some place) : place ∈ state.starts := by
  cases fails with
  | tooDeep opens =>
      cases located
      rcases opens with rfl | rfl <;> exact List.mem_cons_self
  | exhausted => cases located
  | quote =>
      cases located
      exact List.mem_cons_self
  | run ends fails =>
      cases fails with
      | digits written areDigits few many => cases located
      | number | keyword | special =>
          cases located
          exact List.mem_cons_self

theorem StartsBy.place_le {options : Options} {goal : Goal} {offset : Nat} {c : Char}
    {state : State} {failure : Failure} (starts : state.StartsBy offset)
    (stopped : state.move options goal offset c = .stop (.error failure)) {place : Nat}
    (located : failure.offset? = some place) : place ≤ offset := by
  rcases fails_of_stop stopped with fails | ⟨settled, _, fails⟩
  · exact starts place (fails.place_mem_starts located)
  · cases fails with
    | close | start =>
        cases located
        apply Nat.le_refl

end State

/-! ## Stopping before a character -/

/-- Reading takes some characters and stops before another one with an outcome, whatever follows. -/
structure Stops {α : Type} (read : List Char → Reading α) (offset : Nat) (front : List Char)
    (c : Char) (outcome : Except Failure α) : Prop where
  reads : ∀ more, read (front ++ c :: more) = ⟨outcome, [], ⟨offset + front.length, c :: more⟩⟩
  place_le : ∀ failure place, outcome = .error failure → failure.offset? = some place →
    place ≤ offset + front.length

section Stopping

variable {options : Options} {goal : Goal} {state : State} {offset : Nat}

theorem pass_or_stops (options : Options) (goal : Goal) (state : State) (offset : Nat)
    (text : List Char) :
    (∃ final, pass options goal state offset text = .ok final) ∨
      ∃ front c rest final outcome, text = front ++ c :: rest ∧
        pass options goal state offset front = .ok final ∧
        final.move options goal (offset + front.length) c = .stop outcome := by
  induction text generalizing state offset with
  | nil => exact .inl ⟨state, rfl⟩
  | cons c rest inductionHypothesis =>
      cases moved : state.move options goal offset c with
      | stop outcome => exact .inr ⟨[], c, rest, state, outcome, rfl, rfl, moved⟩
      | go taken =>
          rcases inductionHypothesis taken (offset + 1) with
            ⟨final, passed⟩ | ⟨front, d, later, final, outcome, rfl, passed, stopped⟩
          · exact .inl ⟨final, pass_cons_eq_ok_iff.mpr ⟨taken, moved, passed⟩⟩
          · refine .inr ⟨c :: front, d, later, final, outcome, rfl,
              pass_cons_eq_ok_iff.mpr ⟨taken, moved, passed⟩, ?_⟩
            rw [List.length_cons, Nat.add_comm front.length, ← Nat.add_assoc]
            exact stopped

theorem stops_of_pass {front : List Char} {c : Char} {final : State}
    {outcome : Except Failure (List Form)} (starts : state.StartsBy offset)
    (passed : pass options goal state offset front = .ok final)
    (stopped : final.move options goal (offset + front.length) c = .stop outcome) :
    Stops (advance options goal state offset) offset front c outcome where
  reads more := by
    rw [advance_append _ passed]
    simp only [advance, stopped]
  place_le failure place fails located := by
    subst fails
    have kept : final.StartsBy (offset + front.length) :=
      pass_induct (motive := fun offset state => state.StartsBy offset) State.StartsBy.move starts
        passed
    exact kept.place_le stopped located

theorem advance_cases (options : Options) (goal : Goal) (starts : state.StartsBy offset)
    (text : List Char) :
    (advance options goal state offset text).cursor = ⟨offset + text.length, []⟩ ∨
      ∃ front c rest outcome, text = front ++ c :: rest ∧
        Stops (advance options goal state offset) offset front c outcome ∧
        (goal = .all → ∃ failure, outcome = .error failure) := by
  rcases pass_or_stops options goal state offset text with
    ⟨final, passed⟩ | ⟨front, c, rest, final, outcome, rfl, passed, stopped⟩
  · left
    rw [advance_of_pass passed]
    cases final.conclude options <;> rfl
  · refine .inr ⟨front, c, rest, outcome, rfl, stops_of_pass starts passed stopped, ?_⟩
    rintro rfl
    exact State.exists_error_of_stop stopped

end Stopping

namespace Method

theorem startsBy_scan (offset : Nat) (method : Method) :
    State.StartsBy offset ⟨method.scan offset, [], []⟩ := by
  cases method <;> simp [State.StartsBy, State.starts, scan, Scan.starts]

theorem place_cases (method : Method) :
    (∀ cursor, method.place cursor = cursor) ∨ ∀ cursor, method.place cursor = cursor.next := by
  cases method with
  | string | list | quote => exact .inr fun _ => rfl
  | form | run | all | first => exact .inl fun _ => rfl

theorem choose_error {forms : List Form} {offset : Nat} {method : Method} {failure : Failure}
    (fails : (method.choose forms offset).1 = .error failure) : failure.offset? = some offset := by
  cases method <;> rcases forms with _ | ⟨first, _ | ⟨second, others⟩⟩ <;> cases fails <;> rfl

theorem notices_choose {method : Method} (single : method.goal = .one) (forms : List Form)
    (offset : Nat) : (method.choose forms offset).2 = [] := by
  cases method with
  | all | first => cases single
  | _ => cases forms <;> rfl

theorem cursor_report (method : Method) (reading : Reading (List Form)) :
    (method.report reading).cursor = reading.cursor := by
  cases method <;> rfl

theorem cursor_answer (method : Method) (reading : Reading (List Form)) :
    (method.answer reading).cursor = reading.cursor := by
  unfold answer
  cases reading.outcome <;> dsimp only

end Method

theorem Stops.catching {α : Type} {read : List Char → Reading α} {offset : Nat}
    {front : List Char} {c : Char} {outcome : Except Failure α}
    (stops : Stops read offset front c outcome) :
    Stops (fun text => (read text).catching) offset front c
      (outcome.mapError (Failure.caught (offset + front.length))) where
  reads more := by
    rw [stops.reads]
    rfl
  place_le failure place fails located := by
    cases outcome with
    | error raised =>
        cases fails
        rcases Failure.offset?_caught located with earlier | rfl
        · exact stops.place_le raised place rfl earlier
        · apply Nat.le_refl
    | ok value => cases fails

/-- Reporting where the stack ran out does not change where a method stops. -/
theorem Stops.report {method : Method} {read : List Char → Reading (List Form)} {offset : Nat}
    {front : List Char} {c : Char} {outcome : Except Failure (List Form)}
    (stops : Stops read offset front c outcome)
    (fails : method.goal = .all → ∃ failure, outcome = .error failure) :
    ∃ reported, Stops (fun text => method.report (read text)) offset front c reported ∧
      (method.goal = .all → ∃ failure, reported = .error failure) := by
  cases method with
  | all | first =>
      refine ⟨_, stops.catching, fun goal => ?_⟩
      obtain ⟨failure, rfl⟩ := fails goal
      exact ⟨_, rfl⟩
  | form | run | string | list | quote => exact ⟨outcome, stops, fails⟩

theorem Stops.answer {method : Method} {read : List Char → Reading (List Form)} {offset : Nat}
    {front : List Char} {c : Char} {outcome : Except Failure (List Form)}
    (stops : Stops read offset front c outcome)
    (fails : method.goal = .all → ∃ failure, outcome = .error failure) :
    ∃ answered, Stops (fun text => method.answer (read text)) offset front c answered := by
  cases outcome with
  | error failure =>
      refine ⟨.error failure, fun more => ?_, ?_⟩
      · rw [stops.reads, Method.answer]
      · intro other place same
        cases same
        exact stops.place_le failure place rfl
  | ok forms =>
      -- Whatever reads to the end of the text stops before it only to fail.
      have single : method.goal = .one := by
        cases goal : method.goal with
        | one => rfl
        | all =>
            obtain ⟨failure, impossible⟩ := fails goal
            cases impossible
      refine ⟨(method.choose forms.reverse (offset + front.length)).1, fun more => ?_, ?_⟩
      · rw [stops.reads, Method.answer]
        dsimp only
        rw [Method.notices_choose single, List.append_nil]
      · intro failure place chosen located
        rw [Method.choose_error chosen] at located
        cases located
        apply Nat.le_refl

theorem Stops.cons {α : Type} {read after : List Char → Reading α} {offset : Nat}
    {front : List Char} {c d : Char} {outcome : Except Failure α}
    (stops : Stops after (offset + 1) front c outcome)
    (skips : ∀ text, read (d :: text) = after text) :
    Stops read offset (d :: front) c outcome := by
  have place : offset + (d :: front).length = offset + 1 + front.length := by
    rw [List.length_cons]
    omega
  constructor
  · intro more
    rw [List.cons_append, skips, stops.reads, place]
  · rw [place]
    exact stops.place_le

/-- A method reads to the end of the text, or stops before a character whatever follows that. -/
theorem Method.read_cases (options : Options) (method : Method) (cursor : Cursor) :
    (method.read options cursor).cursor.offset = cursor.offset + cursor.rest.length ∨
      ∃ front c rest outcome, cursor.rest = front ++ c :: rest ∧
        Stops (fun text => method.read options ⟨cursor.offset, text⟩) cursor.offset front c
          outcome := by
  have starts := method.startsBy_scan cursor.offset
  rcases cursor with ⟨offset, text⟩
  rcases method.place_cases with stays | skips
  · rcases advance_cases options method.goal starts text with
      ended | ⟨front, c, rest, outcome, rfl, stops, fails⟩
    · left
      rw [read_eq_answer, cursor_answer, cursor_report, stays, ended]
    · obtain ⟨reported, stops, fails⟩ := stops.report fails
      obtain ⟨answered, stops⟩ := stops.answer fails
      refine .inr ⟨front, c, rest, answered, rfl, ?_⟩
      simpa only [read_eq_answer, stays] using stops
  -- The first character is taken unseen, so reading begins one place on, unless the text is empty.
  · have later : State.StartsBy (offset + 1) ⟨method.scan offset, [], []⟩ :=
      fun start membership => Nat.le_succ_of_le (starts start membership)
    cases text with
    | nil =>
        left
        rw [read_eq_answer, cursor_answer, cursor_report, skips]
        dsimp only [Cursor.next]
        rcases advance_cases options method.goal starts [] with
          ended | ⟨front, c, rest, outcome, empty, _⟩
        · rw [ended]
        · cases List.append_eq_nil_iff.mp empty.symm |>.2
    | cons d text =>
        rcases advance_cases options method.goal later text with
          ended | ⟨front, c, rest, outcome, rfl, stops, fails⟩
        · left
          rw [read_eq_answer, cursor_answer, cursor_report, skips]
          dsimp only [Cursor.next]
          rw [ended, List.length_cons]
          dsimp only
          omega
        · obtain ⟨reported, stops, fails⟩ := stops.report fails
          obtain ⟨answered, stops⟩ := stops.answer fails
          refine .inr ⟨d :: front, c, rest, answered, rfl, stops.cons fun text => ?_⟩
          rw [read_eq_answer, skips]
          dsimp only [Cursor.next]

theorem exists_drop_eq_append {text other front rest : List Char} {c : Char} {offset : Nat}
    (splits : text.drop offset = front ++ c :: rest)
    (same : other.take (offset + front.length + 1) = text.take (offset + front.length + 1)) :
    ∃ more, other.drop offset = front ++ c :: more := by
  have begins : (other.drop offset).take (front.length + 1) = front ++ [c] := by
    rw [List.take_drop, ← Nat.add_assoc, same, Nat.add_assoc, ← List.take_drop, splits,
      List.take_length_add_append, List.take_succ_cons, List.take_zero]
  refine ⟨(other.drop offset).drop (front.length + 1), ?_⟩
  rw [List.append_cons, ← begins, List.take_append_drop]

/-- A method that stops before a character does so whatever follows that character: it comes to the
same, in the same words, and has nothing to report. -/
theorem Method.read_lookahead (options : Options) (method : Method) {text other : String}
    {offset place : Nat}
    (stops : (method.read options (.ofOffset text.toList offset)).cursor.offset = place)
    (within : place < text.length)
    (same : other.toList.take (place + 1) = text.toList.take (place + 1)) :
    let reading := method.read options (.ofOffset text.toList offset)
    let again := method.read options (.ofOffset other.toList offset)
    again.outcome = reading.outcome ∧
      (∀ failure, reading.outcome = .error failure →
        failure.message other.toList = failure.message text.toList) ∧
      again.cursor.offset = place ∧ reading.notices = [] ∧ again.notices = [] := by
  rcases method.read_cases options (.ofOffset text.toList offset) with
    ended | ⟨front, c, rest, outcome, splits, read⟩
  · rw [stops, Cursor.ofOffset, List.length_drop] at ended
    rw [← String.length_toList] at within
    dsimp only at ended
    omega
  · dsimp only [Cursor.ofOffset] at splits stops read ⊢
    rw [splits, read.reads] at stops
    cases stops
    obtain ⟨more, splitsOther⟩ := exists_drop_eq_append splits same
    rw [splits, splitsOther, read.reads, read.reads]
    refine ⟨rfl, ?_, rfl, rfl, rfl⟩
    intro failure fails
    apply Failure.message_congr
    intro start located
    have before : start ≤ offset + front.length + 1 :=
      Nat.le_succ_of_le (read.place_le failure start fails located)
    rw [← Nat.min_eq_left before, ← List.take_take, same, List.take_take]

theorem Method.read_lookahead_sign :
    let reading := (Method.run .number).read {} (.ofOffset "(-)".toList 1)
    let again := (Method.run .number).read {} (.ofOffset "(-) 12".toList 1)
    reading.outcome = .error (.located 1 (.malformedNumber ['-'])) ∧
      again.outcome = reading.outcome ∧ again.cursor.offset = 2 := by
  have stops : ((Method.run .number).read {} (.ofOffset "(-)".toList 1)).cursor.offset = 2 := by
    decide
  have same : "(-) 12".toList.take 3 = "(-)".toList.take 3 := rfl
  have alike := Method.read_lookahead {} (.run .number) stops (by decide) same
  exact ⟨rfl, alike.1, alike.2.2.1⟩

end Sexpr.Reader
