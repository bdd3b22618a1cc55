import Sexpr.Proofs.Reader.Recovery
import Sexpr.Proofs.Reader.Shift

/-!
Reading a text after another.

The forms outside of all frames are only ever added to, so a reader that already has some reads what
a new reader does and keeps them.  A text that is complete leaves it such a reader, since no run
goes on over a space.
-/

namespace Sexpr.Reader

open State (Settles deliver startForm takeInGap)

/-! ## Earlier forms -/

/-- A state that has some forms, the last one first, before its own. -/
def State.above (earlier : List Form) (state : State) : State :=
  ⟨state.scan, state.frames, state.forms ++ earlier⟩

def State.Move.above (earlier : List Form) : State.Move → State.Move
  | .stop outcome => .stop (outcome.map (· ++ earlier))
  | .go state => .go (state.above earlier)

def formsAbove (earlier : List Form) (finished : List Notice × List Form) :
    List Notice × List Form :=
  (finished.1, finished.2 ++ earlier)

namespace State

variable (earlier : List Form)

theorem deliver_above (form : Form) (frames : List Frame) (forms : List Form) :
    deliver form frames (forms ++ earlier) = (deliver form frames forms).above earlier := by
  induction frames generalizing form with
  | nil => rfl
  | cons frame frames inductionHypothesis =>
      cases frame with
      | list start items => rfl
      | quote start => exact inductionHypothesis form.quote

theorem enter_above (options : Options) (start : Nat) (frame : Frame) (state : State) :
    (state.above earlier).enter options start frame =
      (state.enter options start frame).map (above earlier) := by
  dsimp only [enter, above]
  split
  next => rfl
  next => split <;> rfl

theorem settle_above (options : Options) (next : Option Char) (state : State) :
    (state.above earlier).settle options next =
      (state.settle options next).map (above earlier) := by
  rcases state with ⟨scan, frames, forms⟩
  cases scan with
  | gap => rfl
  | string start taken => rfl
  | opened start => exact enter_above earlier options start (.list start []) _
  | quoted start =>
      have entered :=
        enter_above earlier options start (.quote start) ⟨.quoted start, frames, forms⟩
      simp only [settle, above] at entered ⊢
      split
      next => exact entered
      next => rfl
  | run kind start taken =>
      simp only [settle, above]
      split
      next => rfl
      next =>
        cases kind.denoted start taken.reverse with
        | error failure => rfl
        | ok atom => exact congrArg Except.ok (deliver_above earlier (.leaf atom) frames forms)

theorem startForm_above (offset : Nat) (c : Char) (state : State) :
    startForm offset c (state.above earlier) =
      (startForm offset c state).map (above earlier) := by
  unfold startForm
  cases opening? offset c <;> rfl

theorem takeInGap_above (offset : Nat) (c : Char) (state : State) :
    takeInGap .all offset c (state.above earlier) =
      (takeInGap .all offset c state).map (above earlier) := by
  have starts := startForm_above earlier offset c state
  rcases state with ⟨scan, frames, forms⟩
  rcases frames with _ | ⟨⟨start, items⟩ | start, frames⟩
  · simp only [takeInGap, above] at starts ⊢
    split
    next => rfl
    next =>
      split
      next => rfl
      next => exact starts
  · simp only [takeInGap, above] at starts ⊢
    split
    next => rfl
    next =>
      split
      next => exact congrArg Except.ok (deliver_above earlier (.list items.reverse) frames forms)
      next => exact starts
  · exact starts

theorem take_above (offset : Nat) (c : Char) (state : State) :
    (state.above earlier).take .all offset c = (state.take .all offset c).map (above earlier) := by
  have inGap := takeInGap_above earlier offset c state
  rcases state with ⟨scan, frames, forms⟩
  cases scan with
  | gap => exact inGap
  | opened start => exact inGap
  | quoted start => exact inGap
  | run kind start taken => rfl
  | string start taken =>
      simp only [take, above]
      split
      next => exact congrArg Except.ok (deliver_above earlier _ frames forms)
      next => rfl

theorem move_above (options : Options) (offset : Nat) (c : Char) (state : State) :
    (state.above earlier).move options .all offset c =
      (state.move options .all offset c).above earlier := by
  unfold move
  rw [settle_above]
  cases state.settle options (some c) with
  | error failure => rfl
  | ok settled =>
      simp only [Except.map, reduceCtorEq, false_and, if_false, take_above]
      cases settled.take .all offset c <;> rfl

theorem closeAtEnd_above (options : Options) (refusal : Failure) (notice : Notice) (form : Form)
    (frames : List Frame) (forms : List Form) :
    closeAtEnd options refusal notice form frames (forms ++ earlier) =
      (closeAtEnd options refusal notice form frames forms).map (formsAbove earlier) := by
  unfold closeAtEnd
  split
  next => rfl
  next => split <;> rfl

theorem finish_above (options : Options) (state : State) :
    (state.above earlier).finish options =
      (state.finish options).map (formsAbove earlier) := by
  rcases state with ⟨scan, frames, forms⟩
  cases scan with
  | string start taken =>
      exact closeAtEnd_above earlier options _ _ _ frames forms
  | _ =>
      rcases frames with _ | ⟨⟨start, items⟩ | start, frames⟩
      · rfl
      · exact closeAtEnd_above earlier options _ _ _ frames forms
      · rfl

theorem conclude_above (options : Options) (state : State) :
    (state.above earlier).conclude options =
      (state.conclude options).map (formsAbove earlier) := by
  unfold conclude
  rw [settle_above]
  cases state.settle options none with
  | error failure => rfl
  | ok settled => exact finish_above earlier options settled

end State

/-- What is read does not depend on the forms that were read before. -/
theorem advance_above (earlier : List Form) (options : Options) (state : State) (offset : Nat)
    (text : List Char) :
    advance options .all (state.above earlier) offset text =
      (advance options .all state offset text).map (· ++ earlier) := by
  induction text generalizing state offset with
  | nil =>
      simp only [advance, State.conclude_above]
      cases state.conclude options <;> rfl
  | cons c rest inductionHypothesis =>
      simp only [advance, State.move_above]
      cases state.move options .all offset c with
      | stop outcome => rfl
      | go taken => exact inductionHypothesis taken (offset + 1)

/-! ## Complete texts -/

theorem State.settles_of_conclude {maxDepth : Nat} {room : Room} {state : State}
    {notices : List Notice} {forms : List Form} (concluded : state.conclude ⟨maxDepth, true, room⟩ = .ok (notices, forms)) :
    Settles ⟨maxDepth, true, room⟩ none state ⟨.gap, [], forms⟩ := by
  unfold conclude at concluded
  split at concluded
  next => cases concluded
  next settled outcome =>
    have settles := settle_eq_ok_iff.mp outcome
    rcases settled with ⟨scan, frames, others⟩
    rcases settles.scan_atEnd with gap | ⟨start, taken, string⟩
    · cases gap
      rcases frames with _ | ⟨⟨start, items⟩ | start, frames⟩
      · cases concluded
        exact settles
      · cases concluded
      · cases concluded
    · cases string
      cases concluded

/-- A reader of a complete text, whether it is strict or not, has the forms of that text when it
comes to a space. -/
theorem advance_space {maxDepth : Nat} {room : Room} {front : List Char} {forms : List Form}
    (complete : (advance ⟨maxDepth, true, room⟩ .all .initial 0 front).outcome = .ok forms)
    (strict : Bool) (back : List Char) :
    advance ⟨maxDepth, strict, room⟩ .all .initial 0 (front ++ ' ' :: back) =
      advance ⟨maxDepth, strict, room⟩ .all ⟨.gap, [], forms⟩ (front.length + 1) back := by
  cases passed : pass ⟨maxDepth, true, room⟩ .all .initial 0 front with
  | error reading =>
      obtain ⟨_, failure, fails, _⟩ := recovery?_of_pass passed
      rw [advance_of_stop passed, fails] at complete
      cases complete
  | ok final =>
      rw [advance_of_pass passed] at complete
      rw [← pass_strict maxDepth strict] at passed
      cases concluded : final.conclude ⟨maxDepth, true, room⟩ with
      | error failure =>
          rw [concluded] at complete
          cases complete
      | ok result =>
          rw [concluded] at complete
          cases complete
          have settled := State.settle_eq_ok_iff.mpr (State.settles_of_conclude concluded)
          rw [← State.settle_strict maxDepth strict] at settled
          have settles := State.settle_eq_ok_iff.mp settled
          -- No run goes on over a space, so it brings about what the end of the text does.
          have ends : ∀ kind, Grammar.EndsBefore kind (' ' :: back) := by
            intro kind
            cases kind <;> rfl
          rw [advance_append _ passed, advance_settle (settles.ofEnd ends),
            advance_take .gap (by simp) (.space rfl rfl), Nat.zero_add]

theorem advance_append_space {maxDepth : Nat} {room : Room} {front : List Char} {forms : List Form}
    (complete : (advance ⟨maxDepth, true, room⟩ .all .initial 0 front).outcome = .ok forms)
    (strict : Bool) (back : List Char) :
    advance ⟨maxDepth, strict, room⟩ .all .initial 0 (front ++ ' ' :: back) =
      ((advance ⟨maxDepth, strict, room⟩ .all .initial 0 back).shift (front.length + 1)).map
        (· ++ forms) := by
  have shifted := advance_shift ⟨maxDepth, strict, room⟩ .all (front.length + 1) .initial 0 back
  rw [Nat.zero_add] at shifted
  rw [advance_space complete, ← shifted]
  exact advance_above forms _ .initial _ back

/-- After a complete text and a space, every text is read as it is alone: its forms follow those
before, and the places of its notices, or of its failure, are as much further on. -/
theorem readAll_append_space {maxDepth : Nat} {room : Room} {front : String}
    {forms : List Form}
    (complete : (readAll ⟨maxDepth, true, room⟩ front).outcome = .ok (.list forms)) (strict : Bool)
    (back : String) :
    (∀ others, (readAll ⟨maxDepth, strict, room⟩ back).outcome = .ok (.list others) →
      (readAll ⟨maxDepth, strict, room⟩ (front ++ " " ++ back)).outcome =
          .ok (.list (forms ++ others)) ∧
        (readAll ⟨maxDepth, strict, room⟩ (front ++ " " ++ back)).notices =
          (readAll ⟨maxDepth, strict, room⟩ back).notices.map (Notice.shift (front.length + 1))) ∧
    (∀ failure, (readAll ⟨maxDepth, strict, room⟩ back).outcome = .error failure →
      ∃ later, (readAll ⟨maxDepth, strict, room⟩ (front ++ " " ++ back)).outcome = .error later ∧
        later.kind? = failure.kind? ∧
        later.offset? = failure.offset?.map (· + (front.length + 1))) := by
  obtain ⟨_, equality, complete⟩ := readAll_eq_ok_iff.mp complete
  cases equality
  have whole : (front ++ " " ++ back).toList = front.toList ++ ' ' :: back.toList := by simp
  have read := advance_append_space complete strict back.toList
  rw [← whole, String.length_toList] at read
  constructor
  · intro others outcome
    obtain ⟨_, equality, outcome⟩ := readAll_eq_ok_iff.mp outcome
    cases equality
    rw [readAll_eq, readAll_eq, read, Reading.catching_map, Reading.catching_shift,
      Reading.catching_of_ok outcome]
    constructor
    · simp only [Reading.map, Reading.shift, outcome]
      simp [Except.map, Except.mapError]
    · rfl
  · intro failure outcome
    have fails := readAll_eq_error_iff.mp outcome
    refine ⟨failure.shift (front.length + 1), ?_, failure.kind?_shift _, failure.offset?_shift _⟩
    rw [readAll_eq_error_iff, read, Reading.catching_map, Reading.catching_shift]
    simp only [Reading.map, Reading.shift, fails]
    rfl

theorem readAll_append_space_unterminated :
    (readAll ⟨2, true, {}⟩ "(a) 1").outcome =
        .ok (.list [.list [.leaf (.symbol "a")], .leaf (.int 1)]) ∧
      (readAll ⟨2, false, {}⟩ ("(a) 1" ++ " " ++ "'(b")).outcome =
        .ok (.list [.list [.leaf (.symbol "a")], .leaf (.int 1),
          .quote (.list [.leaf (.symbol "b")])]) ∧
      (readAll ⟨2, false, {}⟩ ("(a) 1" ++ " " ++ "'(b")).notices = [.closedList 7] ∧
      ∃ later, (readAll ⟨2, true, {}⟩ ("(a) 1" ++ " " ++ "'(b")).outcome = .error later ∧
        later.kind? = some .malformed ∧ later.offset? = some 7 := by
  have complete : (readAll ⟨2, true, {}⟩ "(a) 1").outcome =
      .ok (.list [.list [.leaf (.symbol "a")], .leaf (.int 1)]) := by rfl
  have closed : (readAll ⟨2, false, {}⟩ "'(b").outcome =
      .ok (.list [.quote (.list [.leaf (.symbol "b")])]) := by rfl
  have fails : (readAll ⟨2, true, {}⟩ "'(b").outcome = .error (.located 1 .unterminatedList) := by
    rfl
  obtain ⟨outcome, notices⟩ := (readAll_append_space complete false "'(b").1 _ closed
  exact ⟨complete, outcome, notices, (readAll_append_space complete true "'(b").2 _ fails⟩

end Sexpr.Reader
