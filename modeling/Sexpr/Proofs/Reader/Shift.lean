import Sexpr.Proofs.Reader.Passage

/-!
Reading the same characters further on in a text.

A reader looks at the offset of its place only to say where something is.  So the same characters
are read alike after any text, and only the offsets in failures and notices are greater.
-/

namespace Sexpr

/-- The failure to read the same characters further on. -/
def Failure.shift (distance : Nat) : Failure → Failure
  | .located offset complaint => .located (offset + distance) complaint
  | .stackExhausted => .stackExhausted
  | .nestingExhausted offset => .nestingExhausted (offset + distance)
  | .tooManyDigits count => .tooManyDigits count

def Notice.shift (distance : Nat) : Notice → Notice
  | .closedString start => .closedString (start + distance)
  | .closedList start => .closedList (start + distance)
  | .discarded count => .discarded count

@[simp]
theorem Failure.kind?_shift (distance : Nat) (failure : Failure) :
    (failure.shift distance).kind? = failure.kind? := by
  cases failure <;> rfl

@[simp]
theorem Failure.offset?_shift (distance : Nat) (failure : Failure) :
    (failure.shift distance).offset? = failure.offset?.map (· + distance) := by
  cases failure <;> rfl

@[simp]
theorem Notice.level_shift (distance : Nat) (notice : Notice) :
    (notice.shift distance).level = notice.level := by
  cases notice <;> rfl

namespace Numeral

theorem readInteger_shift (distance start : Nat) (run : List Char) (negative : Bool)
    (digits : List Char) :
    readInteger (start + distance) run negative digits =
      (readInteger start run negative digits).mapError (Failure.shift distance) := by
  unfold readInteger
  dsimp only
  split
  next => rfl
  next =>
    split
    next => rfl
    next => split <;> rfl

theorem ofRounded_shift (distance start : Nat) (rounded : Option Binary64) :
    ofRounded (start + distance) rounded =
      (ofRounded start rounded).mapError (Failure.shift distance) := by
  cases rounded <;> rfl

theorem read_shift (distance start : Nat) (run : List Char) :
    Numeral.read (start + distance) run =
      (Numeral.read start run).mapError (Failure.shift distance) := by
  unfold Numeral.read
  split
  next => apply readInteger_shift
  next => apply ofRounded_shift
  next => rfl

end Numeral

theorem RunKind.denoted_shift (distance start : Nat) (run : List Char) (kind : RunKind) :
    kind.denoted (start + distance) run =
      (kind.denoted start run).mapError (Failure.shift distance) := by
  cases kind with
  | number => apply Numeral.read_shift
  | name => rfl
  | keyword =>
      simp only [denoted]
      split <;> rfl
  | special =>
      simp only [denoted]
      split <;> rfl

end Sexpr

namespace Sexpr.Reader

open State (Goal deliver opening? startForm takeInGap)

def Frame.shift (distance : Nat) : Frame → Frame
  | .list start items => .list (start + distance) items
  | .quote start => .quote (start + distance)

def Scan.shift (distance : Nat) : Scan → Scan
  | .gap => .gap
  | .opened start => .opened (start + distance)
  | .quoted start => .quoted (start + distance)
  | .run kind start taken => .run kind (start + distance) taken
  | .string start taken => .string (start + distance) taken

def State.shift (distance : Nat) (state : State) : State :=
  ⟨state.scan.shift distance, state.frames.map (Frame.shift distance), state.forms⟩

def Cursor.shift (distance : Nat) (cursor : Cursor) : Cursor :=
  ⟨cursor.offset + distance, cursor.rest⟩

/-- What reading the same characters further on comes to. -/
def Reading.shift {α : Type} (distance : Nat) (reading : Reading α) : Reading α :=
  ⟨reading.outcome.mapError (Failure.shift distance), reading.notices.map (Notice.shift distance),
    reading.cursor.shift distance⟩

theorem Reading.catching_shift {α : Type} (distance : Nat) (reading : Reading α) :
    (reading.shift distance).catching = reading.catching.shift distance := by
  rcases reading with ⟨(_ | _ | _ | _) | _, notices, cursor⟩ <;> rfl

/-- What a decision about the same characters comes to further on. -/
def shiftResult {α : Type} (distance : Nat) (shiftValue : α → α) (result : Except Failure α) :
    Except Failure α :=
  (result.map shiftValue).mapError (Failure.shift distance)

theorem shiftResult_ok {α : Type} (distance : Nat) (shiftValue : α → α) (value : α) :
    shiftResult distance shiftValue (.ok value) = .ok (shiftValue value) :=
  rfl

def shiftForms (distance : Nat) (finished : List Notice × List Form) : List Notice × List Form :=
  (finished.1.map (Notice.shift distance), finished.2)

def State.Move.shift (distance : Nat) : State.Move → State.Move
  | .stop outcome => .stop (outcome.mapError (Failure.shift distance))
  | .go state => .go (state.shift distance)

namespace State

theorem deliver_shift (distance : Nat) (form : Form) (frames : List Frame) (forms : List Form) :
    deliver form (frames.map (Frame.shift distance)) forms =
      (deliver form frames forms).shift distance := by
  induction frames generalizing form with
  | nil => rfl
  | cons frame frames inductionHypothesis =>
      cases frame with
      | list start items => rfl
      | quote start => exact inductionHypothesis form.quote

theorem enter_shift (options : Options) (distance start : Nat) (frame : Frame) (state : State) :
    (state.shift distance).enter options (start + distance) (frame.shift distance) =
      shiftResult distance (shift distance) (state.enter options start frame) := by
  simp only [enter, shift, List.length_map]
  split
  next => rfl
  next => split <;> rfl

theorem settle_shift (options : Options) (distance : Nat) (next : Option Char) (state : State) :
    (state.shift distance).settle options next =
      shiftResult distance (shift distance) (state.settle options next) := by
  rcases state with ⟨scan, frames, forms⟩
  cases scan with
  | gap => rfl
  | string start taken => rfl
  | opened start => exact enter_shift options distance start (.list start []) _
  | quoted start =>
      have entered :=
        enter_shift options distance start (.quote start) ⟨.quoted start, frames, forms⟩
      simp only [settle, shift, Scan.shift] at entered ⊢
      split
      next => exact entered
      next => rfl
  | run kind start taken =>
      simp only [settle, shift, Scan.shift, RunKind.denoted_shift]
      split
      next => rfl
      next =>
        cases kind.denoted start taken.reverse with
        | error failure => rfl
        | ok atom => exact congrArg Except.ok (deliver_shift distance (.leaf atom) frames forms)

theorem opening?_shift (distance offset : Nat) (c : Char) :
    opening? (offset + distance) c = (opening? offset c).map (Scan.shift distance) := by
  simp only [opening?, apply_ite (Option.map (Scan.shift distance))]
  rfl

theorem startForm_shift (distance offset : Nat) (c : Char) (state : State) :
    startForm (offset + distance) c (state.shift distance) =
      shiftResult distance (shift distance) (startForm offset c state) := by
  unfold startForm
  rw [opening?_shift]
  cases opening? offset c <;> rfl

theorem takeInGap_shift (goal : Goal) (distance offset : Nat) (c : Char) (state : State) :
    takeInGap goal (offset + distance) c (state.shift distance) =
      shiftResult distance (shift distance) (takeInGap goal offset c state) := by
  have starts := startForm_shift distance offset c state
  rcases state with ⟨scan, frames, forms⟩
  rcases frames with _ | ⟨⟨start, items⟩ | start, frames⟩
  · cases goal with
    | one => exact starts
    | all =>
        simp only [takeInGap, shift, List.map_nil] at starts ⊢
        split
        next => rfl
        next =>
          split
          next => rfl
          next => exact starts
  · simp only [takeInGap, shift, List.map_cons, Frame.shift] at starts ⊢
    split
    next => rfl
    next =>
      split
      next => exact congrArg Except.ok (deliver_shift distance (.list items.reverse) frames forms)
      next => exact starts
  · exact starts

theorem take_shift (goal : Goal) (distance offset : Nat) (c : Char) (state : State) :
    (state.shift distance).take goal (offset + distance) c =
      shiftResult distance (shift distance) (state.take goal offset c) := by
  have inGap := takeInGap_shift goal distance offset c state
  rcases state with ⟨scan, frames, forms⟩
  cases scan with
  | gap => exact inGap
  | opened start => exact inGap
  | quoted start => exact inGap
  | run kind start taken => rfl
  | string start taken =>
      simp only [take, shift, Scan.shift]
      split
      next => exact congrArg Except.ok (deliver_shift distance _ frames forms)
      next => rfl

theorem isComplete_shift (distance : Nat) (state : State) :
    (state.shift distance).isComplete = state.isComplete := by
  rcases state with ⟨_ | _ | _ | _ | _, _ | _, _ | _⟩ <;> rfl

theorem move_shift (options : Options) (goal : Goal) (distance offset : Nat) (c : Char)
    (state : State) :
    (state.shift distance).move options goal (offset + distance) c =
      (state.move options goal offset c).shift distance := by
  unfold move
  rw [settle_shift]
  cases state.settle options (some c) with
  | error failure => rfl
  | ok settled =>
      simp only [shiftResult_ok, isComplete_shift, take_shift]
      split
      next => rfl
      next => cases settled.take goal offset c <;> rfl

theorem sealFrames_shift (distance : Nat) (form : Form) (frames : List Frame) :
    sealFrames form (frames.map (Frame.shift distance)) =
      ((sealFrames form frames).1.map (Notice.shift distance), (sealFrames form frames).2) := by
  induction frames generalizing form with
  | nil => rfl
  | cons frame frames inductionHypothesis =>
      cases frame with
      | list start items =>
          simp only [List.map_cons, Frame.shift, sealFrames, inductionHypothesis]
          rfl
      | quote start => exact inductionHypothesis form.quote

theorem closeAtEnd_shift (options : Options) (distance : Nat) (refusal : Failure)
    (notice : Notice) (form : Form) (frames : List Frame) (forms : List Form) :
    closeAtEnd options (refusal.shift distance) (notice.shift distance) form
        (frames.map (Frame.shift distance)) forms =
      shiftResult distance (shiftForms distance)
        (closeAtEnd options refusal notice form frames forms) := by
  unfold closeAtEnd
  rw [List.length_map, sealFrames_shift]
  split
  next => rfl
  next => split <;> rfl

theorem finish_shift (options : Options) (distance : Nat) (state : State) :
    (state.shift distance).finish options =
      shiftResult distance (shiftForms distance) (state.finish options) := by
  rcases state with ⟨scan, frames, forms⟩
  cases scan with
  | string start taken =>
      exact closeAtEnd_shift options distance (.located start .unterminatedString)
        (.closedString start) _ frames forms
  | _ =>
      rcases frames with _ | ⟨⟨start, items⟩ | start, frames⟩
      · rfl
      · exact closeAtEnd_shift options distance (.located start .unterminatedList)
          (.closedList start) _ frames forms
      · rfl

theorem conclude_shift (options : Options) (distance : Nat) (state : State) :
    (state.shift distance).conclude options =
      shiftResult distance (shiftForms distance) (state.conclude options) := by
  unfold conclude
  rw [settle_shift]
  cases state.settle options none with
  | error failure => rfl
  | ok settled => exact finish_shift options distance settled

end State

/-- The same characters are read alike further on. -/
theorem advance_shift (options : Options) (goal : Goal) (distance : Nat) (state : State)
    (offset : Nat) (text : List Char) :
    advance options goal (state.shift distance) (offset + distance) text =
      (advance options goal state offset text).shift distance := by
  induction text generalizing state offset with
  | nil =>
      simp only [advance, State.conclude_shift]
      cases state.conclude options <;> rfl
  | cons c rest inductionHypothesis =>
      simp only [advance, State.move_shift]
      cases state.move options goal offset c with
      | stop outcome => rfl
      | go taken =>
          simp only [State.Move.shift]
          rw [Nat.add_right_comm]
          exact inductionHypothesis taken (offset + 1)

namespace Method

theorem scan_shift (distance offset : Nat) (method : Method) :
    method.scan (offset + distance) = (method.scan offset).shift distance := by
  cases method <;> rfl

theorem place_shift (distance : Nat) (cursor : Cursor) (method : Method) :
    method.place (cursor.shift distance) = (method.place cursor).shift distance := by
  have next : (cursor.shift distance).next = cursor.next.shift distance := by
    rcases cursor with ⟨offset, _ | ⟨c, rest⟩⟩
    · rfl
    · simp only [Cursor.next, Cursor.shift, Nat.add_right_comm]
  cases method <;> first | rfl | exact next

theorem choose_shift (distance offset : Nat) (forms : List Form) (method : Method) :
    method.choose forms (offset + distance) =
      ((method.choose forms offset).1.mapError (Failure.shift distance),
        (method.choose forms offset).2.map (Notice.shift distance)) := by
  cases method <;> rcases forms with _ | ⟨first, _ | ⟨second, others⟩⟩ <;> rfl

/-- What a method returns of the forms that have been read for it. -/
def answer (method : Method) (reading : Reading (List Form)) : Reading Form :=
  match reading.outcome with
  | .error failure => ⟨.error failure, reading.notices, reading.cursor⟩
  | .ok forms =>
      let chosen := method.choose forms.reverse reading.cursor.offset
      ⟨chosen.1, reading.notices ++ chosen.2, reading.cursor⟩

theorem read_eq_answer (options : Options) (method : Method) (cursor : Cursor) :
    method.read options cursor =
      method.answer (method.report (advance options method.goal
        ⟨method.scan cursor.offset, [], []⟩ (method.place cursor).offset
        (method.place cursor).rest)) :=
  rfl

theorem report_shift (distance : Nat) (method : Method) (reading : Reading (List Form)) :
    method.report (reading.shift distance) = (method.report reading).shift distance := by
  cases method <;> first | rfl | exact reading.catching_shift distance

theorem answer_shift (distance : Nat) (method : Method) (reading : Reading (List Form)) :
    method.answer (reading.shift distance) = (method.answer reading).shift distance := by
  rcases reading with ⟨_ | forms, notices, cursor⟩
  · rfl
  · have shifted : (⟨.ok forms, notices, cursor⟩ : Reading (List Form)).shift distance =
        ⟨.ok forms, notices.map (Notice.shift distance), cursor.shift distance⟩ := rfl
    rw [shifted]
    simp only [answer, Reading.shift, Cursor.shift, choose_shift, List.map_append]

/-- A method reads the same characters alike further on. -/
theorem read_shift (options : Options) (method : Method) (distance : Nat) (cursor : Cursor) :
    method.read options (cursor.shift distance) =
      (method.read options cursor).shift distance := by
  rw [read_eq_answer, read_eq_answer, place_shift, ← answer_shift, ← report_shift, ← advance_shift]
  simp only [Cursor.shift, scan_shift]
  rfl

end Method

end Sexpr.Reader
