import Mathlib.Data.List.Induction
import Sexpr.Proofs.Reader.Recovery

/-!
Where open constructs come from.

`Reaches` is a passage together with the text that was taken.  Whatever is open in a state that is
reached was started by a character of that text, and the reader was between two forms before it.
-/

namespace Sexpr.Reader

open State (Settles Takes deliver separates opening? OpensWith)
open Text.Quoted (doubleQuote apostrophe)

/-- The states of a reader of all forms, with the text it has taken. -/
inductive Reaches (options : Options) : List Char → State → Prop where
  | start : Reaches options [] .initial
  | move {front : List Char} {c : Char} {state taken : State} :
      Reaches options front state →
      state.move options .all front.length c = .go taken →
      Reaches options (front ++ [c]) taken

section Reaching

variable {options : Options}

theorem Reaches.advance_append {front : List Char} {state : State}
    (reached : Reaches options front state) (rest : List Char) :
    advance options .all .initial 0 (front ++ rest) =
      advance options .all state front.length rest := by
  induction reached generalizing rest with
  | start => rfl
  | move reached moved inductionHypothesis =>
      rw [List.append_assoc, inductionHypothesis, List.length_append]
      simp only [List.cons_append, List.nil_append, advance, moved, List.length_singleton]

theorem reaches_or_stops (options : Options) (text : List Char) :
    (∃ state, Reaches options text state) ∨
      ∃ front c rest state outcome, text = front ++ c :: rest ∧ Reaches options front state ∧
        state.move options .all front.length c = .stop outcome := by
  induction text using List.reverseRecOn with
  | nil => exact .inl ⟨.initial, .start⟩
  | append_singleton text c inductionHypothesis =>
      rcases inductionHypothesis with
        ⟨state, reached⟩ | ⟨front, d, rest, state, outcome, rfl, reached, stopped⟩
      · cases moved : state.move options .all text.length c with
        | stop outcome => exact .inr ⟨text, c, [], state, outcome, rfl, reached, moved⟩
        | go taken => exact .inl ⟨taken, reached.move moved⟩
      · refine .inr ⟨front, d, rest ++ [c], state, outcome, ?_, reached, stopped⟩
        rw [List.append_assoc, List.cons_append]

theorem fails_of_advance {text : List Char} {failure : Failure}
    (outcome : (advance options .all .initial 0 text).outcome = .error failure) :
    (∃ state, Reaches options text state ∧ state.conclude options = .error failure) ∨
      ∃ front c rest state, text = front ++ c :: rest ∧ Reaches options front state ∧
        state.move options .all front.length c = .stop (.error failure) := by
  rcases reaches_or_stops options text with
    ⟨state, reached⟩ | ⟨front, c, rest, state, stopped, rfl, reached, moved⟩
  · refine .inl ⟨state, reached, ?_⟩
    have read := reached.advance_append []
    rw [List.append_nil] at read
    rw [read, advance] at outcome
    cases concluded : state.conclude options with
    | error other =>
        rw [concluded] at outcome
        cases outcome
        rfl
    | ok result =>
        rw [concluded] at outcome
        cases outcome
  · refine .inr ⟨front, c, rest, state, rfl, reached, ?_⟩
    rw [reached.advance_append, advance, moved] at outcome
    rw [moved, ← outcome]

end Reaching

/-- The reader comes to a character of the text between two forms. -/
def ComesTo (options : Options) (text : List Char) (offset : Nat) (c : Char) : Prop :=
  ∃ before after state settled, text = before ++ c :: after ∧ before.length = offset ∧
    Reaches options before state ∧ Settles options (some c) state settled ∧ settled.scan = .gap

theorem ComesTo.append {options : Options} {text : List Char} {offset : Nat} {c : Char}
    (comes : ComesTo options text offset c) (more : List Char) :
    ComesTo options (text ++ more) offset c := by
  obtain ⟨before, after, state, settled, rfl, place, reached, settles, gap⟩ := comes
  refine ⟨before, after ++ more, state, settled, ?_, place, reached, settles, gap⟩
  rw [List.append_assoc, List.cons_append]

/-- The character that opens a frame. -/
def Frame.mark : Frame → Char
  | .list _ _ => '('
  | .quote _ => apostrophe

/-- What is pending was started by a character of its kind, and a run is the end of the text. -/
def Scan.IsGrounded (options : Options) (text : List Char) : Scan → Prop
  | .gap => True
  | .opened start => ComesTo options text start '('
  | .quoted start => ComesTo options text start apostrophe
  | .string start _ => ComesTo options text start doubleQuote
  | .run kind start taken => ∃ before c more, text = before ++ c :: more ∧
      taken.reverse = c :: more ∧ OpensWith c kind ∧ ComesTo options text start c

namespace State

structure IsGrounded (options : Options) (text : List Char) (state : State) : Prop where
  frames : ∀ frame ∈ state.frames, ComesTo options text frame.start frame.mark
  scan : state.scan.IsGrounded options text

theorem forall_frames_deliver {holds : Nat → Char → Prop} (form : Form) {frames : List Frame}
    (forms : List Form) (each : ∀ frame ∈ frames, holds frame.start frame.mark) :
    ∀ frame ∈ (deliver form frames forms).frames, holds frame.start frame.mark := by
  induction frames generalizing form with
  | nil => simp [deliver]
  | cons frame frames inductionHypothesis =>
      rw [List.forall_mem_cons] at each
      cases frame with
      | list start items =>
          rw [deliver, List.forall_mem_cons]
          exact each
      | quote start => exact inductionHypothesis form.quote each.2

theorem IsGrounded.deliver {options : Options} {text : List Char} (form : Form)
    {frames : List Frame} (forms : List Form)
    (each : ∀ frame ∈ frames, ComesTo options text frame.start frame.mark) :
    (State.deliver form frames forms).IsGrounded options text where
  frames := forall_frames_deliver form forms each
  scan := by
    rw [scan_deliver]
    trivial

theorem IsGrounded.settled {options : Options} {text : List Char} {next : Option Char}
    {state settled : State} (grounded : state.IsGrounded options text)
    (settles : Settles options next state settled) : settled.IsGrounded options text := by
  cases settles with
  | gap => exact grounded
  | string => exact grounded
  | run more => exact grounded
  | atom ends denoted => exact .deliver _ _ grounded.frames
  | list shallow ample =>
      exact ⟨List.forall_mem_cons.mpr ⟨grounded.scan, grounded.frames⟩, trivial⟩
  | quote follows shallow ample =>
      exact ⟨List.forall_mem_cons.mpr ⟨grounded.scan, grounded.frames⟩, trivial⟩

theorem Scan.isGrounded_of_opening {options : Options} {text : List Char} {c : Char} {scan : Scan}
    (opening : opening? text.length c = some scan)
    (comes : ComesTo options (text ++ [c]) text.length c) :
    scan.IsGrounded options (text ++ [c]) := by
  rcases opening?_cases opening with ⟨rfl, rfl⟩ | ⟨rfl, rfl⟩ | ⟨rfl, rfl⟩ | ⟨kind, rfl, opens⟩
  · exact comes
  · exact comes
  · exact comes
  · exact ⟨text, c, [], rfl, rfl, opens, comes⟩

theorem IsGrounded.taken {options : Options} {text : List Char} {c : Char}
    {state settled taken : State} (reached : Reaches options text state)
    (settles : Settles options (some c) state settled) (grounded : settled.IsGrounded options text)
    (takes : Takes .all text.length c settled taken) :
    taken.IsGrounded options (text ++ [c]) := by
  have frames : ∀ frame ∈ settled.frames,
      ComesTo options (text ++ [c]) frame.start frame.mark := by
    intro frame membership
    exact (grounded.frames frame membership).append [c]
  cases takes with
  | run =>
      obtain ⟨before, first, more, rfl, written, opens, comes⟩ := grounded.scan
      refine ⟨frames, before, first, more ++ [c], ?_, ?_, opens, comes.append [c]⟩
      · rw [List.append_assoc, List.cons_append]
      · rw [List.reverse_cons, written, List.cons_append]
  | string more => exact ⟨frames, ComesTo.append grounded.scan [c]⟩
  | stringEnd ends => exact .deliver _ _ frames
  | space between equality => exact ⟨frames, trivial⟩
  | listEnd equality => exact .deliver _ _ (List.forall_mem_cons.mp frames).2
  | start opening =>
      have comes : ComesTo options (text ++ [c]) text.length c :=
        ⟨text, [], state, _, rfl, rfl, reached, settles, rfl⟩
      exact ⟨frames, Scan.isGrounded_of_opening opening comes⟩

end State

theorem Reaches.isGrounded {options : Options} {text : List Char} {state : State}
    (reached : Reaches options text state) : state.IsGrounded options text := by
  induction reached with
  | start => exact ⟨by simp [State.initial], trivial⟩
  | move reached moved grounded =>
      obtain ⟨settled, settles, _, takes⟩ := State.move_eq_go_iff.mp moved
      exact .taken reached settles (grounded.settled settles) takes

theorem State.separates_deliver (form : Form) (frames : List Frame) (forms : List Form) :
    separates .all (deliver form frames forms).frames = true := by
  induction frames generalizing form with
  | nil => rfl
  | cons frame frames inductionHypothesis =>
      cases frame with
      | list start items => rfl
      | quote start => exact inductionHypothesis form.quote

/-- A quote that has been entered is not left alone: the next character is in its form. -/
theorem Reaches.separates {options : Options} {text : List Char} {state : State}
    (reached : Reaches options text state) (gap : state.scan = .gap) :
    State.separates .all state.frames = true := by
  cases reached with
  | start => rfl
  | move reached moved =>
      obtain ⟨settled, settles, _, takes⟩ := State.move_eq_go_iff.mp moved
      cases takes with
      | run => cases gap
      | string more => cases gap
      | stringEnd ends => exact State.separates_deliver _ _ _
      | space between equality => exact between
      | listEnd equality => exact State.separates_deliver _ _ _
      | start opening =>
          obtain rfl : _ = Scan.gap := gap
          exact absurd opening (State.opening?_ne_gap _ _)

end Sexpr.Reader
