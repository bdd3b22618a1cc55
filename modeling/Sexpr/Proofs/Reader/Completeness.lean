import Sexpr.Proofs.Reader.Passage
import Sexpr.Proofs.Reader.Unambiguity
import Sexpr.Proofs.Tree.Depth

/-!
Every text of the language is read as it denotes, if the limit allows its depth.

A derivation is followed by the reader from its first character to the text that it leaves: a
form is delivered there to the frames that were open before it.
-/

namespace Sexpr.Reader

open State (Goal Settles Takes deliver opening? separates)
open Grammar (FormAt FormsAt EndsBefore Lexeme Denotes)
open Text.Quoted (doubleQuote apostrophe)

/-- The state after some forms, the first one first, have been delivered one by one. -/
def State.deliverAll : List Form → List Frame → List Form → State
  | [], frames, forms => ⟨.gap, frames, forms⟩
  | form :: others, frames, forms =>
      deliverAll others (deliver form frames forms).frames (deliver form frames forms).forms

theorem State.deliverAll_outside (added forms : List Form) :
    deliverAll added [] forms = ⟨.gap, [], added.reverse ++ forms⟩ := by
  induction added generalizing forms with
  | nil => rfl
  | cons form added inductionHypothesis =>
      simp only [deliverAll, deliver, inductionHypothesis]
      simp

theorem State.deliverAll_list (added : List Form) (start : Nat) (items : List Form)
    (frames : List Frame) (forms : List Form) :
    deliverAll added (.list start items :: frames) forms =
      ⟨.gap, .list start (added.reverse ++ items) :: frames, forms⟩ := by
  induction added generalizing items with
  | nil => rfl
  | cons form added inductionHypothesis =>
      simp only [deliverAll, deliver, inductionHypothesis]
      simp

theorem State.deliver_of_separates (form : Form) {frames : List Frame} (forms : List Form)
    (between : separates .all frames = true) :
    ∃ delivered others, deliver form frames forms = ⟨.gap, delivered, others⟩ ∧
      separates .all delivered = true ∧ delivered.length = frames.length := by
  rcases frames with _ | ⟨⟨start, items⟩ | start, frames⟩
  · exact ⟨[], form :: forms, rfl, rfl, rfl⟩
  · exact ⟨.list start (form :: items) :: frames, forms, rfl, rfl, rfl⟩
  · cases between

section Completeness

variable {options : Options}

theorem not_isComplete {goal : Goal} {forms : List Form} (incomplete : goal = .one → forms = [])
    (scan : Scan) (frames : List Frame) :
    ¬(goal = .one ∧ State.isComplete ⟨scan, frames, forms⟩ = true) := by
  rintro ⟨one, complete⟩
  rw [incomplete one] at complete
  cases scan <;> cases frames <;> cases complete

theorem advance_start {goal : Goal} {offset : Nat} {c : Char} {scan : Scan} {frames : List Frame}
    {forms : List Form} {rest : List Char} (incomplete : goal = .one → forms = [])
    (opening : opening? offset c = some scan) :
    advance options goal ⟨.gap, frames, forms⟩ offset (c :: rest) =
      advance options goal ⟨scan, frames, forms⟩ (offset + 1) rest :=
  advance_take .gap (not_isComplete incomplete .gap frames) (.start opening)

/-- A run goes on as long as characters continue it. -/
theorem advance_run {goal : Goal} {kind : RunKind} {start offset : Nat}
    {taken run rest : List Char} {frames : List Frame} {forms : List Form}
    (accepted : ∀ c ∈ run, kind.accepts c = true) :
    advance options goal ⟨.run kind start taken, frames, forms⟩ offset (run ++ rest) =
      advance options goal ⟨.run kind start (run.reverse ++ taken), frames, forms⟩
        (offset + run.length) rest := by
  induction run generalizing taken offset with
  | nil => rfl
  | cons c run inductionHypothesis =>
      have continues : (some c).any kind.accepts = true := accepted c List.mem_cons_self
      rw [List.cons_append, advance_take (.run continues) (by simp [State.isComplete]) .run,
        inductionHypothesis fun d membership => accepted d (List.mem_cons_of_mem c membership)]
      simp only [List.reverse_cons, List.append_assoc, List.cons_append, List.nil_append,
        List.length_cons, Nat.add_assoc, Nat.add_comm 1]

/-- A string goes on up to the next quotation mark. -/
theorem advance_string {goal : Goal} {start offset : Nat} {taken text rest : List Char}
    {frames : List Frame} {forms : List Form} (free : doubleQuote ∉ text) :
    advance options goal ⟨.string start taken, frames, forms⟩ offset (text ++ rest) =
      advance options goal ⟨.string start (text.reverse ++ taken), frames, forms⟩
        (offset + text.length) rest := by
  induction text generalizing taken offset with
  | nil => rfl
  | cons c text inductionHypothesis =>
      obtain ⟨other, free⟩ := List.ne_and_not_mem_of_not_mem_cons free
      rw [List.cons_append,
        advance_take .string (by simp [State.isComplete]) (.string other.symm),
        inductionHypothesis free]
      simp only [List.reverse_cons, List.append_assoc, List.cons_append, List.nil_append,
        List.length_cons, Nat.add_assoc, Nat.add_comm 1]

/-- A form may follow a quote sign. -/
theorem Grammar.FormAt.followsQuote {text rest : List Char} {form : Form}
    (derived : FormAt text form rest) : State.followsQuote text.head? = true := by
  obtain ⟨c, more, scan, rfl, opening⟩ := derived.opening 0
  obtain ⟨notSpace, notClose⟩ := State.ne_of_opening opening
  simp [State.followsQuote, notSpace, notClose]

mutual

/-- A form that is not too deep for the frames around it is delivered to them. -/
theorem Grammar.FormAt.advance_eq {text rest : List Char} {form : Form}
    (ample : options.maxDepth ≤ options.room.reading) (frames : List Frame) (forms : List Form)
    (offset : Nat) : FormAt text form rest →
      frames.length + form.depth ≤ options.maxDepth →
      ∃ later, later + rest.length = offset + text.length ∧
        advance options .all ⟨.gap, frames, forms⟩ offset text =
          advance options .all (deliver form frames forms) later rest
  | @FormAt.run kind run rest atom lexeme ends, _ => by
      obtain ⟨c, more, rfl, opening⟩ := lexeme.opening offset
      have accepted : ∀ d ∈ more, kind.accepts d = true := fun d membership =>
        lexeme.accepts d (List.mem_cons_of_mem c membership)
      have denoted : kind.denoted offset (more.reverse ++ [c]).reverse = .ok atom := by
        rw [List.reverse_append, List.reverse_reverse]
        refine (Grammar.denoted_eq_ok_iff offset ?_).mpr lexeme
        rintro rfl
        exact lexeme.isPlainName
      refine ⟨offset + 1 + more.length, ?_, ?_⟩
      · simp only [List.length_append, List.length_cons]
        omega
      · rw [List.cons_append, advance_start (by simp) opening, advance_run accepted,
          advance_settle (.atom ends denoted)]
  | @FormAt.string text rest free, _ => by
      refine ⟨offset + 1 + text.length + 1, ?_, ?_⟩
      · simp only [List.length_append, List.length_cons]
        omega
      · rw [List.cons_append, advance_start (by simp) rfl, advance_string free,
          advance_take .string (by simp) (.stringEnd rfl), List.append_nil,
          List.reverse_reverse]
  | @FormAt.quote text rest inner derived, shallow => by
      rw [Tree.depth_quote] at shallow
      obtain ⟨later, place, read⟩ := Grammar.FormAt.advance_eq ample
        (.quote offset :: frames) forms (offset + 1) derived (by rw [List.length_cons]; omega)
      refine ⟨later, ?_, ?_⟩
      · rw [List.length_cons]
        omega
      · rw [advance_start (by simp) rfl,
          advance_settle (.quote derived.followsQuote (by omega) (by omega)), read]
        rfl
  | @FormAt.list text rest items derived, shallow => by
      rw [Tree.depth_list] at shallow
      obtain ⟨later, place, read⟩ := Grammar.FormsAt.advance_eq ample
        (.list offset [] :: frames) forms (offset + 1) derived rfl
        (by rw [List.length_cons]; omega)
      rw [List.length_cons] at place
      refine ⟨later + 1, ?_, ?_⟩
      · rw [List.length_cons]
        omega
      · rw [advance_start (by simp) rfl, advance_settle (.list (by omega) (by omega)), read,
          State.deliverAll_list, advance_take .gap (by simp) (.listEnd rfl), List.append_nil,
          List.reverse_reverse]

theorem Grammar.FormsAt.advance_eq {text rest : List Char} {added : List Form}
    (ample : options.maxDepth ≤ options.room.reading) (frames : List Frame) (forms : List Form)
    (offset : Nat) : FormsAt text added rest →
      separates .all frames = true →
      frames.length + Tree.depthAll added ≤ options.maxDepth →
      ∃ later, later + rest.length = offset + text.length ∧
        advance options .all ⟨.gap, frames, forms⟩ offset text =
          advance options .all (State.deliverAll added frames forms) later rest
  | .none, _, _ => ⟨offset, rfl, rfl⟩
  | .space derived, between, shallow => by
      obtain ⟨later, place, read⟩ := Grammar.FormsAt.advance_eq ample frames forms (offset + 1)
        derived between shallow
      refine ⟨later, ?_, ?_⟩
      · rw [List.length_cons]
        omega
      · rw [advance_take .gap (by simp) (.space between rfl), read]
  | @FormsAt.form text middle rest form others first derived, between, shallow => by
      rw [Tree.depthAll_cons] at shallow
      obtain ⟨next, nextPlace, firstRead⟩ :=
        Grammar.FormAt.advance_eq ample frames forms offset first (by omega)
      obtain ⟨delivered, outside, equality, between, sameLength⟩ :=
        State.deliver_of_separates form forms between
      obtain ⟨later, place, read⟩ := Grammar.FormsAt.advance_eq ample delivered outside next
        derived between (by omega)
      refine ⟨later, by omega, ?_⟩
      rw [firstRead, equality, read, State.deliverAll, equality]

end

/-- A text of the language is read to its end, silently. -/
theorem Grammar.FormsAt.advance_initial {text : List Char} {forms : List Form}
    (ample : options.maxDepth ≤ options.room.reading) (derived : FormsAt text forms [])
    (shallow : Tree.depthAll forms ≤ options.maxDepth) :
    advance options .all .initial 0 text = ⟨.ok forms.reverse, [], ⟨text.length, []⟩⟩ := by
  obtain ⟨later, place, read⟩ := Grammar.FormsAt.advance_eq ample [] [] 0 derived rfl
    (by simpa using shallow)
  rw [List.length_nil, Nat.add_zero, Nat.zero_add] at place
  rw [State.initial, read, State.deliverAll_outside, List.append_nil, place]
  rfl

end Completeness

end Sexpr.Reader
