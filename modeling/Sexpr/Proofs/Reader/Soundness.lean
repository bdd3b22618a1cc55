import Sexpr.Proofs.Reader.Nesting
import Sexpr.Proofs.Reader.Completeness

/-!
What a strict reader reads is what the text denotes.

A state says which texts may follow it and which forms they complete it to.  What the reader
does next leaves that as it is, so from the end of the text, where the forms are known, it can
be followed back to the start.
-/

namespace Sexpr.Reader

open State (Settles Takes deliver opening?)
open Grammar (FormAt FormsAt EndsBefore Lexeme Denotes)
open Text.Quoted (doubleQuote apostrophe)

/-- The text completes the given frames around a form, and then all forms are the result. -/
def Closes (form : Form) : List Frame → List Form → List Char → List Form → Prop
  | [], forms, text, result =>
      ∃ more, FormsAt text more [] ∧ result = forms.reverse ++ form :: more
  | .quote _ :: frames, forms, text, result => Closes (.quote form) frames forms text result
  | .list _ items :: frames, forms, text, result =>
      ∃ more rest, FormsAt text more (')' :: rest) ∧
        Closes (.list (items.reverse ++ form :: more)) frames forms rest result

/-- The text goes on between forms inside the given frames and completes them, and then all
forms are the result. -/
def Continues : List Frame → List Form → List Char → List Form → Prop
  | [], forms, text, result => ∃ more, FormsAt text more [] ∧ result = forms.reverse ++ more
  | .quote _ :: frames, forms, text, result =>
      ∃ form rest, FormAt text form rest ∧ Closes (.quote form) frames forms rest result
  | .list _ items :: frames, forms, text, result =>
      ∃ more rest, FormsAt text more (')' :: rest) ∧
        Closes (.list (items.reverse ++ more)) frames forms rest result

/-- The text completes a state, and then all forms are the result. -/
def State.Completes (state : State) (text : List Char) (result : List Form) : Prop :=
  match state.scan with
  | .gap => Continues state.frames state.forms text result
  | .opened start => Continues (.list start [] :: state.frames) state.forms text result
  | .quoted start => Continues (.quote start :: state.frames) state.forms text result
  | .run kind start taken =>
      ∃ more rest atom, text = more ++ rest ∧ (∀ c ∈ more, kind.accepts c = true) ∧
        EndsBefore kind rest ∧ kind.denoted start (taken.reverse ++ more) = .ok atom ∧
        Closes (.leaf atom) state.frames state.forms rest result
  | .string _ taken =>
      ∃ more rest, text = more ++ doubleQuote :: rest ∧ doubleQuote ∉ more ∧
        Closes (.leaf (.string (String.ofList (taken.reverse ++ more)))) state.frames
          state.forms rest result

theorem Closes.of_deliver {form : Form} {frames : List Frame} {forms : List Form}
    {text : List Char} {result : List Form}
    (completes : (deliver form frames forms).Completes text result) :
    Closes form frames forms text result := by
  induction frames generalizing form with
  | nil =>
      obtain ⟨more, derived, rfl⟩ := completes
      exact ⟨more, derived, by simp [deliver]⟩
  | cons frame frames inductionHypothesis =>
      cases frame with
      | quote start => exact inductionHypothesis completes
      | list start items =>
          obtain ⟨more, rest, derived, closes⟩ := completes
          refine ⟨more, rest, derived, ?_⟩
          simpa [deliver] using closes

theorem Continues.of_formAt {text rest : List Char} {form : Form} {frames : List Frame}
    {forms result : List Form} (derived : FormAt text form rest)
    (closes : Closes form frames forms rest result) : Continues frames forms text result := by
  rcases frames with _ | ⟨⟨start, items⟩ | start, frames⟩
  · obtain ⟨more, others, rfl⟩ := closes
    exact ⟨form :: more, .form derived others, rfl⟩
  · obtain ⟨more, after, others, closes⟩ := closes
    exact ⟨form :: more, after, .form derived others, closes⟩
  · exact ⟨form, rest, derived, closes⟩

namespace State

/-- What completes a settled state completes the state before it was settled. -/
theorem Settles.completes {options : Options} {text : List Char} {state settled : State}
    {result : List Form} (settles : Settles options text.head? state settled)
    (completes : settled.Completes text result) : state.Completes text result := by
  cases settles with
  | gap => exact completes
  | string => exact completes
  | run more => exact completes
  | @atom kind start taken atom frames forms ends denoted =>
      refine ⟨[], text, atom, rfl, by simp, ends, ?_, .of_deliver completes⟩
      rwa [List.append_nil]
  | list shallow ample => exact completes
  | quote follows shallow ample => exact completes

/-- What completes the state after a form has been opened completes the gap before it. -/
theorem continues_of_opening {offset : Nat} {c : Char} {scan : Scan} {frames : List Frame}
    {forms result : List Form} {rest : List Char} (opening : opening? offset c = some scan)
    (completes : State.Completes ⟨scan, frames, forms⟩ rest result) :
    Continues frames forms (c :: rest) result := by
  rcases opening?_cases opening with
    ⟨rfl, rfl⟩ | ⟨rfl, rfl⟩ | ⟨rfl, rfl⟩ | ⟨kind, rfl, opens⟩
  · obtain ⟨items, after, derived, closes⟩ := completes
    exact .of_formAt (.list derived) closes
  · obtain ⟨form, after, derived, closes⟩ := completes
    exact .of_formAt (.quote derived) closes
  · obtain ⟨text, after, rfl, free, closes⟩ := completes
    exact .of_formAt (.string free) closes
  · obtain ⟨more, after, atom, rfl, accepted, ends, denoted, closes⟩ := completes
    have named : kind = .name → isPlainName ([c].reverse ++ more) = true := by
      rintro rfl
      exact isPlainName_iff.mpr ⟨c, more, rfl, opens, accepted⟩
    have lexeme := (Grammar.denoted_eq_ok_iff offset named).mp denoted
    exact .of_formAt (.run lexeme ends) closes

/-- What completes the state after a character completes the state before it, together with
the character. -/
theorem Takes.completes {options : Options} {offset : Nat} {c : Char} {state taken : State}
    {rest : List Char} {result : List Form} (settles : Settles options (some c) state state)
    (takes : Takes .all offset c state taken) (completes : taken.Completes rest result) :
    state.Completes (c :: rest) result := by
  cases takes with
  | run =>
      obtain ⟨more, after, atom, rfl, accepted, ends, denoted, closes⟩ := completes
      have continues := settles.accepts_of_run rfl
      refine ⟨c :: more, after, atom, rfl, ?_, ends, ?_, closes⟩
      · intro d membership
        rcases List.mem_cons.mp membership with rfl | later
        · exact continues
        · exact accepted d later
      · simpa using denoted
  | string other =>
      obtain ⟨more, after, rfl, free, closes⟩ := completes
      refine ⟨c :: more, after, rfl, ?_, ?_⟩
      · exact List.not_mem_cons_of_ne_of_not_mem other.symm free
      · simpa using closes
  | stringEnd equality =>
      subst equality
      refine ⟨[], rest, rfl, by simp, ?_⟩
      rw [List.append_nil]
      exact .of_deliver completes
  | @space frames forms between equality =>
      subst equality
      rcases frames with _ | ⟨⟨start, items⟩ | start, frames⟩
      · obtain ⟨more, derived, rfl⟩ := completes
        exact ⟨more, .space derived, rfl⟩
      · obtain ⟨more, after, derived, closes⟩ := completes
        exact ⟨more, after, .space derived, closes⟩
      · cases between
  | listEnd equality =>
      subst equality
      refine ⟨[], rest, .none, ?_⟩
      rw [List.append_nil]
      exact .of_deliver completes
  | start opening => exact continues_of_opening opening completes

/-- Nothing but the end of the text completes the state in which a strict reader finds it. -/
theorem completes_of_conclude {maxDepth : Nat} {room : Room} {state : State}
    {notices : List Notice} {forms : List Form} (concluded : state.conclude ⟨maxDepth, true, room⟩ = .ok (notices, forms)) :
    state.Completes [] forms.reverse := by
  unfold conclude at concluded
  split at concluded
  next => cases concluded
  next settled outcome =>
    have settles := settle_eq_ok_iff.mp outcome
    apply settles.completes
    rcases settled with ⟨scan, frames, others⟩
    rcases settles.scan_atEnd with gap | ⟨start, taken, string⟩
    · cases gap
      rcases frames with _ | ⟨⟨start, items⟩ | start, frames⟩
      · cases concluded
        exact ⟨[], .none, by simp⟩
      · cases concluded
      · cases concluded
    · cases string
      cases concluded

end State

theorem completes_of_advance {maxDepth : Nat} {room : Room} {state : State} {offset : Nat}
    {text : List Char} {forms : List Form}
    (outcome : (advance ⟨maxDepth, true, room⟩ .all state offset text).outcome = .ok forms) :
    state.Completes text forms.reverse := by
  refine advance_induct (motive := fun state text => state.Completes text forms.reverse)
    State.completes_of_conclude ?_ outcome
  intro state offset c taken rest moved completes
  obtain ⟨settled, settles, _, takes⟩ := State.move_eq_go_iff.mp moved
  exact settles.completes (takes.completes settles.settled completes)

theorem formsAt_of_advance {maxDepth : Nat} {room : Room} {text : List Char} {forms : List Form}
    (outcome : (advance ⟨maxDepth, true, room⟩ .all .initial 0 text).outcome = .ok forms) :
    FormsAt text forms.reverse [] := by
  obtain ⟨more, derived, equality⟩ := completes_of_advance outcome
  rw [equality]
  exact derived

theorem advance_strict_eq_ok_iff {maxDepth : Nat} {room : Room} (ample : maxDepth ≤ room.reading)
    {text : List Char} {forms : List Form} :
    (advance ⟨maxDepth, true, room⟩ .all .initial 0 text).outcome = .ok forms.reverse ↔
      FormsAt text forms [] ∧ Tree.depthAll forms ≤ maxDepth := by
  constructor
  · intro outcome
    have derived := formsAt_of_advance outcome
    have shallow := depthAll_of_advance outcome
    rw [List.reverse_reverse] at derived
    rw [Tree.depthAll_reverse] at shallow
    exact ⟨derived, shallow⟩
  · rintro ⟨derived, shallow⟩
    rw [derived.advance_initial ample shallow]

/-- A strict reader reads exactly the texts of the language whose forms the limit allows, as
the forms that they denote, of which there is one sequence. -/
theorem readAll_strict_eq_ok_iff (maxDepth : Nat) {room : Room} (ample : maxDepth ≤ room.reading)
    (text : String) :
    (∀ forms, (readAll ⟨maxDepth, true, room⟩ text).outcome = .ok (.list forms) ↔
      Denotes text forms ∧ ∀ form ∈ forms, form.depth ≤ maxDepth) ∧
    (∀ forms others, Denotes text forms → Denotes text others → forms = others) := by
  refine ⟨?_, fun _ _ denotes others => denotes.unique others⟩
  intro forms
  rw [← Tree.depthAll_le_iff]
  constructor
  · intro outcome
    obtain ⟨_, equality, read⟩ := readAll_eq_ok_iff.mp outcome
    cases equality
    have derived := formsAt_of_advance read
    rw [List.reverse_reverse] at derived
    exact ⟨derived, depthAll_of_readAll outcome⟩
  · rintro ⟨derived, shallow⟩
    refine readAll_eq_ok_iff.mpr ⟨forms, rfl, ?_⟩
    rw [derived.advance_initial ample shallow]

theorem readAll_strict_eq_ok_iff_adjacent :
    2 ≤ ({} : Room).reading ∧
      Denotes "'(a-7 \")\")nil"
        [.quote (.list [.leaf (.symbol "a-"), .leaf (.int 7), .leaf (.string ")")]),
          .leaf .nil] ∧
      ∀ others, Denotes "'(a-7 \")\")nil" others →
        [.quote (.list [.leaf (.symbol "a-"), .leaf (.int 7), .leaf (.string ")")]),
          .leaf .nil] = others := by
  have ample : 2 ≤ ({} : Room).reading := by decide
  have correct := readAll_strict_eq_ok_iff 2 ample "'(a-7 \")\")nil"
  have denotes := ((correct.1 _).mp rfl).1
  exact ⟨ample, denotes, fun others => correct.2 _ others denotes⟩

end Sexpr.Reader
