import Sexpr.Proofs.Reader.Descent

/-!
Reading makes progress.

No part of the reader goes back, or past the end of the text.  A form that is read takes a
character, so every round of a loop does, and the forms inside a form begin later than it.
-/

namespace Sexpr.Reader

namespace Cursor

/-- Some of the text after a place lies before a later one. -/
def LeadsTo (place later : Cursor) : Prop :=
  ∃ taken, place.rest = taken ++ later.rest ∧ later.offset = place.offset + taken.length

theorem LeadsTo.refl (place : Cursor) : place.LeadsTo place := ⟨[], rfl, rfl⟩

theorem LeadsTo.trans {place later last : Cursor} (leads : place.LeadsTo later)
    (leadsOn : later.LeadsTo last) : place.LeadsTo last := by
  obtain ⟨taken, rest, offset⟩ := leads
  obtain ⟨more, laterRest, laterOffset⟩ := leadsOn
  refine ⟨taken ++ more, ?_, ?_⟩
  · rw [rest, laterRest, List.append_assoc]
  · rw [laterOffset, offset, List.length_append, Nat.add_assoc]

theorem leadsTo_next (place : Cursor) : place.LeadsTo place.next := by
  rcases place with ⟨offset, _ | ⟨c, more⟩⟩
  · exact .refl _
  · exact ⟨[c], rfl, rfl⟩

theorem leadsTo_dropWhile (place : Cursor) (accepts : Char → Bool) :
    place.LeadsTo ⟨place.offset + (place.rest.takeWhile accepts).length,
      place.rest.dropWhile accepts⟩ :=
  ⟨place.rest.takeWhile accepts, List.takeWhile_append_dropWhile.symm, rfl⟩

theorem LeadsTo.offset_le {place later : Cursor} (leads : place.LeadsTo later) :
    place.offset ≤ later.offset := by
  obtain ⟨taken, _, offset⟩ := leads
  omega

theorem LeadsTo.offset_lt {place later : Cursor} (leads : place.LeadsTo later)
    (fewer : later.rest.length < place.rest.length) : place.offset < later.offset := by
  obtain ⟨taken, rest, offset⟩ := leads
  rw [rest, List.length_append] at fewer
  omega

/-- A place that a place of a text leads to is a place of that text. -/
theorem LeadsTo.eq_ofOffset {text : List Char} {offset : Nat} {later : Cursor}
    (leads : (ofOffset text offset).LeadsTo later) (within : offset ≤ text.length) :
    later.offset ≤ text.length ∧ later = ofOffset text later.offset := by
  obtain ⟨taken, rest, place⟩ := leads
  have lengths := congrArg List.length rest
  rw [ofOffset, List.length_drop, List.length_append] at lengths
  rw [ofOffset] at rest place
  dsimp only at rest place
  refine ⟨by omega, ?_⟩
  rw [ofOffset, place, ← List.drop_drop, rest, List.drop_left, ← place]

end Cursor

theorem Reading.after_after {α : Type} (notices more : List Notice) (reading : Reading α) :
    (reading.after more).after notices = reading.after (notices ++ more) := by
  simp only [Reading.after, List.append_assoc]

namespace Descent

open State (Goal opening?)
open Cursor (LeadsTo)
open Text.Quoted (doubleQuote apostrophe)

/-! ## Loops -/

/-- A form that is read takes a character. -/
theorem length_rest_of_readForm {options : Options} {place : Cursor} {depth : Nat} {form : Form}
    (outcome : (readForm options place depth).outcome = .ok form) :
    (readForm options place depth).cursor.rest.length < place.rest.length := by
  have within := (readForm options place depth).within form outcome
  rcases place with ⟨offset, _ | ⟨c, more⟩⟩
  · rw [readForm] at outcome
    cases outcome
  · exact Nat.lt_succ_of_le within

/-- A round that does not end the loop over some forms: a space is taken, or a form is read. -/
inductive Round (options : Options) (depth : Nat) : List Form × Cursor → List Form × Cursor → Prop
  where
  | space {forms : List Form} {place : Cursor} {more : List Char} :
      place.rest = ' ' :: more →
      Round options depth (forms, place) (forms, place.next)
  | form {forms : List Form} {place : Cursor} {c : Char} {more : List Char} {form : Form} :
      place.rest = c :: more → c ≠ ' ' → c ≠ ')' →
      (readForm options place depth).outcome = .ok form →
      Round options depth (forms, place) (form :: forms, (readForm options place depth).cursor)

/-- A round that ends a loop: nothing is left, or a closing parenthesis or no form follows. -/
inductive Ends (options : Options) (depth : Nat) (place : Cursor) : Prop where
  | text : place.rest = [] → Ends options depth place
  | close {more : List Char} : place.rest = ')' :: more → Ends options depth place
  | form {c : Char} {more : List Char} {failure : Failure} :
      place.rest = c :: more → c ≠ ' ' → c ≠ ')' →
      (readForm options place depth).outcome = .error failure →
      Ends options depth place

section Rounds

variable {options : Options} {depth : Nat}

theorem round_or_ends (options : Options) (depth : Nat) (forms : List Form) (place : Cursor) :
    (∃ next, Round options depth (forms, place) next) ∨ Ends options depth place := by
  rcases rest : place.rest with _ | ⟨c, more⟩
  · exact .inr (.text rest)
  · by_cases close : c = ')'
    · subst close
      exact .inr (.close rest)
    · by_cases space : c = ' '
      · subst space
        exact .inl ⟨_, .space rest⟩
      · rcases (readForm options place depth).outcome_cases with
          ⟨failure, outcome⟩ | ⟨form, outcome⟩
        · exact .inr (.form rest space close outcome)
        · exact .inl ⟨_, .form rest space close outcome⟩

theorem Round.length_lt {before after : List Form × Cursor}
    (round : Round options depth before after) : after.2.rest.length < before.2.rest.length := by
  cases round with
  | space starts => exact Cursor.length_rest_next_lt starts
  | form _ _ _ outcome => exact length_rest_of_readForm outcome

theorem depth_readForm {place : Cursor} {c : Char} {more : List Char}
    (starts : place.rest = c :: more) : (readForm options place depth).depth = depth :=
  ((reads options place).1 depth (starts ▸ List.cons_ne_nil c more)).counted

/-- The loop of a list goes on after a round that does not end it. -/
theorem readItems_of_round {before after : List Form × Cursor}
    (round : Round options depth before after) (start : Nat) :
    ∃ notices, (readItems options start before.1 before.2 depth).toReading =
      (readItems options start after.1 after.2 depth).toReading.after notices := by
  cases round with
  | @space forms place more starts =>
      rcases place with ⟨offset, _ | ⟨c, rest⟩⟩ <;> cases starts
      refine ⟨[], ?_⟩
      rw [readItems]
      rfl
  | @form forms place c more form starts notSpace notClose outcome =>
      have kept := @depth_readForm options depth place c more starts
      rcases place with ⟨offset, _ | ⟨c, rest⟩⟩ <;> cases starts
      refine ⟨(readForm options ⟨offset, c :: more⟩ depth).notices, ?_⟩
      rw [readItems]
      simp only [if_neg notClose, if_neg notSpace]
      rw [(Exit.andThen_ok outcome).1, kept]
      rfl

theorem readForms_of_round {before after : List Form × Cursor}
    (round : Round options depth before after) :
    ∃ notices, (readForms options before.1 before.2 depth).toReading =
      (readForms options after.1 after.2 depth).toReading.after notices := by
  cases round with
  | @space forms place more starts =>
      rcases place with ⟨offset, _ | ⟨c, rest⟩⟩ <;> cases starts
      refine ⟨[], ?_⟩
      rw [readForms]
      rfl
  | @form forms place c more form starts notSpace notClose outcome =>
      have kept := @depth_readForm options depth place c more starts
      rcases place with ⟨offset, _ | ⟨c, rest⟩⟩ <;> cases starts
      refine ⟨(readForm options ⟨offset, c :: more⟩ depth).notices, ?_⟩
      rw [readForms]
      simp only [if_neg notClose, if_neg notSpace]
      rw [(Exit.andThen_ok outcome).1, kept]

theorem readItems_of_failure {place : Cursor} {c : Char} {more : List Char} {failure : Failure}
    (starts : place.rest = c :: more) (notSpace : c ≠ ' ') (notClose : c ≠ ')')
    (outcome : (readForm options place depth).outcome = .error failure) (start : Nat)
    (items : List Form) :
    (readItems options start items place depth).toReading =
      ⟨.error failure, (readForm options place depth).notices,
        (readForm options place depth).cursor⟩ := by
  rcases place with ⟨offset, _ | ⟨c, rest⟩⟩ <;> cases starts
  rw [readItems]
  simp only [if_neg notClose, if_neg notSpace]
  exact (Exit.andThen_error outcome).1

theorem cursor_readItems_of_ends {place : Cursor} (ends : Ends options depth place) (start : Nat)
    (items : List Form) :
    (readItems options start items place depth).cursor ∈
      [place, place.next, (readForm options place depth).cursor] := by
  cases ends with
  | text starts =>
      rcases place with ⟨offset, _ | ⟨c, rest⟩⟩ <;> cases starts
      rw [readItems]
      dsimp only
      split_ifs <;> exact List.mem_cons_self
  | close starts =>
      rcases place with ⟨offset, _ | ⟨c, rest⟩⟩ <;> cases starts
      rw [readItems]
      exact List.mem_cons_of_mem _ List.mem_cons_self
  | form starts notSpace notClose outcome =>
      rw [readItems_of_failure starts notSpace notClose outcome]
      simp

theorem cursor_readForms_of_ends {place : Cursor} (ends : Ends options depth place)
    (forms : List Form) :
    (readForms options forms place depth).cursor ∈
      [place, (readForm options place depth).cursor] := by
  rcases place with ⟨offset, _ | ⟨c, rest⟩⟩
  · rw [readForms]
    exact List.mem_cons_self
  · cases ends with
    | text starts => cases starts
    | close starts =>
        cases starts
        rw [readForms]
        exact List.mem_cons_self
    | form starts notSpace notClose outcome =>
        cases starts
        rw [readForms]
        simp only [if_neg notClose, if_neg notSpace]
        rw [(Exit.andThen_error outcome).1]
        simp

/-- A round takes a character and the loops go on after it, or it is their last one, and leaves the
cursor where it is, after a closing parenthesis or where a form has failed. -/
def TakesOrEnds (options : Options) (depth : Nat) (forms : List Form) (place : Cursor) : Prop :=
  (∃ after, Round options depth (forms, place) after ∧
    after.2.rest.length < place.rest.length ∧
    (∀ start, ∃ notices, (readItems options start forms place depth).toReading =
      (readItems options start after.1 after.2 depth).toReading.after notices) ∧
    ∃ notices, (readForms options forms place depth).toReading =
      (readForms options after.1 after.2 depth).toReading.after notices) ∨
  (Ends options depth place ∧
    (∀ start, (readItems options start forms place depth).cursor ∈
      [place, place.next, (readForm options place depth).cursor]) ∧
    (readForms options forms place depth).cursor ∈
      [place, (readForm options place depth).cursor])

theorem takesOrEnds (options : Options) (depth : Nat) (forms : List Form) (place : Cursor) :
    TakesOrEnds options depth forms place := by
  rcases round_or_ends options depth forms place with ⟨after, round⟩ | ends
  · exact .inl ⟨after, round, round.length_lt, readItems_of_round round,
      readForms_of_round round⟩
  · exact .inr ⟨ends, fun start => cursor_readItems_of_ends ends start forms,
      cursor_readForms_of_ends ends forms⟩

end Rounds

/-! ## Places -/

theorem leadsTo_readRun (kind : RunKind) (place : Cursor) (depth : Nat) :
    place.LeadsTo (readRun kind place depth).cursor :=
  place.leadsTo_dropWhile kind.accepts

theorem leadsTo_readString (options : Options) (place : Cursor) (depth : Nat) :
    place.LeadsTo (readString options place depth).cursor := by
  have closing := place.leadsTo_next.trans (place.next.leadsTo_dropWhile (· != doubleQuote))
  simp only [readString, takeString]
  split
  next => exact closing.trans (Cursor.leadsTo_next _)
  next => split_ifs <;> exact closing

/-- Nothing that is read at a place goes back. -/
structure GoesOn (options : Options) (place : Cursor) : Prop where
  form : ∀ depth, place.LeadsTo (readForm options place depth).cursor
  items : ∀ start items depth, place.LeadsTo (readItems options start items place depth).cursor

section Nesting

variable {options : Options} {depth : Nat}

theorem Round.leadsTo {before after : List Form × Cursor}
    (round : Round options depth before after)
    (form : before.2.LeadsTo (readForm options before.2 depth).cursor) :
    before.2.LeadsTo after.2 := by
  cases round with
  | space => exact Cursor.leadsTo_next _
  | form => exact form

theorem leadsTo_readList {place : Cursor}
    (items : place.next.LeadsTo
      (readItems options place.offset [] place.next (depth + 1)).cursor) :
    place.LeadsTo (readList options place depth).cursor := by
  rw [readList]
  cases refusal? options place.offset (depth + 1) with
  | some failure => exact place.leadsTo_next
  | none => exact place.leadsTo_next.trans items

theorem leadsTo_readQuote {place : Cursor}
    (inner : place.next.LeadsTo (readForm options place.next (depth + 1)).cursor) :
    place.LeadsTo (readQuote options place depth).cursor := by
  rw [readQuote]
  split
  next =>
    cases refusal? options place.offset (depth + 1) with
    | some failure => exact place.leadsTo_next
    | none => exact place.leadsTo_next.trans inner
  next => exact place.leadsTo_next

theorem leadsTo_readForm {place : Cursor}
    (list : place.LeadsTo (readList options place depth).cursor)
    (quote : place.LeadsTo (readQuote options place depth).cursor) :
    place.LeadsTo (readForm options place depth).cursor := by
  rcases place with ⟨offset, _ | ⟨c, more⟩⟩
  · rw [readForm]
    exact .refl _
  · change LeadsTo _ (readForm options ⟨offset, c :: more⟩ depth).counted.1.cursor
    rw [counted_readForm]
    split
    next => exact list
    next => exact quote
    next => exact leadsTo_readString options _ depth
    next kind _ _ _ => exact leadsTo_readRun kind _ depth
    next => exact .refl _
    next => exact .refl _

theorem goesOn (options : Options) (place : Cursor) : GoesOn options place := by
  induction size : place.rest.length using Nat.strong_induction_on generalizing place with
  | _ size inductionHypothesis =>
      subst size
      have form : ∀ depth, place.LeadsTo (readForm options place depth).cursor := by
        intro depth
        rcases place with ⟨offset, _ | ⟨c, more⟩⟩
        · rw [readForm]
          exact .refl _
        · have inner := inductionHypothesis _ (Nat.lt_succ_self more.length) ⟨offset + 1, more⟩ rfl
          exact leadsTo_readForm (leadsTo_readList (inner.items offset [] (depth + 1)))
            (leadsTo_readQuote (inner.form (depth + 1)))
      refine ⟨form, fun start items depth => ?_⟩
      rcases round_or_ends options depth items place with ⟨after, round⟩ | ends
      · obtain ⟨notices, goesOn⟩ := readItems_of_round round start
        have later := inductionHypothesis _ round.length_lt after.2 rfl
        rw [goesOn]
        exact (round.leadsTo (form depth)).trans (later.items start after.1 depth)
      · have ended := cursor_readItems_of_ends ends start items
        simp only [List.mem_cons, List.not_mem_nil, or_false] at ended
        rcases ended with stays | takes | fails
        · rw [stays]
          exact .refl place
        · rw [takes]
          exact place.leadsTo_next
        · rw [fails]
          exact form depth

theorem leadsTo_readForms (options : Options) (forms : List Form) (place : Cursor) (depth : Nat) :
    place.LeadsTo (readForms options forms place depth).cursor := by
  induction size : place.rest.length using Nat.strong_induction_on generalizing forms place with
  | _ size inductionHypothesis =>
      subst size
      have form := (goesOn options place).form depth
      rcases round_or_ends options depth forms place with ⟨after, round⟩ | ends
      · obtain ⟨notices, goesOn⟩ := readForms_of_round round
        rw [goesOn]
        exact (round.leadsTo form).trans
          (inductionHypothesis _ round.length_lt after.1 after.2 rfl)
      · have ended := cursor_readForms_of_ends ends forms
        simp only [List.mem_cons, List.not_mem_nil, or_false] at ended
        rcases ended with stays | fails
        · rw [stays]
          exact .refl place
        · rw [fails]
          exact form

end Nesting

namespace Exit

theorem leadsTo_andThen {α β : Type} {limit other : Nat} {exit : Exit α limit}
    {next : ∀ value, exit.outcome = .ok value → Exit β other} {place : Cursor}
    (leads : place.LeadsTo exit.cursor)
    (leadsOn : ∀ value outcome, exit.cursor.LeadsTo (next value outcome).cursor) :
    place.LeadsTo (exit.andThen next).cursor := by
  rcases exit.outcome_cases with ⟨failure, outcome⟩ | ⟨value, outcome⟩
  · rw [(andThen_error outcome).1]
    exact leads
  · rw [(andThen_ok outcome).1]
    exact leads.trans (leadsOn value outcome)

end Exit

/-- Every method goes on from its place, or stays there. -/
theorem leadsTo_read (options : Options) (place : Cursor) (depth : Nat) (method : Method) :
    place.LeadsTo (read options place depth method).1.cursor := by
  have all := leadsTo_readForms options [] place depth
  cases method with
  | form => exact (goesOn options place).form depth
  | run kind => exact leadsTo_readRun kind place depth
  | string => exact leadsTo_readString options place depth
  | list => exact leadsTo_readList ((goesOn options place.next).items _ _ _)
  | quote => exact leadsTo_readQuote ((goesOn options place.next).form _)
  | all => exact all
  | first =>
      refine Exit.leadsTo_andThen all ?_
      intro forms outcome
      rcases forms with _ | ⟨only, _ | ⟨second, others⟩⟩ <;> exact .refl _

/-! ## Forms inside forms -/

section Calls

variable {options : Options} {depth : Nat}

/-- The forms that have to be read at their places before a form at a place has been read, and the
nesting counted there. -/
inductive Inner (options : Options) : Cursor × Nat → Cursor × Nat → Prop where
  | quote {place : Cursor} {depth : Nat} {more : List Char} :
      place.rest = apostrophe :: more →
      State.followsQuote place.next.rest.head? = true →
      refusal? options place.offset (depth + 1) = none →
      Inner options (place, depth) (place.next, depth + 1)
  | item {place later : Cursor} {depth : Nat} {more rest : List Char} {items : List Form}
      {c : Char} :
      place.rest = '(' :: more →
      refusal? options place.offset (depth + 1) = none →
      Relation.ReflTransGen (Round options (depth + 1)) ([], place.next) (items, later) →
      later.rest = c :: rest → c ≠ ' ' → c ≠ ')' →
      Inner options (place, depth) (later, depth + 1)

theorem length_rest_le_of_rounds {before after : List Form × Cursor}
    (rounds : Relation.ReflTransGen (Round options depth) before after) :
    after.2.rest.length ≤ before.2.rest.length := by
  induction rounds with
  | refl => exact Nat.le_refl _
  | tail _ round inductionHypothesis =>
      exact Nat.le_trans (Nat.le_of_lt round.length_lt) inductionHypothesis

theorem readItems_of_rounds {before after : List Form × Cursor}
    (rounds : Relation.ReflTransGen (Round options depth) before after) (start : Nat) :
    ∃ notices, (readItems options start before.1 before.2 depth).toReading =
      (readItems options start after.1 after.2 depth).toReading.after notices := by
  induction rounds with
  | refl => exact ⟨[], rfl⟩
  | tail _ round inductionHypothesis =>
      obtain ⟨notices, before⟩ := inductionHypothesis
      obtain ⟨more, after⟩ := readItems_of_round round start
      exact ⟨notices ++ more, by rw [before, after, Reading.after_after]⟩

theorem Inner.length_lt {outer inner : Cursor × Nat} (calls : Inner options outer inner) :
    inner.1.rest.length < outer.1.rest.length := by
  cases calls with
  | quote starts => exact Cursor.length_rest_next_lt starts
  | item starts _ rounds =>
      exact Nat.lt_of_le_of_lt (length_rest_le_of_rounds rounds) (Cursor.length_rest_next_lt starts)

/-- The forms inside forms are read at places with fewer and fewer characters. -/
theorem wellFounded_inner (options : Options) :
    WellFounded fun inner outer => Inner options outer inner :=
  Subrelation.wf Inner.length_lt (measure fun called : Cursor × Nat => called.1.rest.length).wf

theorem readForm_quote {place : Cursor} {more : List Char}
    (starts : place.rest = apostrophe :: more) :
    (readForm options place depth).toReading = (readQuote options place depth).toReading := by
  rcases place with ⟨offset, _ | ⟨c, rest⟩⟩ <;> cases starts
  exact congrArg Prod.fst (counted_readForm options offset apostrophe more depth)

theorem readForm_list {place : Cursor} {more : List Char} (starts : place.rest = '(' :: more) :
    (readForm options place depth).toReading = (readList options place depth).toReading := by
  rcases place with ⟨offset, _ | ⟨c, rest⟩⟩ <;> cases starts
  exact congrArg Prod.fst (counted_readForm options offset '(' more depth)

/-- A form inside a form is read for it: if the inner one fails, so does the outer one. -/
theorem Inner.outcome_error {outer inner : Cursor × Nat} (calls : Inner options outer inner)
    {failure : Failure} (fails : (readForm options inner.1 inner.2).outcome = .error failure) :
    (readForm options outer.1 outer.2).outcome = .error failure := by
  cases calls with
  | @quote place depth more starts follows admitted =>
      rw [readForm_quote starts, readQuote, if_pos follows, admitted]
      exact congrArg (Except.map Tree.quote) fails
  | @item place later depth more rest items c starts admitted rounds laterStarts notSpace
      notClose =>
      obtain ⟨notices, reads⟩ := readItems_of_rounds rounds place.offset
      rw [readForm_list starts, readList, admitted]
      refine (congrArg Reading.outcome reads).trans ?_
      rw [readItems_of_failure laterStarts notSpace notClose fails]
      rfl

end Calls

end Descent

/-- Reading goes on from a place in a text to a later one, and a form takes a character.  So the
loops come to an end, and the forms inside forms do. -/
theorem Method.read_progress (options : Options) (method : Method) {text : String} {offset : Nat}
    (within : offset ≤ text.length) :
    let reading := method.read options (.ofOffset text.toList offset)
    (offset ≤ reading.cursor.offset ∧ reading.cursor.offset ≤ text.length ∧
      reading.cursor = .ofOffset text.toList reading.cursor.offset) ∧
    (∀ form, method = .form → reading.outcome = .ok form → offset < reading.cursor.offset) ∧
    (∀ form, method = .all → reading.outcome = .ok form →
      reading.cursor.offset = text.length) ∧
    Descent.read options (.ofOffset text.toList offset) 0 method = (reading, 0) ∧
    (∀ depth (place : Cursor),
      place.LeadsTo (Descent.read options place depth method).1.cursor) ∧
    (∀ depth forms place, Descent.TakesOrEnds options depth forms place) ∧
    (∀ outer inner, Descent.Inner options outer inner →
      inner.1.rest.length < outer.1.rest.length ∧
      ∀ failure, (Descent.readForm options inner.1 inner.2).outcome = .error failure →
        (Descent.readForm options outer.1 outer.2).outcome = .error failure) ∧
    WellFounded fun inner outer => Descent.Inner options outer inner := by
  intro reading
  have descends := Descent.read_eq options (.ofOffset text.toList offset) method
  have leads : (Cursor.ofOffset text.toList offset).LeadsTo reading.cursor := by
    have leads := Descent.leadsTo_read options (.ofOffset text.toList offset) 0 method
    rwa [descends] at leads
  rw [← String.length_toList] at within ⊢
  obtain ⟨bound, later⟩ := leads.eq_ofOffset within
  refine ⟨⟨leads.offset_le, bound, later⟩, ?form, ?all, descends,
    fun depth place => Descent.leadsTo_read options place depth method,
    Descent.takesOrEnds options, fun outer inner calls =>
      ⟨calls.length_lt, fun failure fails => calls.outcome_error fails⟩,
    Descent.wellFounded_inner options⟩
  case form =>
    rintro form rfl outcome
    have exit : (Descent.readForm options (.ofOffset text.toList offset) 0).toReading = reading :=
      congrArg Prod.fst descends
    rw [← exit] at leads outcome ⊢
    exact leads.offset_lt (Descent.length_rest_of_readForm outcome)
  case all =>
    rintro form rfl outcome
    have exit : (Descent.readAll options (.ofOffset text.toList offset) 0).toReading = reading :=
      congrArg Prod.fst descends
    rw [← exit] at bound later outcome ⊢
    have nothingLeft := Descent.Exit.within _ form outcome
    have left := (congrArg (fun place : Cursor => place.rest.length) later).trans List.length_drop
    omega

/-- A list that is closed, before the end of the text. -/
theorem Method.read_progress_list :
    let reading := Method.form.read {} (.ofOffset "('a 1) b".toList 0)
    0 < reading.cursor.offset ∧ reading.cursor.offset ≤ 8 ∧
      reading.cursor = .ofOffset "('a 1) b".toList reading.cursor.offset := by
  have progress := Method.read_progress {} .form (show 0 ≤ "('a 1) b".length from Nat.zero_le _)
  have outcome : (Method.form.read {} (.ofOffset "('a 1) b".toList 0)).outcome =
      .ok (.list [.quote (.leaf (.symbol "a")), .leaf (.int 1)]) := by
    decide
  exact ⟨progress.2.1 _ rfl outcome, progress.1.2.1, progress.1.2.2⟩

end Sexpr.Reader
