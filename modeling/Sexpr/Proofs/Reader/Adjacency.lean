import Sexpr.Proofs.Reader.RoundTrip

/-!
Printed forms without spaces between them.

Two forms can be printed side by side unless the second goes on with the run at the end of the
first.  The reader then takes a longer run.  A longer name denotes something else, and a longer
number has taken all of the second form.
-/

namespace Sexpr

open Reader.Grammar (EndsBefore FormAt Lexeme)
open Reader.State (opening?)

namespace Form

/-- The second form goes on with the run at the end of the first. -/
def Merges (form next : Form) : Prop :=
  ∃ kind ∈ form.lastRun?, next.source.head?.any kind.accepts = true

instance (form next : Form) : Decidable (form.Merges next) :=
  inferInstanceAs (Decidable (∃ kind ∈ form.lastRun?, next.source.head?.any kind.accepts = true))

theorem endsBefore_of_not_merges {form next : Form} {kind : RunKind}
    (apart : ¬ form.Merges next) (last : form.lastRun? = some kind) :
    EndsBefore kind next.source :=
  Bool.eq_false_iff.mpr fun continues => apart ⟨kind, last, continues⟩

theorem formAt_source_nil {form : Form} (wellFormed : form.WellFormed) :
    FormAt form.source form [] := by
  have derived : FormAt (form.source ++ []) form [] :=
    formAt_source wellFormed (by simp [IsSeparated])
  rwa [List.append_nil] at derived

/-- The source text of a form starts with a character that opens one. -/
theorem exists_source_eq_cons {form : Form} (wellFormed : form.WellFormed) :
    ∃ c more scan, form.source = c :: more ∧ opening? 0 c = some scan :=
  (formAt_source_nil wellFormed).opening 0

end Form

theorem length_source_of_same_symbol {name : List Char} {atom : Atom}
    (same : (Atom.symbol (String.ofList name)).same atom = true) :
    atom.source.length = name.length := by
  cases atom with
  | symbol text =>
      obtain rfl := beq_iff_eq.mp same
      rw [Atom.source, String.toList_ofList]
  | _ => cases same

/-- A run that is no number is as long as the source text of the atom that it denotes. -/
theorem length_source_of_same {kind : RunKind} {run : List Char} {found atom : Atom}
    (lexeme : Lexeme kind run found) (noNumber : kind ≠ .number) (same : found.same atom = true) :
    atom.source.length = run.length := by
  cases lexeme with
  | integer areDigits few fits => exact absurd rfl noNumber
  | decimal whole fraction rounded => exact absurd rfl noNumber
  | constant named =>
      rcases constantNamed?_cases named with ⟨rfl, rfl | rfl⟩ | ⟨rfl, rfl⟩
      all_goals
        cases atom <;> cases same
        rfl
  | plain plain ordinary => exact length_source_of_same_symbol same
  | keyword valid => exact length_source_of_same_symbol same
  | special valid => exact length_source_of_same_symbol same

end Sexpr

namespace Sexpr.Reader.Grammar

open State (opening?)
open Text.Quoted (doubleQuote apostrophe)

/-- Where a run opens, the form is the atom that the whole run denotes. -/
theorem FormAt.exists_lexeme {kind : RunKind} {c : Char} {text more rest : List Char} {form : Form}
    (derived : FormAt text form rest) (begins : text = c :: more)
    (opening : opening? 0 c = some (.run kind 0 [c])) :
    ∃ atom, form = .leaf atom ∧ Lexeme kind (text.takeWhile kind.accepts) atom ∧
      rest = text.dropWhile kind.accepts := by
  cases derived with
  | run lexeme ends =>
      have sameKind := lexeme.opening_of_append 0 begins
      rw [opening] at sameKind
      cases sameKind
      obtain ⟨taken, dropped⟩ := takeWhile_append_of_ends _ lexeme.accepts ends
      rw [taken, dropped]
      exact ⟨_, rfl, lexeme, rfl⟩
  | string free =>
      cases begins
      cases opening
  | quote inner =>
      cases begins
      cases opening
  | list items =>
      cases begins
      cases opening

theorem FormAt.exists_inner {text rest : List Char} {form : Form}
    (derived : FormAt (apostrophe :: text) form rest) :
    ∃ inner, form = .quote inner ∧ FormAt text inner rest := by
  generalize whole : apostrophe :: text = written at derived
  cases derived with
  | run lexeme ends => cases lexeme.opening_of_append 0 whole.symm
  | string free => cases whole
  | quote inner =>
      cases whole
      exact ⟨_, rfl, inner⟩
  | list items => cases whole

theorem FormsAt.exists_first {c : Char} {text more rest : List Char} {form : Form}
    {forms : List Form} (derived : FormsAt text (form :: forms) rest) (begins : text = c :: more)
    (notSpace : c ≠ ' ') : ∃ middle, FormAt text form middle ∧ FormsAt middle forms rest := by
  cases derived with
  | space later =>
      cases begins
      exact absurd rfl notSpace
  | form first others => exact ⟨_, first, others⟩

/-- Nothing but a string starts among the characters that close a text. -/
theorem FormsAt.exists_string_of_closing {text rest : List Char} {form : Form} {forms : List Form}
    (derived : FormsAt text (form :: forms) rest)
    (closing : ∀ c ∈ text, c = doubleQuote ∨ c = ')') :
    ∃ content, form = .leaf (.string content) := by
  cases derived with
  | space later =>
      rcases closing ' ' List.mem_cons_self with equality | equality <;> cases equality
  | form first others =>
      obtain ⟨c, more, scan, rfl, opening⟩ := first.opening 0
      rcases closing c List.mem_cons_self with rfl | rfl
      · generalize whole : doubleQuote :: more = written at first
        cases first with
        | run lexeme ends => cases lexeme.opening_of_append 0 whole.symm
        | string free => exact ⟨_, rfl⟩
        | quote inner => cases whole
        | list items => cases whole
      · cases opening

end Sexpr.Reader.Grammar

namespace Sexpr.Reader

open Grammar (FormAt FormsAt Lexeme)
open Text.Quoted (doubleQuote)

/-! ## Apart -/

/-- Forms of which no two neighbours merge denote themselves side by side. -/
theorem formsAt_flatMap_source {forms : List Form} {rest : List Char}
    (wellFormed : ∀ form ∈ forms, form.WellFormed)
    (apart : forms.IsChain fun form next => ¬ form.Merges next) (separated : IsSeparated rest) :
    FormsAt (forms.flatMap Form.source ++ rest) forms rest := by
  induction apart with
  | nil => exact .none
  | singleton form =>
      rw [List.flatMap_singleton]
      exact .form (formAt_source (wellFormed form List.mem_cons_self) separated) .none
  | @cons_cons form next forms apart others inductionHypothesis =>
      rw [List.forall_mem_cons] at wellFormed
      obtain ⟨c, more, _, begins, _⟩ :=
        Form.exists_source_eq_cons (wellFormed.2 next List.mem_cons_self)
      have first : FormAt (form.source ++ ((next :: forms).flatMap Form.source ++ rest)) form
          ((next :: forms).flatMap Form.source ++ rest) := by
        refine formAt_source_of_ends wellFormed.1 fun kind last => ?_
        have ends := Form.endsBefore_of_not_merges apart last
        rw [begins] at ends
        rw [List.flatMap_cons, begins]
        exact ends
      rw [List.flatMap_cons, List.append_assoc]
      exact .form first (inductionHypothesis wellFormed.2)

/-! ## Merging -/

/-- The form that is read where a run goes on is another one, or a number that has taken all that
belongs to the run. -/
theorem eq_number_of_continues {form found : Form} {kind : RunKind} {tail rest : List Char}
    (wellFormed : form.WellFormed) (last : form.lastRun? = some kind)
    (continues : tail.head?.any kind.accepts = true)
    (derived : FormAt (form.source ++ tail) found rest) (same : found.same form = true) :
    kind = .number ∧ rest = tail.dropWhile kind.accepts := by
  induction form using Tree.induct generalizing found with
  | leaf atom =>
      have lexeme := lexeme_source (Form.wellFormed_leaf.mp wellFormed) last
      obtain ⟨c, more, begins, opening⟩ := lexeme.opening 0
      rw [Form.source_leaf] at derived
      obtain ⟨foundAtom, rfl, longer, left⟩ := derived.exists_lexeme (by rw [begins]; rfl) opening
      rw [List.takeWhile_append_of_pos lexeme.accepts] at longer
      rw [List.dropWhile_append_of_pos lexeme.accepts] at left
      refine ⟨?_, left⟩
      by_contra noNumber
      have length := length_source_of_same longer noNumber same
      cases tail with
      | nil => cases continues
      | cons d tail =>
          have accepted : kind.accepts d = true := continues
          rw [List.takeWhile_cons_of_pos accepted, List.length_append, List.length_cons] at length
          omega
  | quote inner inductionHypothesis =>
      rw [Form.source_quote, List.cons_append] at derived
      obtain ⟨foundInner, rfl, innerDerived⟩ := derived.exists_inner
      exact inductionHypothesis wellFormed last innerDerived same
  | list items inductionHypothesis => cases last

/-- A form that goes on with a number is a number itself. -/
theorem exists_number_of_continues {form : Form} (wellFormed : form.WellFormed)
    (continues : form.source.head?.any RunKind.number.accepts = true) :
    ∃ atom, form = .leaf atom ∧ Lexeme .number form.source atom := by
  obtain ⟨c, more, scan, begins, opening⟩ := Form.exists_source_eq_cons wellFormed
  rw [begins] at continues
  have starts : c.isDigit = true ∨ c = '-' := by
    have accepted : RunKind.number.accepts c = true := continues
    simp only [RunKind.accepts, Bool.or_eq_true, beq_iff_eq] at accepted
    rcases accepted with starts | rfl
    · exact starts
    · cases opening
  obtain ⟨atom, isLeaf, lexeme, left⟩ :=
    (Form.formAt_source_nil wellFormed).exists_lexeme begins (State.opening?_number 0 starts)
  have whole := List.takeWhile_append_dropWhile (p := RunKind.number.accepts) (l := form.source)
  rw [← left, List.append_nil] at whole
  rw [whole] at lexeme
  exact ⟨atom, isLeaf, lexeme⟩

/-- Forms that merge do not denote themselves side by side, even if the text is closed at its
end. -/
theorem sameAll_eq_false_of_merges {form next : Form} {closing : List Char} {forms : List Form}
    (wellFormed : form.WellFormed) (nextWellFormed : next.WellFormed) (merges : form.Merges next)
    (closes : ∀ c ∈ closing, c = doubleQuote ∨ c = ')')
    (derived : FormsAt (form.source ++ next.source ++ closing) forms []) :
    Form.sameAll forms [form, next] = false := by
  apply Bool.eq_false_iff.mpr
  intro allSame
  obtain ⟨kind, last, continues⟩ := merges
  obtain ⟨c, more, _, begins, opening⟩ := Form.exists_source_eq_cons wellFormed
  have goesOn : (next.source ++ closing).head?.any kind.accepts = true := by
    obtain ⟨d, others, _, nextBegins, _⟩ := Form.exists_source_eq_cons nextWellFormed
    rw [nextBegins] at continues ⊢
    exact continues
  cases Form.forall₂_of_sameAll (fun _ _ _ same => same) allSame with
  | cons same afterFirst =>
      cases afterFirst with
      | cons nextSame afterSecond =>
          cases afterSecond
          obtain ⟨middle, first, second⟩ := derived.exists_first
            (by rw [begins]; rfl) (State.ne_of_opening opening).1
          rw [List.append_assoc] at first
          obtain ⟨rfl, left⟩ := eq_number_of_continues wellFormed last goesOn first same
          -- The run has taken the whole second form, so only the end of the text is left for it.
          obtain ⟨atom, rfl, lexeme⟩ := exists_number_of_continues nextWellFormed continues
          rw [List.dropWhile_append_of_pos lexeme.accepts] at left
          have remaining : ∀ d ∈ middle, d = doubleQuote ∨ d = ')' := by
            intro d membership
            rw [left] at membership
            exact closes d ((List.dropWhile_sublist _).subset membership)
          obtain ⟨content, rfl⟩ := second.exists_string_of_closing remaining
          generalize Form.source (.leaf atom) = run at lexeme
          cases lexeme <;> cases nextSame

/-! ## Reading -/

theorem toList_join_print (forms : List Form) :
    (String.join (forms.map Form.print)).toList = forms.flatMap Form.source := by
  rw [String.toList_join, List.flatMap_map]
  simp only [Form.print, String.toList_ofList]

/-- What a text denotes is read if the limit allows it and the stack has room for it. -/
theorem readAll_of_formsAt {options : Options} {text : String} {forms : List Form}
    (derived : FormsAt text.toList forms [])
    (shallow : ∀ form ∈ forms, form.depth ≤ options.maxDepth ∧ form.depth ≤ options.room.reading) :
    readAll options text = ⟨.ok (.list forms), [], ⟨text.length, []⟩⟩ := by
  have narrower : Tree.depthAll forms ≤ options.maxDepth :=
    Tree.depthAll_le_iff.mpr fun form membership => (shallow form membership).1
  have ample : Tree.depthAll forms ≤ options.room.reading :=
    Tree.depthAll_le_iff.mpr fun form membership => (shallow form membership).2
  have read : readAll ⟨Tree.depthAll forms, options.strict, options.room⟩ text =
      ⟨.ok (.list forms), [], ⟨text.length, []⟩⟩ := by
    rw [readAll_eq, derived.advance_initial ample (Nat.le_refl _), Reading.catching_of_ok rfl,
      String.length_toList]
    simp only [Reading.map, Except.map, List.reverse_reverse]
  rcases readAll_limit narrower options.strict options.room text with same | ⟨⟨start, stops⟩, _⟩
  · rw [← read, same]
  · rw [read] at stops
    cases stops.1

/-- Printed forms are read again without separators, alone or in parentheses, unless two neighbours
merge.  Two forms that merge are not read again as they are. -/
theorem readAll_join_print (maxDepth : Nat) (strict : Bool) {room : Room} :
    (∀ forms : List Form, (∀ form ∈ forms, form.WellFormed) →
      (forms.IsChain fun form next => ¬ form.Merges next) →
      (∀ form ∈ forms, form.depth ≤ maxDepth) →
      ((∀ form ∈ forms, form.depth ≤ room.reading) →
        (readAll ⟨maxDepth, strict, room⟩ (String.join (forms.map Form.print))).outcome =
          .ok (.list forms)) ∧
      ((Tree.list forms).depth ≤ room.reading →
        (readAll ⟨maxDepth + 1, strict, room⟩
          ("(" ++ String.join (forms.map Form.print) ++ ")")).outcome =
            .ok (.list [.list forms]))) ∧
    (∀ form next : Form, form.WellFormed → next.WellFormed → form.Merges next →
      ∀ found, (readAll ⟨maxDepth, strict, room⟩ (form.print ++ next.print)).outcome = .ok found →
        found.same (.list [form, next]) = false) := by
  refine ⟨?_, ?_⟩
  · intro forms wellFormed apart shallow
    refine ⟨fun ample => ?_, fun ample => ?_⟩
    · have derived := @formsAt_flatMap_source forms [] wellFormed apart (by simp [IsSeparated])
      rw [List.append_nil, ← toList_join_print] at derived
      rw [readAll_of_formsAt derived fun form membership =>
        ⟨shallow form membership, ample form membership⟩]
    · have items := @formsAt_flatMap_source forms [')'] wellFormed apart (by simp [IsSeparated])
      have derived : FormsAt ("(" ++ String.join (forms.map Form.print) ++ ")").toList
          [.list forms] [] := by
        rw [String.toList_append, String.toList_append, toList_join_print]
        exact .form (.list items) .none
      have shallowItems : Tree.depthAll forms ≤ maxDepth := Tree.depthAll_le_iff.mpr shallow
      have enclosed : ∀ form ∈ [Tree.list forms],
          form.depth ≤ maxDepth + 1 ∧ form.depth ≤ room.reading := by
        rw [Tree.depth_list] at ample
        rw [List.forall_mem_singleton, Tree.depth_list]
        exact ⟨Nat.succ_le_succ shallowItems, ample⟩
      rw [readAll_of_formsAt derived enclosed]
  · intro form next wellFormed nextWellFormed merges found outcome
    obtain ⟨forms, rfl, read⟩ := readAll_eq_ok_iff.mp outcome
    obtain ⟨closing, closes, strictly⟩ := exists_strict_of_advance read
    have derived := formsAt_of_advance strictly
    rw [List.reverse_reverse, String.toList_append, Form.print, Form.print, String.toList_ofList,
      String.toList_ofList] at derived
    exact sameAll_eq_false_of_merges wellFormed nextWellFormed merges closes derived

theorem readAll_join_print_sign :
    ∃ forms : List Form, String.join (forms.map Form.print) = "'(a)-7'b\"c\"*d*()" ∧
      (∀ form ∈ forms, form.WellFormed) ∧
      (forms.IsChain fun form next => ¬ form.Merges next) ∧
      (∀ form ∈ forms, form.depth ≤ 2) ∧ (Tree.list forms).depth ≤ ({} : Room).reading ∧
      (readAll ⟨2, true, {}⟩ (String.join (forms.map Form.print))).outcome = .ok (.list forms) ∧
      (readAll ⟨2 + 1, true, {}⟩ ("(" ++ String.join (forms.map Form.print) ++ ")")).outcome =
        .ok (.list [.list forms]) ∧
      ∃ form next : Form, form.WellFormed ∧ next.WellFormed ∧ form.Merges next ∧
        form.print ++ next.print = "'b-7" ∧
        (readAll ⟨2, true, {}⟩ (form.print ++ next.print)).outcome ≠ .ok (.list [form, next]) := by
  obtain ⟨forms, areForms⟩ : ∃ forms : List Form, forms = [.quote (.list [.leaf (.symbol "a")]),
      .leaf (.int (-7)), .quote (.leaf (.symbol "b")), .leaf (.string "c"),
      .leaf (.symbol "*d*"), .list []] := ⟨_, rfl⟩
  have wellFormed : ∀ form ∈ forms, form.WellFormed := by
    rw [areForms]
    decide
  have apart : forms.IsChain fun form next => ¬ form.Merges next := by
    rw [areForms]
    decide
  have shallow : ∀ form ∈ forms, form.depth ≤ 2 := by
    rw [areForms]
    decide
  have ample : (Tree.list forms).depth ≤ ({} : Room).reading := by
    rw [areForms]
    decide
  obtain ⟨alone, enclosed⟩ := (readAll_join_print 2 true).1 forms wellFormed apart shallow
  have printed : String.join (forms.map Form.print) = "'(a)-7'b\"c\"*d*()" := by
    rw [areForms]
    decide
  refine ⟨forms, printed, wellFormed, apart, shallow, ample,
    alone fun form membership => Nat.le_trans (shallow form membership) (by decide), enclosed ample,
    .quote (.leaf (.symbol "b")), .leaf (.int (-7)), by decide, by decide, by decide, by decide, ?_⟩
  intro outcome
  have differs := (readAll_join_print 2 true).2 _ _ (by decide) (by decide) (by decide) _ outcome
  cases differs

end Sexpr.Reader
