import Sexpr.Proofs.Reader.Printed
import Sexpr.Proofs.Reader.Recovery
import Sexpr.Proofs.Reader.Soundness

/-!
What is printed is read again, exactly when it can be.

Whatever the reader returns is well-formed and within the limit, so nothing else comes back from
print.  What is both denotes itself in print, and a text of the language is read as it denotes.
-/

namespace Sexpr.Reader

open Grammar (FormAt FormsAt Lexeme)

/-- What a run denotes is well-formed. -/
theorem Grammar.Lexeme.isWellFormed {kind : RunKind} {run : List Char} {atom : Atom}
    (lexeme : Lexeme kind run atom) : atom.isWellFormed = true := by
  cases lexeme with
  | integer areDigits few fits => exact fits
  | decimal whole fraction rounded => exact (Binary64.ofRatio?_eq_some_iff.mp rounded).1
  | constant named => rcases constantNamed?_cases named with ⟨rfl, _⟩ | ⟨rfl, _⟩ <;> rfl
  | plain plain ordinary => simp [Atom.isWellFormed, plain, ordinary]
  | keyword valid => simp [Atom.isWellFormed, valid]
  | special valid => simp [Atom.isWellFormed, valid]

mutual

theorem Grammar.FormAt.wellFormed {text rest : List Char} {form : Form} :
    FormAt text form rest → form.WellFormed
  | .run lexeme _ => Form.wellFormed_leaf.mpr lexeme.isWellFormed
  | .string free => by
      apply Form.wellFormed_leaf.mpr
      simpa [Atom.isWellFormed, Text.Quoted.doubleQuote] using free
  | .quote derived => Form.wellFormed_quote.mpr (Grammar.FormAt.wellFormed derived)
  | .list derived => Form.wellFormed_list.mpr (Grammar.FormsAt.wellFormed derived)

theorem Grammar.FormsAt.wellFormed {text rest : List Char} {forms : List Form} :
    FormsAt text forms rest → ∀ form ∈ forms, form.WellFormed
  | .none => by simp
  | .space derived => Grammar.FormsAt.wellFormed derived
  | .form first others => by
      rw [List.forall_mem_cons]
      exact ⟨Grammar.FormAt.wellFormed first, Grammar.FormsAt.wellFormed others⟩

end

theorem mem_flatMap_closing {notices : List Notice} {c : Char}
    (membership : c ∈ notices.flatMap Notice.closing) : c = Text.Quoted.doubleQuote ∨ c = ')' := by
  obtain ⟨notice, _, closes⟩ := List.mem_flatMap.mp membership
  cases notice with
  | closedString start => exact .inl (List.mem_singleton.mp closes)
  | closedList start => exact .inr (List.mem_singleton.mp closes)
  | discarded count => cases closes

/-- Whatever is read is also read strictly, when the text is closed at its end. -/
theorem exists_strict_of_advance {options : Options} {text : List Char} {forms : List Form}
    (outcome : (advance options .all .initial 0 text).outcome = .ok forms) :
    ∃ closing, (∀ c ∈ closing, c = Text.Quoted.doubleQuote ∨ c = ')') ∧
      (advance ⟨options.maxDepth, true, options.room⟩ .all .initial 0 (text ++ closing)).outcome =
        .ok forms := by
  rcases options with ⟨maxDepth, strict, room⟩
  have unchanged : (advance ⟨maxDepth, true, room⟩ .all .initial 0 text).outcome = .ok forms →
      ∃ closing : List Char, (∀ c ∈ closing, c = Text.Quoted.doubleQuote ∨ c = ')') ∧
        (advance ⟨maxDepth, true, room⟩ .all .initial 0 (text ++ closing)).outcome = .ok forms := by
    intro outcome
    refine ⟨[], by simp, ?_⟩
    rwa [List.append_nil]
  cases strict with
  | true => exact unchanged outcome
  | false =>
      rcases advance_lenient maxDepth room text with
        ⟨same, _, _⟩ | ⟨_, notice, read, others, enclosing, _, _, lenient, _, _, _, _, closes⟩
      · rw [same] at outcome
        exact unchanged outcome
      · rw [lenient room.closing] at outcome
        split at outcome
        all_goals cases outcome
        exact ⟨_, fun _ membership => mem_flatMap_closing membership, closes⟩

theorem wellFormed_of_advance {options : Options} {text : List Char} {forms : List Form}
    (outcome : (advance options .all .initial 0 text).outcome = .ok forms) :
    ∀ form ∈ forms, form.WellFormed := by
  obtain ⟨closing, _, strict⟩ := exists_strict_of_advance outcome
  intro form membership
  exact (formsAt_of_advance strict).wellFormed form (List.mem_reverse.mpr membership)

theorem wellFormed_of_readFirst {options : Options} {text : String} {form : Form}
    (outcome : (readFirst options text).outcome = .ok form) :
    form.WellFormed ∧ form.depth ≤ options.maxDepth := by
  obtain ⟨forms, read, membership⟩ := exists_of_readFirst outcome
  refine ⟨wellFormed_of_advance read form membership, ?_⟩
  exact Tree.depthAll_le_iff.mp (depthAll_of_advance read) form membership

theorem readFirst_print_of_wellFormed {options : Options} {form : Form}
    (ample : options.maxDepth ≤ options.room.reading) (wellFormed : form.WellFormed)
    (shallow : form.depth ≤ options.maxDepth) :
    readFirst options form.print = ⟨.ok form, [], ⟨form.source.length, []⟩⟩ := by
  have printed : FormAt form.source form [] := by
    have derived : FormAt (form.source ++ []) form [] :=
      formAt_source wellFormed (by simp [IsSeparated])
    rwa [List.append_nil] at derived
  have read := (FormsAt.form printed .none).advance_initial ample (by simpa using shallow)
  apply readFirst_of_advance
  rw [Form.print, String.toList_ofList]
  exact read

/-- Printing and reading lose nothing, and add nothing, of a form that is well-formed and not
too deep.  No other form comes back. -/
theorem readFirst_print (options : Options) (ample : options.maxDepth ≤ options.room.reading)
    (form : Form) :
    ((∃ found, (readFirst options form.print).outcome = .ok found ∧ form.same found = true) ↔
      form.WellFormed ∧ form.depth ≤ options.maxDepth) ∧
    (form.WellFormed → form.depth ≤ options.maxDepth →
      readFirst options form.print = ⟨.ok form, [], ⟨form.source.length, []⟩⟩) := by
  refine ⟨⟨?_, ?_⟩, readFirst_print_of_wellFormed ample⟩
  · rintro ⟨found, outcome, same⟩
    obtain ⟨wellFormed, shallow⟩ := wellFormed_of_readFirst outcome
    exact ⟨Form.wellFormed_of_same same wellFormed, (Form.depth_eq_of_same same).trans_le shallow⟩
  · rintro ⟨wellFormed, shallow⟩
    refine ⟨form, ?_, Form.same_self wellFormed⟩
    rw [readFirst_print_of_wellFormed ample wellFormed shallow]

theorem readFirst_print_quoted :
    ∃ form : Form, form.print = "'(-7 -0.0 \"a b\" :key)" ∧ 2 ≤ ({} : Room).reading ∧
      form.WellFormed ∧ form.depth ≤ 2 ∧
      readFirst ⟨2, false, {}⟩ form.print = ⟨.ok form, [], ⟨form.source.length, []⟩⟩ := by
  have ample : 2 ≤ ({} : Room).reading := by decide
  obtain ⟨form, isForm⟩ : ∃ form : Form, form = .quote (.list [.leaf (.int (-7)),
      .leaf (.float ⟨true, 0, by decide⟩), .leaf (.string "a b"), .leaf (.symbol ":key")]) :=
    ⟨_, rfl⟩
  have printed : form.print = "'(-7 -0.0 \"a b\" :key)" := by
    rw [isForm]
    rfl
  have wellFormed : form.WellFormed := by
    rw [isForm]
    decide
  have shallow : form.depth ≤ 2 := by
    rw [isForm]
    decide
  exact ⟨form, printed, ample, wellFormed, shallow,
    (readFirst_print ⟨2, false, {}⟩ ample form).2 wellFormed shallow⟩

end Sexpr.Reader
