import Sexpr.Proofs.Reader.Lexeme
import Sexpr.Proofs.Text.Delimited

/-!
A text denotes at most one sequence of forms.

The first character of a form decides which rule derives it, and a run ends where it cannot be
continued.  Forms in sequence are derived in one way up to the end of the text or of the list.
-/

namespace Sexpr.Reader.Grammar

open State (opening?)
open Text.Quoted (doubleQuote apostrophe)

/-- Texts that follow a sequence of forms as a whole: none, or the end of a list. -/
def EndsForms (rest : List Char) : Prop := ∀ c ∈ rest.head?, c = ')'

theorem Lexeme.opening_of_append {kind : RunKind} {run rest : List Char} {atom : Atom}
    {c : Char} {more : List Char} (lexeme : Lexeme kind run atom) (offset : Nat)
    (front : run ++ rest = c :: more) : opening? offset c = some (.run kind offset [c]) := by
  obtain ⟨first, others, rfl, opening⟩ := lexeme.opening offset
  obtain ⟨rfl, _⟩ := List.cons.inj front
  exact opening

theorem Lexeme.unique {kind otherKind : RunKind} {run other rest otherRest : List Char}
    {atom otherAtom : Atom} (lexeme : Lexeme kind run atom) (ends : EndsBefore kind rest)
    (otherLexeme : Lexeme otherKind other otherAtom) (otherEnds : EndsBefore otherKind otherRest)
    (same : run ++ rest = other ++ otherRest) : atom = otherAtom ∧ rest = otherRest := by
  obtain ⟨c, more, rfl, opening⟩ := lexeme.opening 0
  have sameKind := otherLexeme.opening_of_append 0 (by rw [← same]; rfl)
  rw [opening] at sameKind
  cases sameKind
  obtain ⟨taken, dropped⟩ := takeWhile_append_of_ends rest lexeme.accepts ends
  obtain ⟨otherTaken, otherDropped⟩ :=
    takeWhile_append_of_ends otherRest otherLexeme.accepts otherEnds
  rw [same] at taken dropped
  have sameRun : c :: more = other := taken.symm.trans otherTaken
  subst sameRun
  refine ⟨?_, dropped.symm.trans otherDropped⟩
  have named : kind = .name → Sexpr.isPlainName (c :: more) = true := by
    rintro rfl
    exact lexeme.isPlainName
  have denoted := (denoted_eq_ok_iff 0 named).mpr lexeme
  have otherDenoted := (denoted_eq_ok_iff 0 named).mpr otherLexeme
  rw [denoted] at otherDenoted
  cases otherDenoted
  rfl

/-- The first character of a form can open one, so it is no space and does not end a list. -/
theorem FormAt.opening {text rest : List Char} {form : Form} (derived : FormAt text form rest)
    (offset : Nat) : ∃ c more scan, text = c :: more ∧ opening? offset c = some scan := by
  cases derived with
  | run lexeme ends =>
      obtain ⟨c, more, rfl, opening⟩ := lexeme.opening offset
      exact ⟨c, _, _, rfl, opening⟩
  | string free => exact ⟨doubleQuote, _, _, rfl, rfl⟩
  | quote inner => exact ⟨apostrophe, _, _, rfl, rfl⟩
  | list items => exact ⟨'(', _, _, rfl, rfl⟩

theorem FormAt.not_space {text rest : List Char} {form : Form} :
    ¬ FormAt (' ' :: text) form rest := by
  intro derived
  obtain ⟨_, _, _, equality, opening⟩ := derived.opening 0
  cases equality
  cases opening

theorem FormAt.not_endsForms {text rest : List Char} {form : Form}
    (derived : FormAt text form rest) : ¬ EndsForms text := by
  obtain ⟨c, _, _, rfl, opening⟩ := derived.opening 0
  intro ends
  obtain rfl := ends c rfl
  cases opening

mutual

theorem FormAt.unique {text rest otherRest : List Char} {form other : Form} :
    FormAt text form rest → FormAt text other otherRest → form = other ∧ rest = otherRest
  | @FormAt.run _ run after _ lexeme ends, derived => by
      generalize whole : run ++ after = text at derived
      cases derived with
      | run otherLexeme otherEnds =>
          obtain ⟨rfl, rfl⟩ := lexeme.unique ends otherLexeme otherEnds whole
          exact ⟨rfl, rfl⟩
      | string free => cases lexeme.opening_of_append 0 whole
      | quote inner => cases lexeme.opening_of_append 0 whole
      | list items => cases lexeme.opening_of_append 0 whole
  | @FormAt.string inner after free, derived => by
      generalize whole : doubleQuote :: inner ++ doubleQuote :: after = text at derived
      cases derived with
      | run lexeme ends => cases lexeme.opening_of_append 0 whole.symm
      | string otherFree =>
          obtain ⟨rfl, rfl⟩ :=
            Text.append_cons_inj_of_not_mem free otherFree (List.cons.inj whole).2
          exact ⟨rfl, rfl⟩
      | quote inner => cases whole
      | list items => cases whole
  | @FormAt.quote after _ _ inner, derived => by
      generalize whole : apostrophe :: after = text at derived
      cases derived with
      | run lexeme ends => cases lexeme.opening_of_append 0 whole.symm
      | string free => cases whole
      | quote otherInner =>
          cases whole
          obtain ⟨rfl, rfl⟩ := FormAt.unique inner otherInner
          exact ⟨rfl, rfl⟩
      | list items => cases whole
  | @FormAt.list after _ _ items, derived => by
      generalize whole : '(' :: after = text at derived
      cases derived with
      | run lexeme ends => cases lexeme.opening_of_append 0 whole.symm
      | string free => cases whole
      | quote inner => cases whole
      | list otherItems =>
          cases whole
          obtain ⟨rfl, equality⟩ := FormsAt.unique items otherItems (by simp [EndsForms])
            (by simp [EndsForms])
          cases equality
          exact ⟨rfl, rfl⟩

theorem FormsAt.unique {text rest otherRest : List Char} {forms others : List Form} :
    FormsAt text forms rest → FormsAt text others otherRest → EndsForms rest →
      EndsForms otherRest → forms = others ∧ rest = otherRest
  | .none, derived, ends, _ => by
      cases derived with
      | none => exact ⟨rfl, rfl⟩
      | space inner => cases ends ' ' rfl
      | form first others => exact absurd ends first.not_endsForms
  | .space inner, derived, ends, otherEnds => by
      cases derived with
      | none => cases otherEnds ' ' rfl
      | space otherInner => exact FormsAt.unique inner otherInner ends otherEnds
      | form first others => exact absurd first FormAt.not_space
  | .form first others, derived, ends, otherEnds => by
      cases derived with
      | none => exact absurd otherEnds first.not_endsForms
      | space inner => exact absurd first FormAt.not_space
      | form otherFirst otherOthers =>
          obtain ⟨rfl, rfl⟩ := FormAt.unique first otherFirst
          obtain ⟨rfl, rfl⟩ := FormsAt.unique others otherOthers ends otherEnds
          exact ⟨rfl, rfl⟩

end

theorem Denotes.unique {text : String} {forms others : List Form} (denotes : Denotes text forms)
    (otherDenotes : Denotes text others) : forms = others :=
  (FormsAt.unique denotes otherDenotes (by simp [EndsForms]) (by simp [EndsForms])).1

end Sexpr.Reader.Grammar
