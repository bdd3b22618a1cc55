import Sexpr.Proofs.Reader.Printed
import Sexpr.Proofs.Reader.Soundness

/-!
Reading inside a list or after a quote sign.

What a derivation takes of a text it takes wherever the text goes on otherwise, as long as no run
goes on with it.  So a list is read as its inside is read alone, and a quote as the form in it, with
one more level of nesting.
-/

namespace Sexpr.Reader.Grammar

open Text.Quoted (doubleQuote apostrophe)

/-- Every run that ends before the one text ends before the other. -/
def EndsAlike (rest other : List Char) : Prop :=
  ∀ kind, EndsBefore kind rest → EndsBefore kind other

theorem EndsAlike.append {rest other : List Char} (alike : EndsAlike rest other)
    (front : List Char) : EndsAlike (front ++ rest) (front ++ other) := by
  cases front with
  | nil => exact alike
  | cons c front => exact fun _ ends => ends

theorem IsSeparated.endsAlike {rest other : List Char} (separated : IsSeparated other) :
    EndsAlike rest other :=
  fun kind _ => separated.endsBefore kind

mutual

/-- A form takes the front of its text, and takes it as well before another rest. -/
theorem FormAt.exists_front {text rest : List Char} {form : Form} : FormAt text form rest →
    ∃ front, text = front ++ rest ∧
      ∀ other, EndsAlike rest other → FormAt (front ++ other) form other
  | @FormAt.run kind run _ _ lexeme ends =>
      ⟨run, rfl, fun _ alike => .run lexeme (alike kind ends)⟩
  | @FormAt.string text _ free => by
      refine ⟨doubleQuote :: text ++ [doubleQuote], by simp, ?_⟩
      intro other _
      rw [List.append_assoc]
      exact .string free
  | .quote derived => by
      obtain ⟨front, rfl, replace⟩ := FormAt.exists_front derived
      exact ⟨apostrophe :: front, rfl, fun other alike => .quote (replace other alike)⟩
  | .list derived => by
      obtain ⟨front, rfl, replace⟩ := FormsAt.exists_front derived
      refine ⟨'(' :: front ++ [')'], by simp, ?_⟩
      intro other _
      rw [List.append_assoc]
      exact .list (replace (')' :: other) fun _ ends => ends)

theorem FormsAt.exists_front {text rest : List Char} {forms : List Form} :
    FormsAt text forms rest →
    ∃ front, text = front ++ rest ∧
      ∀ other, EndsAlike rest other → FormsAt (front ++ other) forms other
  | .none => ⟨[], rfl, fun _ _ => .none⟩
  | .space derived => by
      obtain ⟨front, rfl, replace⟩ := FormsAt.exists_front derived
      exact ⟨' ' :: front, rfl, fun other alike => .space (replace other alike)⟩
  | .form first others => by
      obtain ⟨later, rfl, replaceLater⟩ := FormsAt.exists_front others
      obtain ⟨front, rfl, replace⟩ := FormAt.exists_front first
      refine ⟨front ++ later, (List.append_assoc _ _ _).symm, ?_⟩
      intro other alike
      rw [List.append_assoc]
      exact .form (replace (later ++ other) (alike.append later)) (replaceLater other alike)

end

theorem FormsAt.eq_space_of_mem {text rest : List Char} {c : Char} : FormsAt text [] rest →
    c ∈ text → c = ' ' ∨ c ∈ rest
  | .none, membership => .inr membership
  | .space derived, membership => by
      rcases List.mem_cons.mp membership with rfl | later
      · exact .inl rfl
      · exact derived.eq_space_of_mem later

theorem formsAt_quote_iff {text : List Char} {form : Form} :
    FormsAt (apostrophe :: text) [.quote form] [] ↔
      text.head? ≠ some ' ' ∧ FormsAt text [form] [] := by
  constructor
  · intro derived
    generalize whole : apostrophe :: text = written at derived
    cases derived with
    | space derived => cases whole
    | form first others =>
        cases first with
        | quote inner =>
            cases whole
            refine ⟨?_, .form inner others⟩
            intro begins
            obtain ⟨more, rfl⟩ := List.head?_eq_some_iff.mp begins
            exact FormAt.not_space inner
  · rintro ⟨notSpace, derived⟩
    cases derived with
    | space derived => exact absurd rfl notSpace
    | form first others => exact .form (.quote first) others

/-- What closes the list is the end of the text, as only spaces may follow. -/
theorem formsAt_list_iff {text : List Char} {forms : List Form} :
    FormsAt ('(' :: text ++ [')']) [.list forms] [] ↔ FormsAt text forms [] := by
  constructor
  · intro derived
    generalize whole : '(' :: text ++ [')'] = written at derived
    cases derived with
    | space derived => cases whole
    | @form _ middle _ _ _ first others =>
        cases first with
        | list inner =>
            obtain ⟨front, rfl, replace⟩ := inner.exists_front
            have inside : text ++ [')'] = front ++ ')' :: middle := (List.cons.inj whole).2
            rcases middle.eq_nil_or_concat' with rfl | ⟨more, last, rfl⟩
            · obtain rfl := List.append_cancel_right inside
              have alone := replace [] (IsSeparated.endsAlike (by simp [IsSeparated]))
              rwa [List.append_nil] at alone
            -- Were the list closed earlier, the last character would follow it and be a space.
            · have isSpace : last = ' ' := by
                simpa using others.eq_space_of_mem List.mem_concat_self
              rw [← List.cons_append, ← List.append_assoc] at inside
              have isClose := (List.append_inj' inside rfl).2
              rw [isSpace] at isClose
              cases isClose
  · intro derived
    obtain ⟨front, rfl, replace⟩ := derived.exists_front
    have closed := replace [')'] (IsSeparated.endsAlike (by simp [IsSeparated]))
    rw [List.append_nil]
    exact .form (.list closed) .none

end Sexpr.Reader.Grammar

namespace Sexpr.Reader

open Grammar (FormsAt formsAt_list_iff formsAt_quote_iff)

theorem readAll_strict_eq_ok_iff_formsAt {maxDepth : Nat} {room : Room}
    (ample : maxDepth ≤ room.reading)
    {text : String} {forms : List Form} :
    (readAll ⟨maxDepth, true, room⟩ text).outcome = .ok (.list forms) ↔
      FormsAt text.toList forms [] ∧ Tree.depthAll forms ≤ maxDepth := by
  rw [readAll_eq_ok_iff, ← advance_strict_eq_ok_iff ample]
  constructor
  · rintro ⟨_, equality, read⟩
    cases equality
    exact read
  · intro read
    exact ⟨forms, rfl, read⟩

/-- Parentheses around a text make one list of its forms, and a quote sign before it quotes its form
unless a space comes first.  Both take one more level of nesting, and neither makes a text readable
that is not. -/
theorem readAll_enclosed_iff {maxDepth : Nat} {room : Room} (ample : maxDepth + 1 ≤ room.reading)
    (text : String) :
    (∀ forms, (readAll ⟨maxDepth + 1, true, room⟩ ("(" ++ text ++ ")")).outcome =
        .ok (.list [.list forms]) ↔
      (readAll ⟨maxDepth, true, room⟩ text).outcome = .ok (.list forms)) ∧
    (∀ form, (readAll ⟨maxDepth + 1, true, room⟩ ("'" ++ text)).outcome = .ok (.list [.quote form]) ↔
      text.toList.head? ≠ some ' ' ∧
        (readAll ⟨maxDepth, true, room⟩ text).outcome = .ok (.list [form])) := by
  have less : maxDepth ≤ room.reading := Nat.le_of_succ_le ample
  constructor
  · intro forms
    have parenthesised : ("(" ++ text ++ ")").toList = '(' :: text.toList ++ [')'] := by simp
    rw [readAll_strict_eq_ok_iff_formsAt ample, readAll_strict_eq_ok_iff_formsAt less,
      parenthesised, formsAt_list_iff]
    simp
  · intro form
    have quoted : ("'" ++ text).toList = Text.Quoted.apostrophe :: text.toList := by
      simp [Text.Quoted.apostrophe]
    rw [readAll_strict_eq_ok_iff_formsAt ample, readAll_strict_eq_ok_iff_formsAt less, quoted,
      formsAt_quote_iff]
    simp [and_assoc]

/-- Parentheses that close and open the list around them are no inside of it. -/
theorem readAll_enclosed_iff_reopened :
    2 + 1 ≤ ({} : Room).reading ∧
      (readAll ⟨2 + 1, true, {}⟩ ("(" ++ "'(a)1" ++ ")")).outcome =
        .ok (.list [.list [.quote (.list [.leaf (.symbol "a")]), .leaf (.int 1)]]) ∧
      (∀ forms, (readAll ⟨2 + 1, true, {}⟩ ("(" ++ ") (" ++ ")")).outcome ≠
        .ok (.list [.list forms])) ∧
      (readAll ⟨2 + 1, true, {}⟩ ("'" ++ "(a) ")).outcome =
        .ok (.list [.quote (.list [.leaf (.symbol "a")])]) := by
  have ample : 2 + 1 ≤ ({} : Room).reading := by decide
  refine ⟨ample, ((readAll_enclosed_iff ample "'(a)1").1 _).mpr (by rfl), ?_, ?_⟩
  · intro forms outcome
    have fails : (readAll ⟨2, true, {}⟩ ") (").outcome = .error (.located 0 .strayClose) := by rfl
    rw [((readAll_enclosed_iff ample ") (").1 forms).mp outcome] at fails
    cases fails
  · exact ((readAll_enclosed_iff ample "(a) ").2 _).mpr ⟨by decide, by rfl⟩

end Sexpr.Reader
