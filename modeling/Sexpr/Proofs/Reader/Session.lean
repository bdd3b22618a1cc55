import Sexpr.Proofs.Reader.Descent

/-!
Sessions keep nothing but their place.

The nesting that a reader counts is zero again after every call, whether the call fails or not.  So
a call depends on the calls before it only through the place at which they leave the reader, and it
comes to what it comes to at the start of the remaining text.
-/

namespace Sexpr.Reader

theorem Session.text_step (session : Session) (call : Call) :
    (session.step call).2.2.text = session.text := by
  cases call with
  | location offset => cases offset <;> rfl
  | _ => rfl

theorem Session.options_step (session : Session) (call : Call) :
    (session.step call).2.2.options = session.options := by
  cases call with
  | location offset => cases offset <;> rfl
  | _ => rfl

theorem Session.run_keeps (session : Session) (calls : List Call) :
    (session.run calls).2.text = session.text ∧ (session.run calls).2.options = session.options := by
  induction calls generalizing session with
  | nil => exact ⟨rfl, rfl⟩
  | cons call calls inductionHypothesis =>
      obtain ⟨text, options⟩ := inductionHypothesis (session.step call).2.2
      exact ⟨text.trans (session.text_step call), options.trans (session.options_step call)⟩

namespace Descent.Session

/-- A reader at no nesting answers a call, and is at no nesting again. -/
theorem step_eq (session : Reader.Session) (call : Call) :
    Session.step ⟨session, 0⟩ call =
      ((session.step call).1, (session.step call).2.1, ⟨(session.step call).2.2, 0⟩) := by
  cases call with
  | read method =>
      have read := read_eq session.options session.cursor method
      simp only [Session.step, Session.read, read]
      rfl
  | location offset => cases offset <;> rfl
  | _ => rfl

theorem run_eq (session : Reader.Session) (calls : List Call) :
    Session.run ⟨session, 0⟩ calls = ((session.run calls).1, ⟨(session.run calls).2, 0⟩) := by
  induction calls generalizing session with
  | nil => rfl
  | cons call calls inductionHypothesis =>
      simp only [Session.run, step_eq, inductionHypothesis]
      rfl

theorem read_eq_shift (session : Reader.Session) (method : Method) :
    ∃ reading,
      (start session.options (String.ofList (session.text.drop session.offset))).read method =
        (reading, 0) ∧
      Session.read ⟨session, 0⟩ method = (reading.shift session.offset, 0) := by
  have place : session.cursor =
      (⟨0, session.text.drop session.offset⟩ : Cursor).shift session.offset := by
    simp only [Session.cursor, Cursor.ofOffset, Cursor.shift, Nat.zero_add]
  have new : (Reader.Session.start session.options
      (String.ofList (session.text.drop session.offset))).cursor =
        ⟨0, session.text.drop session.offset⟩ := by
    simp only [Reader.Session.start, Session.cursor, Cursor.ofOffset, String.toList_ofList,
      List.drop_zero]
  refine ⟨method.read session.options ⟨0, session.text.drop session.offset⟩, ?_, ?_⟩
  · rw [← new]
    apply read_eq
  · rw [← Method.read_shift, ← place]
    apply read_eq

/-- After any calls, whether they fail or not, a reader has counted no nesting, and every method
reads what it reads for a new reader of the remaining text, with all places further on. -/
theorem read_of_run (options : Options) (text : String) (calls : List Call) :
    ∃ reader : Session,
      (start options text).run calls =
        (((Reader.Session.start options text).run calls).1, reader) ∧
      reader.depth = 0 ∧ reader.text = text.toList ∧ reader.options = options ∧
      ∀ method, ∃ reading,
        (start options (String.ofList (text.toList.drop reader.offset))).read method =
          (reading, 0) ∧
        reader.read method = (reading.shift reader.offset, 0) := by
  have kept := (Reader.Session.start options text).run_keeps calls
  refine ⟨⟨((Reader.Session.start options text).run calls).2, 0⟩, run_eq _ calls, rfl, kept.1,
    kept.2, ?_⟩
  intro method
  have read := read_eq_shift ((Reader.Session.start options text).run calls).2 method
  rw [kept.1, kept.2] at read
  exact read

end Descent.Session

end Sexpr.Reader
