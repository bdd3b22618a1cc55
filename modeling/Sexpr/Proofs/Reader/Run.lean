import Sexpr.Proofs.Reader.Descent
import Sexpr.Proofs.Reader.Refusal

/-!
Runs that are read by themselves.

A run is read where a method is called for it, and where it is all there is in a text.  What is
read is what the run denotes, and the place after it is the end of the run in any case.
-/

namespace Sexpr.Reader

open Grammar (EndsBefore)
open State (opening?)

/-- A run is taken as a whole, whatever it denotes. -/
theorem Method.read_run (options : Options) {kind : RunKind} {place : Cursor}
    {run rest : List Char} (split : place.rest = run ++ rest)
    (accepted : ∀ c ∈ run, kind.accepts c = true) (ends : EndsBefore kind rest) :
    (Method.run kind).read options place =
      ⟨(kind.denoted place.offset run).map .leaf, [], ⟨place.offset + run.length, rest⟩⟩ := by
  have read : (Descent.readRun kind place 0).toReading = (Method.run kind).read options place :=
    congrArg Prod.fst (Descent.read_eq options place (.run kind))
  obtain ⟨taken, dropped⟩ := takeWhile_append_of_ends rest accepted ends
  rw [← read]
  simp only [Descent.readRun, split, taken, dropped]

/-- A run takes no room, so its failures are reported as they are. -/
theorem caught_of_denoted {kind : RunKind} {start : Nat} {run : List Char} {failure : Failure}
    (outcome : kind.denoted start run = .error failure) (offset : Nat) :
    failure.caught offset = failure := by
  cases RunKind.fails_of_denoted outcome <;> rfl

/-- A text that is one run is read as what the run denotes. -/
theorem readFirst_run (options : Options) {kind : RunKind} {run : List Char}
    (opening : ∃ c more, run = c :: more ∧ opening? 0 c = some (.run kind 0 [c]))
    (accepted : ∀ c ∈ run, kind.accepts c = true) :
    readFirst options (String.ofList run) =
      ⟨(kind.denoted 0 run).map .leaf, [], ⟨run.length, []⟩⟩ := by
  obtain ⟨c, more, rfl, opening⟩ := opening
  have continues : (some c).any kind.accepts = true := accepted c List.mem_cons_self
  obtain ⟨taken, dropped⟩ := takeWhile_append_of_ends [] accepted rfl
  rw [List.append_nil] at taken dropped
  have whole := @Descent.advance_readRun options .all [] [] kind ⟨0, c :: more⟩ 0
  dsimp only at whole
  rw [advance_take (.run continues) (not_isComplete (fun _ => rfl) _ _) .run,
    ← advance_start (fun _ => rfl) opening] at whole
  simp only [Descent.readRun, taken, dropped, Nat.zero_add] at whole
  rw [readFirst, Descent.read_eq_of_whole rfl, String.toList_ofList, whole]
  cases outcome : kind.denoted 0 (c :: more) with
  | ok atom => rfl
  | error failure =>
      have kept := caught_of_denoted outcome (c :: more).length
      simp only [Except.map, Descent.resume]
      rw [Reading.catching_of_error rfl, kept]
      rfl

end Sexpr.Reader
