import Sexpr.Proofs.Reader.Blame
import Sexpr.Proofs.Reader.Completeness
import Sexpr.Proofs.Reader.Printed
import Sexpr.Proofs.Text.Location

/-!
Where reading fails.

The place of a complaint is a character of the text, and the text before it is not to blame: it can
be completed.  Between forms it takes a parenthesis for every open list, and before that a form if
a quote is waiting for one.
-/

namespace Sexpr

theorem Failure.message_located (text : List Char) (offset : Nat) (complaint : Complaint) :
    message text (.located offset complaint) =
      complaint.wording ++ " at position ".toList ++ decimalDigits offset ++ " (row: ".toList ++
        decimalDigits (Text.Location.ofSigned text offset).row ++ ", col: ".toList ++
        decimalDigits (Text.Location.ofSigned text offset).column ++ [')'] := by
  unfold message placeText
  simp only [Text.Location.ofSigned_natCast, List.append_assoc]

end Sexpr

namespace Sexpr.Reader

open State (Settles deliver separates opening?)

/-- Between forms, closing the open lists completes the text. -/
theorem exists_closing (maxDepth : Nat) (room : Room) {state : State} (gap : state.scan = .gap)
    (between : separates .all state.frames = true) (offset : Nat) :
    ∃ closing result, IsSeparated closing ∧
      (advance ⟨maxDepth, true, room⟩ .all state offset closing).outcome = .ok result := by
  rcases state with ⟨scan, frames, forms⟩
  obtain rfl : scan = .gap := gap
  rcases frames with _ | ⟨⟨start, items⟩ | start, frames⟩
  · exact ⟨[], forms, by simp [IsSeparated], rfl⟩
  · have closes := advance_closing maxDepth room (.list items.reverse) frames forms (offset + 1)
    refine ⟨')' :: (frames.filterMap Frame.notice?).flatMap Notice.closing,
      (sealFrames (.list items.reverse) frames).2 :: forms, by simp [IsSeparated], ?_⟩
    rw [advance_take .gap (by simp) (.listEnd rfl)]
    exact closes
  · cases between

/-- A text that a strict reader has taken before a form can be completed. -/
theorem State.Settles.exists_completion {maxDepth : Nat} {room : Room} {text : List Char} {c : Char}
    {state settled : State} (reached : Reaches ⟨maxDepth, true, room⟩ text state)
    (settles : Settles ⟨maxDepth, true, room⟩ (some c) state settled) (gap : settled.scan = .gap) :
    ∃ more result,
      (advance ⟨maxDepth, true, room⟩ .all state text.length more).outcome = .ok result := by
  cases settles with
  | gap =>
      obtain ⟨closing, result, _, read⟩ :=
        exists_closing maxDepth room gap (reached.separates gap) text.length
      exact ⟨closing, result, read⟩
  | string => cases gap
  | run more => cases gap
  | @atom kind start taken atom frames forms ends denoted =>
      obtain ⟨closing, result, separated, read⟩ :=
        exists_closing maxDepth room gap (State.separates_deliver _ _ _) text.length
      refine ⟨closing, result, ?_⟩
      rw [advance_settle (.atom (separated.endsBefore kind) denoted)]
      exact read
  | list shallow ample =>
      obtain ⟨closing, result, _, read⟩ := exists_closing maxDepth room gap rfl text.length
      refine ⟨closing, result, ?_⟩
      rw [advance_settle (.list shallow ample)]
      exact read
  | @quote start frames forms follows shallow ample =>
      -- A form for the quote: the constant that is one letter.
      obtain ⟨closing, result, separated, read⟩ :=
        exists_closing maxDepth room
          (State.scan_deliver (.leaf .t) (.quote start :: frames) forms)
          (State.separates_deliver _ _ _) (text.length + 1)
      have opening : opening? text.length 't' = some (.run .name text.length ['t']) := rfl
      have denoted : RunKind.denoted text.length ['t'].reverse .name = .ok .t := rfl
      refine ⟨'t' :: closing, result, ?_⟩
      rw [advance_settle (.quote rfl shallow ample), advance_start (by simp) opening,
        advance_settle (.atom (separated.endsBefore .name) denoted)]
      exact read

theorem ComesTo.exists_completion {maxDepth : Nat} {room : Room} {text : List Char} {offset : Nat}
    {c : Char} (comes : ComesTo ⟨maxDepth, true, room⟩ text offset c) :
    ∃ more result,
      (advance ⟨maxDepth, true, room⟩ .all .initial 0 (text.take offset ++ more)).outcome =
        .ok result := by
  obtain ⟨before, after, state, settled, rfl, rfl, reached, settles, gap⟩ := comes
  obtain ⟨more, result, read⟩ := settles.exists_completion reached gap
  refine ⟨more, result, ?_⟩
  rw [List.take_left, reached.advance_append]
  exact read

theorem ComesTo.getElem? {options : Options} {text : List Char} {offset : Nat} {c : Char}
    (comes : ComesTo options text offset c) : text[offset]? = some c := by
  obtain ⟨before, after, _, _, rfl, rfl, _⟩ := comes
  simp

/-- A complaint is about a character of the text that it suits.  Its message ends with the offset,
row and column of that character, and the text before it can be completed. -/
theorem readAll_strict_complaint (maxDepth : Nat) {room : Room} (text : String) {offset : Nat}
    {complaint : Complaint}
    (fails : (readAll ⟨maxDepth, true, room⟩ text).outcome = .error (.located offset complaint)) :
    offset < text.length ∧
    (∃ c, text.toList[offset]? = some c ∧ complaint.Suits c) ∧
    (∃ place wording, place = Text.Location.ofSigned text.toList offset ∧
      Failure.message text.toList (.located offset complaint) =
        wording ++ " at position ".toList ++ decimalDigits offset ++ " (row: ".toList ++
          decimalDigits place.row ++ ", col: ".toList ++ decimalDigits place.column ++ [')']) ∧
    ∃ more form, (readAll ⟨maxDepth, true, room⟩
      (String.ofList (text.toList.take offset ++ more))).outcome = .ok form := by
  have explained := explains_of_advance (readAll_eq_error_located_iff.mp fails)
  cases explained with
  | @place _ c _ comes suits =>
      have found := comes.getElem?
      refine ⟨?_, ⟨c, found, suits⟩, ⟨_, complaint.wording, rfl, Failure.message_located _ _ _⟩, ?_⟩
      · rw [← String.length_toList]
        exact (List.getElem?_eq_some_iff.mp found).1
      · obtain ⟨more, result, read⟩ := comes.exists_completion
        refine ⟨more, .list result.reverse, readAll_eq_ok_iff.mpr ⟨result.reverse, rfl, ?_⟩⟩
        rw [String.toList_ofList, List.reverse_reverse]
        exact read

theorem readAll_strict_complaint_quoted :
    (readAll ⟨2, true, {}⟩ "(a ' b)").outcome = .error (.located 3 .danglingQuote) ∧
      "(a ' b)".toList[3]? = some '\'' ∧
      ∃ more form, (readAll ⟨2, true, {}⟩ (String.ofList ("(a ' b)".toList.take 3 ++ more))).outcome =
        .ok form := by
  have fails : (readAll ⟨2, true, {}⟩ "(a ' b)").outcome = .error (.located 3 .danglingQuote) := by
    rfl
  obtain ⟨_, ⟨c, found, rfl⟩, _, completed⟩ := readAll_strict_complaint 2 "(a ' b)" fails
  exact ⟨fails, found, completed⟩

end Sexpr.Reader
