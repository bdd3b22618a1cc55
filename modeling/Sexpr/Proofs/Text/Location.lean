import Mathlib.Algebra.GroupWithZero.Nat
import Mathlib.Data.List.Induction
import Mathlib.Data.Prod.Lex
import Mathlib.Data.Set.Function
import Mathlib.Order.Interval.Set.Defs
import Sexpr.Text.Location

/-!
Offsets of a text and its places.

A place is a row of the text and a column in it, up to the one after the last character.  The text
before an offset ends inside a row of the whole text, so its rows give the place of the offset.
Counting the characters before a place leads back to the offset.  That count goes up from each place
to the next, so offsets and places are in the same order and each place is that of one offset.
-/

namespace Sexpr.Text

/-- The pieces of a text between line feeds. -/
def rows (text : List Char) : List (List Char) := text.splitOn '\n'

@[simp]
theorem rows_nil : rows [] = [[]] := rfl

theorem rows_feed (rest : List Char) : rows ('\n' :: rest) = [] :: rows rest := by
  rw [rows, List.splitOn_cons_eq_if_modifyHead, if_pos (beq_self_eq_true _), rows]

theorem rows_cons {c : Char} (other : c ≠ '\n') (rest : List Char) :
    rows (c :: rest) = (rows rest).modifyHead (c :: ·) := by
  rw [rows, List.splitOn_cons_eq_if_modifyHead, if_neg (by simpa using other), rows]

theorem rows_ne_nil (text : List Char) : rows text ≠ [] := List.splitOn_ne_nil '\n' text

theorem exists_rows_eq_cons (text : List Char) : ∃ first back, rows text = first :: back :=
  List.exists_cons_of_ne_nil (rows_ne_nil text)

theorem exists_rows_eq_concat (text : List Char) : ∃ front last, rows text = front ++ [last] :=
  ⟨_, _, (List.dropLast_concat_getLast (rows_ne_nil text)).symm⟩

theorem eq_nil_of_rows_nil {front : List (List Char)} {last : List Char}
    (ends : rows [] = front ++ [last]) : [] = front ∧ [] = last := by
  have parts : [] ++ [[]] = front ++ [last] := ends
  exact List.append_singleton_inj.mp parts

/-- The last row of a text goes on with the first row of the text after it. -/
theorem rows_append {before after : List Char} {front back : List (List Char)}
    {last first : List Char} (ends : rows before = front ++ [last])
    (begins : rows after = first :: back) :
    rows (before ++ after) = front ++ (last ++ first) :: back := by
  induction before generalizing front last with
  | nil =>
      obtain ⟨rfl, rfl⟩ := eq_nil_of_rows_nil ends
      exact begins
  | cons c before inductionHypothesis =>
      obtain ⟨inner, other, splits⟩ := exists_rows_eq_concat before
      by_cases feed : c = '\n'
      · subst feed
        rw [rows_feed, splits, ← List.cons_append] at ends
        obtain ⟨rfl, rfl⟩ := List.append_singleton_inj.mp ends
        rw [List.cons_append, rows_feed, inductionHypothesis splits, List.cons_append]
      · rw [rows_cons feed, splits] at ends
        rw [List.cons_append, rows_cons feed, inductionHypothesis splits]
        -- The character is of the first row, which may be the last one of the text before.
        cases inner with
        | nil =>
            have parts : [] ++ [c :: other] = front ++ [last] := ends
            obtain ⟨rfl, rfl⟩ := List.append_singleton_inj.mp parts
            rfl
        | cons row inner =>
            have parts : (c :: row) :: inner ++ [other] = front ++ [last] := ends
            obtain ⟨rfl, rfl⟩ := List.append_singleton_inj.mp parts
            rfl

/-! ## Characters before a row -/

/-- The number of characters before the row that some rows precede, each with its line feed. -/
def rowStart (text : List Char) (preceding : ℕ) : ℕ :=
  (((rows text).take preceding).map List.length).sum + preceding

theorem rowStart_succ {text : List Char} {preceding : ℕ} (row : preceding < (rows text).length) :
    rowStart text (preceding + 1) =
      rowStart text preceding + (rows text)[preceding].length + 1 := by
  rw [rowStart, List.take_succ_eq_append_getElem row, List.map_append, List.sum_append, rowStart]
  simp only [List.map_cons, List.map_nil, List.sum_cons, List.sum_nil]
  omega

theorem rowStart_le_succ (text : List Char) (preceding : ℕ) :
    rowStart text preceding ≤ rowStart text (preceding + 1) := by
  by_cases row : preceding < (rows text).length
  · rw [rowStart_succ row]
    omega
  · rw [rowStart, rowStart, List.take_of_length_le (by omega), List.take_of_length_le (by omega)]
    omega

theorem rowStart_monotone (text : List Char) : Monotone (rowStart text) :=
  monotone_nat_of_le_succ (rowStart_le_succ text)

theorem rowStart_of_rows {text : List Char} {front back : List (List Char)}
    (splits : rows text = front ++ back) :
    rowStart text front.length = (front.map List.length).sum + front.length := by
  rw [rowStart, splits, List.take_left]

/-- A row after the last one would begin behind a line feed after the text. -/
theorem rowStart_length_rows (text : List Char) :
    rowStart text (rows text).length = text.length + 1 := by
  rw [rowStart, List.take_length]
  induction text with
  | nil => rfl
  | cons c rest inductionHypothesis =>
      by_cases feed : c = '\n'
      · subst feed
        rw [rows_feed, List.map_cons, List.sum_cons]
        simp only [List.length_cons, List.length_nil]
        omega
      · obtain ⟨first, back, splits⟩ := exists_rows_eq_cons rest
        rw [rows_cons feed, splits]
        rw [splits] at inductionHypothesis
        simp only [List.modifyHead_cons, List.map_cons, List.sum_cons, List.length_cons] at *
        omega

namespace Location

/-! ## The place of an offset -/

theorem ofSigned_natCast (text : List Char) (offset : ℕ) :
    ofSigned text offset = ofOffset text offset := by
  rw [← Int.ofNat_eq_natCast, ofSigned]

theorem ofSigned_of_length_lt {text : List Char} {offset : ℤ} (past : text.length < offset) :
    ofSigned text offset = ofOffset text text.length := by
  obtain ⟨offset, rfl⟩ := Int.eq_ofNat_of_zero_le (show 0 ≤ offset by omega)
  rw [ofSigned_natCast, ofOffset, List.take_of_length_le (by omega), ofOffset, List.take_length]

theorem ofSigned_neg (text : List Char) {before : ℕ} (positive : 0 < before) :
    ofSigned text (-before) = ofOffset text (text.length - before) := by
  obtain ⟨before, rfl⟩ := Nat.exists_eq_succ_of_ne_zero positive.ne'
  rw [Int.neg_ofNat_succ, ofSigned]

/-- The steps over a text count its rows and the characters of the last one. -/
theorem foldl_step_of_rows {before : List Char} {front : List (List Char)} {last : List Char}
    (ends : rows before = front ++ [last]) :
    before.foldl step start = ⟨front.length + 1, last.length + 1⟩ := by
  -- The fold takes its last step last, and that step lengthens the last row or ends it.
  induction before using List.reverseRecOn generalizing front last with
  | nil =>
      obtain ⟨rfl, rfl⟩ := eq_nil_of_rows_nil ends
      rfl
  | append_singleton before c inductionHypothesis =>
      obtain ⟨inner, other, splits⟩ := exists_rows_eq_concat before
      rw [List.foldl_append, inductionHypothesis splits, List.foldl_cons, List.foldl_nil, step]
      by_cases feed : c = '\n'
      · subst feed
        rw [rows_append splits (rows_feed []), List.append_nil, rows_nil, List.append_cons] at ends
        obtain ⟨rfl, rfl⟩ := List.append_singleton_inj.mp ends
        simp
      · rw [rows_append splits (rows_cons feed [])] at ends
        obtain ⟨rfl, rfl⟩ := List.append_singleton_inj.mp ends
        simp [feed]

/-- The text before an offset ends inside a row. -/
theorem exists_rows_eq (text : List Char) (offset : ℕ) :
    ∃ front last first back, rows (text.take offset) = front ++ [last] ∧
      rows text = front ++ (last ++ first) :: back ∧
      ofOffset text offset = ⟨front.length + 1, last.length + 1⟩ := by
  obtain ⟨front, last, ends⟩ := exists_rows_eq_concat (text.take offset)
  obtain ⟨first, back, begins⟩ := exists_rows_eq_cons (text.drop offset)
  have whole := rows_append ends begins
  rw [List.take_append_drop] at whole
  exact ⟨front, last, first, back, ends, whole, foldl_step_of_rows ends⟩

/-- The place is in a row of the text, at one of its characters or at its end. -/
structure IsIn (text : List Char) (place : Location) : Prop where
  row_pos : 1 ≤ place.row
  row_le : place.row ≤ (rows text).length
  column_pos : 1 ≤ place.column
  column_le : place.column ≤ (rows text)[place.row - 1].length + 1

/-- The number of characters before a place: those before its row, and those before it in its
row. -/
def offsetIn (text : List Char) (place : Location) : ℕ :=
  rowStart text (place.row - 1) + (place.column - 1)

theorem isIn_ofOffset (text : List Char) (offset : ℕ) : IsIn text (ofOffset text offset) := by
  obtain ⟨front, last, first, back, _, whole, place⟩ := exists_rows_eq text offset
  rw [place]
  constructor <;> simp [whole]

theorem offsetIn_ofOffset (text : List Char) (offset : ℕ) :
    offsetIn text (ofOffset text offset) = min offset text.length := by
  obtain ⟨front, last, first, back, ends, whole, place⟩ := exists_rows_eq text offset
  have total := rowStart_length_rows (text.take offset)
  rw [rowStart, List.take_length, ends, List.length_take] at total
  rw [place, offsetIn, Nat.add_sub_cancel, Nat.add_sub_cancel, rowStart_of_rows whole]
  simp only [List.map_append, List.map_cons, List.map_nil, List.sum_append, List.sum_cons,
    List.sum_nil, List.length_append, List.length_cons, List.length_nil] at total
  omega

/-! ## The order of places -/

/-- The row of a place, then its column. -/
def key (place : Location) : ℕ ×ₗ ℕ := toLex (place.row, place.column)

theorem key_injective : Function.Injective key := by
  rintro ⟨row, column⟩ ⟨otherRow, otherColumn⟩ same
  simpa [key] using same

/-- Places are in the order of their rows, and in one row in that of their columns. -/
instance : LinearOrder Location := LinearOrder.lift' key key_injective

theorem lt_iff {place other : Location} :
    place < other ↔
      place.row < other.row ∨ (place.row = other.row ∧ place.column < other.column) :=
  Prod.Lex.lt_iff

/-- The row of a place ends before the next row begins. -/
theorem IsIn.offsetIn_lt {text : List Char} {place : Location} (inside : IsIn text place) :
    offsetIn text place < rowStart text place.row := by
  have positive := inside.row_pos
  have bounded := inside.row_le
  have column := inside.column_le
  have next := rowStart_succ (show place.row - 1 < (rows text).length by omega)
  rw [Nat.sub_add_cancel positive] at next
  rw [offsetIn]
  omega

theorem IsIn.offsetIn_le {text : List Char} {place : Location} (inside : IsIn text place) :
    offsetIn text place ≤ text.length := by
  have ends := inside.offsetIn_lt
  have last := rowStart_monotone text inside.row_le
  rw [rowStart_length_rows] at last
  omega

theorem offsetIn_strictMonoOn (text : List Char) :
    StrictMonoOn (offsetIn text) {place | IsIn text place} := by
  intro place inside other otherInside precedes
  rcases lt_iff.mp precedes with rowsPrecede | ⟨sameRow, columnsPrecede⟩
  · calc offsetIn text place
        < rowStart text place.row := IsIn.offsetIn_lt inside
      _ ≤ rowStart text (other.row - 1) := rowStart_monotone text (by omega)
      _ ≤ offsetIn text other := by rw [offsetIn]; omega
  · have positive := IsIn.column_pos inside
    rw [offsetIn, offsetIn, sameRow]
    omega

theorem offsetIn_ofOffset_of_le {text : List Char} {offset : ℕ} (inside : offset ≤ text.length) :
    offsetIn text (ofOffset text offset) = offset := by
  rw [offsetIn_ofOffset, Nat.min_eq_left inside]

theorem ofOffset_strictMonoOn (text : List Char) :
    StrictMonoOn (ofOffset text) (Set.Iic text.length) := by
  intro offset inside other otherInside precedes
  have order := (offsetIn_strictMonoOn text).lt_iff_lt (isIn_ofOffset text offset)
    (isIn_ofOffset text other)
  rw [offsetIn_ofOffset_of_le inside, offsetIn_ofOffset_of_le otherInside] at order
  exact order.mp precedes

theorem IsIn.ofOffset_offsetIn {text : List Char} {place : Location} (inside : IsIn text place) :
    ofOffset text (offsetIn text place) = place :=
  (offsetIn_strictMonoOn text).injOn (isIn_ofOffset text _) inside
    (offsetIn_ofOffset_of_le inside.offsetIn_le)

/-- The offsets of a text, its end included, enumerate its places in order, and the place of an
offset tells the offset.  Offsets past the end have the place of the end.  Negative ones count from
the end, down to the start. -/
theorem ofSigned_enumerates (text : List Char) :
    (∀ offset : ℕ, offset ≤ text.length →
      IsIn text (ofSigned text offset) ∧ offsetIn text (ofSigned text offset) = offset) ∧
    Set.InjOn (fun offset : ℕ => ofSigned text offset) (Set.Iic text.length) ∧
    StrictMonoOn (fun offset : ℕ => ofSigned text offset) (Set.Iic text.length) ∧
    (∀ place, IsIn text place →
      ∃! offset : ℕ, offset ≤ text.length ∧ ofSigned text offset = place) ∧
    (∀ offset : ℤ, text.length < offset → ofSigned text offset = ofSigned text text.length) ∧
    ∀ before : ℕ, 0 < before →
      ofSigned text (-before) = ofSigned text (max 0 (text.length - before)) := by
  simp only [ofSigned_natCast]
  have increasing := ofOffset_strictMonoOn text
  refine ⟨fun offset inside => ⟨isIn_ofOffset text offset, offsetIn_ofOffset_of_le inside⟩,
    increasing.injOn, increasing, fun place inside => ?_, fun offset past => ?_,
    fun before positive => ?_⟩
  · refine ⟨offsetIn text place, ⟨inside.offsetIn_le, inside.ofOffset_offsetIn⟩, ?_⟩
    rintro offset ⟨offsetInside, rfl⟩
    exact (offsetIn_ofOffset_of_le offsetInside).symm
  · exact ofSigned_of_length_lt past
  · have clamped : max 0 ((text.length : ℤ) - before) = (text.length - before : ℕ) := by omega
    rw [ofSigned_neg text positive, clamped, ofSigned_natCast]

theorem ofSigned_enumerates_emptyRow :
    (3 ≤ "ab\n\nc".toList.length ∧ offsetIn "ab\n\nc".toList ⟨2, 1⟩ = 3) ∧
    (2 < 3 ∧ ofSigned "ab\n\nc".toList 2 < ofSigned "ab\n\nc".toList 3) ∧
    (IsIn "ab\n\nc".toList ⟨3, 2⟩ ∧
      ∃! offset : ℕ, offset ≤ 5 ∧ ofSigned "ab\n\nc".toList offset = ⟨3, 2⟩) ∧
    (5 < 9 ∧ ofSigned "ab\n\nc".toList 9 = ofSigned "ab\n\nc".toList 5) ∧
    0 < 9 ∧ ofSigned "ab\n\nc".toList (-9) = ofSigned "ab\n\nc".toList 0 := by
  obtain ⟨leadsBack, _, increasing, unique, pastEnd, negative⟩ :=
    ofSigned_enumerates "ab\n\nc".toList
  have inside : IsIn "ab\n\nc".toList ⟨3, 2⟩ := ⟨by decide, by decide, by decide, Nat.le_refl 2⟩
  exact ⟨⟨by decide, (leadsBack 3 (by decide)).2⟩,
    ⟨by decide,
      increasing (Set.mem_Iic.mpr (by decide)) (Set.mem_Iic.mpr (by decide)) (by decide)⟩,
    ⟨inside, unique _ inside⟩, ⟨by decide, pastEnd 9 (by decide)⟩,
    by decide, negative 9 (by decide)⟩

end Location

end Sexpr.Text
