/-!
Texts that end in one place, whatever follows them.

Fields of one such text after the other can be told apart.  A text is delimited if it is of a fixed
length, if it ends in a character that it does not have before, or if it can be read back from the
front of any longer text.  A sequence of delimited texts is delimited by a character that none of
them begins with.
-/

namespace Sexpr.Text

theorem append_cons_inj_of_not_mem {front other rest more : List Char} {close : Char}
    (free : close ∉ front) (otherFree : close ∉ other)
    (same : front ++ close :: rest = other ++ close :: more) : front = other ∧ rest = more := by
  induction front generalizing other with
  | nil =>
      cases other with
      | nil => exact ⟨rfl, (List.cons.inj same).2⟩
      | cons d other =>
          obtain ⟨rfl, _⟩ := List.cons.inj same
          exact absurd List.mem_cons_self otherFree
  | cons c front inductionHypothesis =>
      cases other with
      | nil =>
          obtain ⟨rfl, _⟩ := List.cons.inj same
          exact absurd List.mem_cons_self free
      | cons d other =>
          obtain ⟨rfl, tails⟩ := List.cons.inj same
          rw [List.mem_cons, not_or] at free otherFree
          obtain ⟨rfl, rests⟩ := inductionHypothesis free.2 otherFree.2 tails
          exact ⟨rfl, rests⟩

variable {α : Type}

/-- The text of the value can be split off whatever begins with it, and no other value has it. -/
def Delimited (write : α → List Char) (value : α) : Prop :=
  ∀ other rest more, write value ++ rest = write other ++ more → value = other ∧ rest = more

theorem Delimited.eq {write : α → List Char} {value other : α} (delimited : Delimited write value)
    (same : write value = write other) : value = other :=
  (delimited other [] [] (by rw [same])).1

theorem delimited_of_read {write : α → List Char} {read : List Char → Option (α × List Char)}
    (inverse : ∀ value rest, read (write value ++ rest) = some (value, rest)) (value : α) :
    Delimited write value := by
  intro other rest more same
  have found := inverse value rest
  rw [same, inverse other more] at found
  cases found
  exact ⟨rfl, rfl⟩

theorem Delimited.prefixed {write : α → List Char} {value : α}
    (delimited : Delimited write value) (front : List Char) :
    Delimited (fun other => front ++ write other) value := by
  intro other rest more same
  simp only [List.append_assoc, List.append_cancel_left_eq] at same
  exact delimited other rest more same

theorem Delimited.concat {write : α → List Char} {value : α} (delimited : Delimited write value)
    (c : Char) : Delimited (fun other => write other ++ [c]) value := by
  intro other rest more same
  simp only [List.append_assoc] at same
  obtain ⟨sameValue, rests⟩ := delimited other _ _ same
  exact ⟨sameValue, (List.cons.inj rests).2⟩

theorem Delimited.comp {β : Type} {write : α → List Char} {key : β → α} {value : β}
    (delimited : Delimited write (key value))
    (only : ∀ other, key value = key other → value = other) :
    Delimited (fun other => write (key other)) value := by
  intro other rest more same
  obtain ⟨sameKey, rests⟩ := delimited (key other) rest more same
  exact ⟨only other sameKey, rests⟩

theorem delimited_of_not_mem {write : α → List Char} {close : Char} {value : α}
    (free : ∀ other, close ∉ write other)
    (only : ∀ other, write value = write other → value = other) :
    Delimited (fun other => write other ++ [close]) value := by
  intro other rest more same
  simp only [List.append_assoc, List.singleton_append] at same
  obtain ⟨sameText, rests⟩ := append_cons_inj_of_not_mem (free value) (free other) same
  exact ⟨only other sameText, rests⟩

/-- A sequence ends at a character that can begin none of its texts. -/
theorem delimited_flatMap {write : α → List Char} {close : Char} {values : List α}
    (begins : ∀ value, ∃ c more, write value = c :: more ∧ c ≠ close)
    (each : ∀ value ∈ values, Delimited write value) :
    Delimited (fun others => others.flatMap write ++ [close]) values := by
  induction values with
  | nil =>
      intro others rest more same
      cases others with
      | nil => exact ⟨rfl, (List.cons.inj same).2⟩
      | cons other others =>
          obtain ⟨c, text, written, differs⟩ := begins other
          simp only [List.flatMap_cons, written, List.cons_append] at same
          exact absurd (List.cons.inj same).1.symm differs
  | cons value values inductionHypothesis =>
      rw [List.forall_mem_cons] at each
      intro others rest more same
      cases others with
      | nil =>
          obtain ⟨c, text, written, differs⟩ := begins value
          simp only [List.flatMap_cons, written, List.cons_append] at same
          exact absurd (List.cons.inj same).1 differs
      | cons other others =>
          simp only [List.flatMap_cons, List.append_assoc] at same
          obtain ⟨rfl, tails⟩ := each.1 other _ _ same
          obtain ⟨rfl, rests⟩ := inductionHypothesis each.2 others rest more (by
            simpa only [List.append_assoc] using tails)
          exact ⟨rfl, rests⟩

end Sexpr.Text
