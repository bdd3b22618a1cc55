import Sexpr.Form.Printer
import Sexpr.Proofs.Form.Basic

/-!
How deeply calls nest while a form is written.

The depth of a form bounds the calls in either notation, so a stack that is ample for some depth
shows every form within it.  Lists inside one another need the most.
-/

namespace Sexpr.Form

section Weights

variable {leaf quote list : Nat}

theorem nestedCalls_list (items : List Form) :
    nestedCalls leaf quote list (.list items) =
      (items.map (nestedCalls leaf quote list)).foldr max 0 + list := by
  simp only [nestedCalls, Tree.fold, Tree.foldAll_eq_map]

theorem foldr_nestedCalls_le {items : List Form} {bound : Nat}
    (each : ∀ item ∈ items, nestedCalls leaf quote list item ≤ bound) :
    (items.map (nestedCalls leaf quote list)).foldr max 0 ≤ bound := by
  induction items with
  | nil => exact Nat.zero_le _
  | cons item items inductionHypothesis =>
      rw [List.forall_mem_cons] at each
      exact Nat.max_le.mpr ⟨each.1, inductionHypothesis each.2⟩

/-- No node nests calls by more than a list. -/
theorem nestedCalls_le (light : quote ≤ list) (form : Form) :
    nestedCalls leaf quote list form ≤ list * form.depth + leaf := by
  induction form using Tree.induct with
  | leaf atom => exact Nat.le_add_left _ _
  | quote inner inductionHypothesis =>
      rw [Tree.depth_quote, Nat.mul_succ]
      calc nestedCalls leaf quote list inner + quote
        _ ≤ list * inner.depth + leaf + list := Nat.add_le_add inductionHypothesis light
        _ = list * inner.depth + list + leaf := Nat.add_right_comm ..
  | list items inductionHypothesis =>
      have each : ∀ item ∈ items,
          nestedCalls leaf quote list item ≤ list * Tree.depthAll items + leaf := by
        intro item membership
        have shallow := Tree.depthAll_le_iff.mp (Nat.le_refl _) item membership
        calc nestedCalls leaf quote list item
          _ ≤ list * item.depth + leaf := inductionHypothesis item membership
          _ ≤ list * Tree.depthAll items + leaf :=
            Nat.add_le_add_right (Nat.mul_le_mul_left list shallow) leaf
      rw [nestedCalls_list, Tree.depth_list, Nat.mul_succ, Nat.add_right_comm]
      exact Nat.add_le_add_right (foldr_nestedCalls_le each) list

end Weights

theorem printCalls_le (form : Form) : form.printCalls ≤ 4 * form.depth + 2 :=
  nestedCalls_le (by decide) form

theorem describeCalls_le (form : Form) : form.describeCalls ≤ 5 * form.depth + 4 :=
  nestedCalls_le (by decide) form

/-! ## Lists inside one another -/

/-- The empty list inside so many others. -/
def nestedList : Nat → Form
  | 0 => .list []
  | count + 1 => .list [nestedList count]

theorem source_nestedList (count : Nat) :
    (nestedList count).source =
      List.replicate (count + 1) '(' ++ List.replicate (count + 1) ')' := by
  induction count with
  | zero => rfl
  | succ count inductionHypothesis =>
      rw [nestedList, source_list, List.map_singleton, joinWith, inductionHypothesis,
        @List.replicate_succ _ _ (count + 1), @List.replicate_succ' (count + 1),
        ← List.cons_append, List.append_assoc]

theorem mem_source_nestedList {count : Nat} {c : Char}
    (membership : c ∈ (nestedList count).source) : c = '(' ∨ c = ')' := by
  rw [source_nestedList, List.mem_append] at membership
  exact membership.imp List.eq_of_mem_replicate List.eq_of_mem_replicate

theorem wellFormed_nestedList (count : Nat) : (nestedList count).WellFormed := by
  induction count with
  | zero => exact wellFormed_list.mpr (by simp)
  | succ count inductionHypothesis =>
      exact wellFormed_list.mpr (List.forall_mem_singleton.mpr inductionHypothesis)

theorem depth_nestedList (count : Nat) : (nestedList count).depth = count + 1 := by
  induction count with
  | zero => rfl
  | succ count inductionHypothesis => simp [nestedList, inductionHypothesis]

theorem describeCalls_nestedList (count : Nat) :
    (nestedList count).describeCalls = 5 * (count + 1) := by
  induction count with
  | zero => rfl
  | succ count inductionHypothesis =>
      calc (nestedList (count + 1)).describeCalls
        _ = max (nestedList count).describeCalls 0 + 5 := nestedCalls_list [nestedList count]
        _ = 5 * (count + 1) + 5 := by rw [inductionHypothesis, Nat.max_zero]
        _ = 5 * (count + 1 + 1) := (Nat.mul_succ 5 (count + 1)).symm

end Sexpr.Form
