import Mathlib.Order.Lattice
import Sexpr.Tree

/-!
Trees node by node: induction, depth and leaves.
-/

namespace Sexpr.Tree

variable {α : Type}

/-- Induction over trees, with all items of a list at once. -/
@[elab_as_elim]
theorem induct {motive : Tree α → Prop}
    (leaf : ∀ value, motive (.leaf value))
    (quote : ∀ inner, motive inner → motive (.quote inner))
    (list : ∀ items, (∀ item ∈ items, motive item) → motive (.list items))
    (tree : Tree α) : motive tree :=
  match tree with
  | .leaf value => leaf value
  | .quote inner => quote inner (induct leaf quote list inner)
  | .list items => list items fun item _ => induct leaf quote list item

/-- The largest depth of the given trees. -/
def depthAll (trees : List (Tree α)) : Nat := (trees.map depth).foldr max 0

@[simp]
theorem depth_leaf (value : α) : (leaf value).depth = 0 := rfl

@[simp]
theorem depth_quote (inner : Tree α) : inner.quote.depth = inner.depth + 1 := rfl

@[simp]
theorem depth_list (items : List (Tree α)) : (list items).depth = depthAll items + 1 := by
  simp [depth, depthAll, fold]

@[simp]
theorem depthAll_nil : depthAll ([] : List (Tree α)) = 0 := rfl

@[simp]
theorem depthAll_cons (tree : Tree α) (trees : List (Tree α)) :
    depthAll (tree :: trees) = max tree.depth (depthAll trees) := rfl

theorem depthAll_le_iff {trees : List (Tree α)} {bound : Nat} :
    depthAll trees ≤ bound ↔ ∀ tree ∈ trees, tree.depth ≤ bound := by
  induction trees with
  | nil => simp
  | cons tree trees inductionHypothesis => simp [inductionHypothesis]

@[simp]
theorem depthAll_append (front back : List (Tree α)) :
    depthAll (front ++ back) = max (depthAll front) (depthAll back) := by
  induction front with
  | nil => simp
  | cons tree front inductionHypothesis => simp [inductionHypothesis, max_assoc]

@[simp]
theorem depthAll_reverse (trees : List (Tree α)) : depthAll trees.reverse = depthAll trees := by
  induction trees with
  | nil => rfl
  | cons tree trees inductionHypothesis => simp [inductionHypothesis, max_comm]

@[simp]
theorem leaves_leaf (value : α) : (leaf value).leaves = [value] := rfl

@[simp]
theorem leaves_quote (inner : Tree α) : inner.quote.leaves = inner.leaves := rfl

@[simp]
theorem leaves_list (items : List (Tree α)) : (list items).leaves = items.flatMap leaves := by
  simp [leaves, fold, List.flatMap]

theorem forall_mem_leaves_list {holds : α → Prop} {items : List (Tree α)} :
    (∀ value ∈ (list items).leaves, holds value) ↔
      ∀ item ∈ items, ∀ value ∈ item.leaves, holds value := by
  rw [leaves_list]
  simp only [List.mem_flatMap]
  constructor
  · intro every item membership value leaf
    exact every value ⟨item, membership, leaf⟩
  · rintro every value ⟨item, membership, leaf⟩
    exact every item membership value leaf

end Sexpr.Tree
