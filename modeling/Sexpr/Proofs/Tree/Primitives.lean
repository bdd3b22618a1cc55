import Mathlib.Logic.Function.Iterate
import Sexpr.Proofs.Tree.Depth

/-!
The list primitives, which see through quotes.

All of them depend on the items below the quotes only, and together they tell these items.
-/

namespace Sexpr.Tree

variable {α : Type}

/-! ## Quotes -/

theorem unquoted_ne_quote (tree inner : Tree α) : tree.unquoted ≠ .quote inner := by
  induction tree using induct with
  | leaf value => simp [unquoted]
  | quote _ inductionHypothesis => exact inductionHypothesis
  | list items _ => simp [unquoted]

/-- Only quotes are removed. -/
theorem exists_iterate_quote (tree : Tree α) : ∃ count, tree = quote^[count] tree.unquoted := by
  induction tree using induct with
  | leaf value => exact ⟨0, rfl⟩
  | list items _ => exact ⟨0, rfl⟩
  | quote inner inductionHypothesis =>
      obtain ⟨count, quotes⟩ := inductionHypothesis
      refine ⟨count + 1, ?_⟩
      rw [unquoted, Function.iterate_succ_apply', ← quotes]

@[simp]
theorem unquoted_unquoted (tree : Tree α) : tree.unquoted.unquoted = tree.unquoted := by
  cases below : tree.unquoted with
  | leaf value => rfl
  | quote inner => exact absurd below (unquoted_ne_quote tree inner)
  | list items => rfl

@[simp]
theorem items?_unquoted (tree : Tree α) : tree.unquoted.items? = tree.items? := by
  rw [items?, items?, unquoted_unquoted]

@[simp]
theorem isAtom_unquoted (tree : Tree α) : tree.unquoted.isAtom = tree.isAtom := by
  rw [isAtom, isAtom, items?_unquoted]

@[simp]
theorem car_unquoted (ofEmpty tree : Tree α) : car ofEmpty tree.unquoted = car ofEmpty tree := by
  rw [car, car, items?_unquoted]

@[simp]
theorem cdr_unquoted (tree : Tree α) : tree.unquoted.cdr = tree.cdr := by
  rw [cdr, cdr, items?_unquoted]

@[simp]
theorem headLeaf?_unquoted (isHead : α → Bool) (tree : Tree α) :
    tree.unquoted.headLeaf? isHead = tree.headLeaf? isHead := by
  rw [headLeaf?, headLeaf?, items?_unquoted]

@[simp]
theorem arguments?_unquoted (isHead : α → Bool) (tree : Tree α) :
    tree.unquoted.arguments? isHead = tree.arguments? isHead := by
  rw [arguments?, arguments?, headLeaf?_unquoted, cdr_unquoted]

/-! ## Lists -/

theorem items?_eq_some_iff {tree : Tree α} {items : List (Tree α)} :
    tree.items? = some items ↔ tree.unquoted = .list items := by
  rw [items?]
  cases tree.unquoted <;> simp

theorem items?_eq_none_iff {tree : Tree α} :
    tree.items? = none ↔ ∀ items, tree.unquoted ≠ .list items := by
  rw [Option.eq_none_iff_forall_ne_some]
  simp only [ne_eq, items?_eq_some_iff]

theorem isAtom_eq_false_iff {tree : Tree α} :
    tree.isAtom = false ↔ ∃ first rest, tree.unquoted = .list (first :: rest) := by
  simp only [← items?_eq_some_iff, isAtom]
  split <;> simp_all

theorem car_eq_none_iff {ofEmpty tree : Tree α} :
    car ofEmpty tree = none ↔ ∀ items, tree.unquoted ≠ .list items := by
  rw [car, Option.map_eq_none_iff, items?_eq_none_iff]

theorem cdr_eq_none_iff {tree : Tree α} :
    tree.cdr = none ↔ ∀ items, tree.unquoted ≠ .list items := by
  rw [cdr, Option.map_eq_none_iff, items?_eq_none_iff]

theorem car_of_unquoted (ofEmpty : Tree α) {tree : Tree α} {items : List (Tree α)}
    (below : tree.unquoted = .list items) : car ofEmpty tree = some (items.headD ofEmpty) := by
  rw [car, items?_eq_some_iff.mpr below, Option.map_some]

theorem cdr_of_unquoted {tree : Tree α} {items : List (Tree α)}
    (below : tree.unquoted = .list items) : tree.cdr = some (.list items.tail) := by
  rw [cdr, items?_eq_some_iff.mpr below, Option.map_some]

section Head

variable {isHead : α → Bool} {tree : Tree α}

theorem headLeaf?_eq_some_iff {value : α} :
    tree.headLeaf? isHead = some value ↔
      isHead value = true ∧ ∃ rest, tree.unquoted = .list (.leaf value :: rest) := by
  simp only [← items?_eq_some_iff, headLeaf?]
  split
  next head rest below =>
    rw [below]
    constructor
    · intro found
      split at found
      next marked =>
        obtain rfl := Option.some.inj found
        exact ⟨marked, rest, rfl⟩
      next => cases found
    · rintro ⟨marked, _, same⟩
      cases same
      exact if_pos marked
  next unheaded =>
    constructor
    · intro found
      cases found
    · rintro ⟨_, rest, below⟩
      exact absurd below (unheaded value rest)

theorem arguments?_of_headLeaf? {value : α} (head : tree.headLeaf? isHead = some value) :
    tree.arguments? isHead = tree.cdr := by
  rw [arguments?, head, Option.isSome_some, if_pos rfl]

theorem arguments?_eq_none_iff : tree.arguments? isHead = none ↔ tree.headLeaf? isHead = none := by
  cases head : tree.headLeaf? isHead with
  | none => simp [arguments?, head]
  | some value =>
      obtain ⟨_, rest, below⟩ := headLeaf?_eq_some_iff.mp head
      simp [arguments?_of_headLeaf? head, cdr_of_unquoted below]

end Head

end Sexpr.Tree
