/-!
Ordered trees with quotation, over any kind of leaf.

A node is a leaf, a quoted tree or a list of trees.  The list primitives look through
any number of quotes.
-/

namespace Sexpr

inductive Tree (α : Type) where
  | leaf (value : α)
  | quote (inner : Tree α)
  | list (items : List (Tree α))

namespace Tree

variable {α β : Type}

section Fold

variable (leaf : α → β) (quote : β → β) (list : List β → β)

mutual

def fold : Tree α → β
  | .leaf value => leaf value
  | .quote inner => quote (fold inner)
  | .list items => list (foldAll items)

def foldAll : List (Tree α) → List β
  | [] => []
  | tree :: rest => fold tree :: foldAll rest

end

@[simp]
theorem foldAll_eq_map (trees : List (Tree α)) :
    foldAll leaf quote list trees = trees.map (fold leaf quote list) := by
  induction trees with
  | nil => rfl
  | cons tree rest inductionHypothesis => simp [foldAll, inductionHypothesis]

end Fold

mutual

def decideEq [DecidableEq α] : (left right : Tree α) → Decidable (left = right)
  | .leaf a, .leaf b => decidable_of_iff (a = b) (by simp)
  | .quote a, .quote b =>
      have := decideEq a b
      decidable_of_iff (a = b) (by simp)
  | .list as, .list bs =>
      have := decideEqAll as bs
      decidable_of_iff (as = bs) (by simp)
  | .leaf _, .quote _ | .leaf _, .list _ | .quote _, .leaf _ | .quote _, .list _
  | .list _, .leaf _ | .list _, .quote _ => isFalse (by simp)

def decideEqAll [DecidableEq α] : (left right : List (Tree α)) → Decidable (left = right)
  | [], [] => isTrue rfl
  | a :: as, b :: bs =>
      have := decideEq a b
      have := decideEqAll as bs
      decidable_of_iff (a = b ∧ as = bs) (by simp)
  | [], _ :: _ | _ :: _, [] => isFalse (by simp)

end

instance [DecidableEq α] : DecidableEq (Tree α) := decideEq

/-- The largest number of lists and quotes on a way from the root to a leaf. -/
def depth : Tree α → Nat :=
  fold (fun _ => 0) (· + 1) (fun depths => depths.foldr max 0 + 1)

def leaves : Tree α → List α :=
  fold (fun value => [value]) id List.flatten

def unquoted : Tree α → Tree α
  | .quote inner => inner.unquoted
  | tree => tree

/-- The items of a list, seen through quotes. -/
def items? (tree : Tree α) : Option (List (Tree α)) :=
  match tree.unquoted with
  | .list items => some items
  | _ => none

/-- Whether a tree is anything but a nonempty list. -/
def isAtom (tree : Tree α) : Bool :=
  match tree.items? with
  | some (_ :: _) => false
  | _ => true

/-- The first item of a list; the empty list has the given one. -/
def car (ofEmpty : Tree α) (tree : Tree α) : Option (Tree α) :=
  tree.items?.map (·.headD ofEmpty)

def cdr (tree : Tree α) : Option (Tree α) :=
  tree.items?.map fun items => .list items.tail

def headLeaf? (isHead : α → Bool) (tree : Tree α) : Option α :=
  match tree.items? with
  | some (.leaf value :: _) => if isHead value then some value else none
  | _ => none

def arguments? (isHead : α → Bool) (tree : Tree α) : Option (Tree α) :=
  if (tree.headLeaf? isHead).isSome then tree.cdr else none

mutual

/-- Replace every leaf, unless one of them has no replacement. -/
def mapLeaves? (f : α → Option β) : Tree α → Option (Tree β)
  | .leaf value => (f value).map .leaf
  | .quote inner => (mapLeaves? f inner).map .quote
  | .list items => (mapAllLeaves? f items).map .list

def mapAllLeaves? (f : α → Option β) : List (Tree α) → Option (List (Tree β))
  | [] => some []
  | tree :: rest =>
      match mapLeaves? f tree, mapAllLeaves? f rest with
      | some mapped, some others => some (mapped :: others)
      | _, _ => none

end

end Tree

end Sexpr
