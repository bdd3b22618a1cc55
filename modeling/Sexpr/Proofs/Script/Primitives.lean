import Sexpr.Proofs.Tree.Primitives
import Sexpr.Script.Step

/-!
The list primitives of scripts take lists apart, through any number of quotes.

What they answer depends on the node below the quotes only.  They answer nothing unless it is a
list, and what they answer for a list with items puts this list together again.
-/

namespace Sexpr.Script.Value

/-- The list primitives. -/
def primitives : List Query :=
  [.isAtom, .car, .cdr, .hasHeadSymbol, .headSymbol, .arguments]

section Answers

variable {tree : Node}

theorem answer_unquoted {query : Query} (primitive : query ∈ primitives) :
    (node tree).answer query = (node tree.unquoted).answer query := by
  simp only [primitives, List.mem_cons, List.not_mem_nil, or_false] at primitive
  rcases primitive with rfl | rfl | rfl | rfl | rfl | rfl <;> simp [answer, node?]

theorem answer_isAtom_eq_false_iff :
    (node tree).answer .isAtom = .ok (.bool false) ↔
      ∃ first rest, tree.unquoted = .list (first :: rest) := by
  rw [← Tree.isAtom_eq_false_iff]
  simp [answer, node?]

theorem ofOption_eq_none_iff {found : Option Node} :
    ofOption found = .none ↔ found = Option.none := by
  cases found <;> simp [ofOption]

theorem answer_car_eq_none_iff :
    (node tree).answer .car = .ok .none ↔ ∀ items, tree.unquoted ≠ .list items := by
  rw [answer, Except.ok.injEq, ofOption_eq_none_iff]
  exact Tree.car_eq_none_iff

theorem answer_cdr_eq_none_iff :
    (node tree).answer .cdr = .ok .none ↔ ∀ items, tree.unquoted ≠ .list items := by
  rw [answer, Except.ok.injEq, ofOption_eq_none_iff]
  exact Tree.cdr_eq_none_iff

section List

variable {first : Node} {rest : List Node} (below : tree.unquoted = .list (first :: rest))

include below

theorem answer_car_of_unquoted : (node tree).answer .car = .ok (.node first) := by
  rw [answer, node?, Option.bind_some, Tree.car_of_unquoted Node.nil below, List.headD_cons,
    ofOption]

theorem answer_cdr_of_unquoted : (node tree).answer .cdr = .ok (.node (.list rest)) := by
  rw [answer, node?, Option.bind_some, Tree.cdr_of_unquoted below, List.tail_cons, ofOption]

end List

/-- The primitives about head symbols agree whether there is one. -/
theorem answer_head_cases :
    ((∀ text stamp rest, tree.unquoted ≠ .list (.leaf (.atom (.symbol text) stamp) :: rest)) ∧
      (node tree).answer .hasHeadSymbol = .ok (.bool false) ∧
      (node tree).answer .headSymbol = .ok .none ∧ (node tree).answer .arguments = .ok .none) ∨
    ∃ text stamp rest,
      tree.unquoted = .list (.leaf (.atom (.symbol text) stamp) :: rest) ∧
      (node tree).answer .hasHeadSymbol = .ok (.bool true) ∧
      (node tree).answer .headSymbol = .ok (.node (.leaf (.atom (.symbol text) stamp))) ∧
      (node tree).answer .arguments = .ok (.node (.list rest)) := by
  simp only [answer, node?, Option.bind_some]
  cases head : tree.headLeaf? Leaf.isSymbol with
  | none =>
      left
      rw [Tree.arguments?_eq_none_iff.mpr head]
      refine ⟨fun text stamp rest below => ?_, rfl, rfl, rfl⟩
      have found := Tree.headLeaf?_eq_some_iff.mpr
        ⟨show Leaf.isSymbol (.atom (.symbol text) stamp) = true from rfl, rest, below⟩
      rw [head] at found
      cases found
  | some leaf =>
      right
      rw [Tree.arguments?_of_headLeaf? head]
      obtain ⟨isSymbol, rest, below⟩ := Tree.headLeaf?_eq_some_iff.mp head
      rw [Tree.cdr_of_unquoted below]
      cases leaf with
      | blank stamp => cases isSymbol
      | atom value stamp =>
          cases value with
          | symbol text => exact ⟨text, stamp, rest, below, rfl, rfl, rfl⟩
          | t | nil | int | float | string => cases isSymbol

end Answers

/-- Take off the first item until the rest is an atom. -/
inductive Walk : Node → List Node → Node → Prop where
  | rest {tree : Node} : (node tree).answer .isAtom = .ok (.bool true) → Walk tree [] tree
  | item {tree first rest last : Node} {items : List Node} :
      (node tree).answer .isAtom = .ok (.bool false) →
      (node tree).answer .car = .ok (.node first) →
      (node tree).answer .cdr = .ok (.node rest) →
      Walk rest items last →
      Walk tree (first :: items) last

theorem walk_iff_of_unquoted {tree first last : Node} {rest items : List Node}
    (below : tree.unquoted = .list (first :: rest)) :
    Walk tree items last ↔ ∃ others, items = first :: others ∧ Walk (.list rest) others last := by
  have isList := answer_isAtom_eq_false_iff.mpr ⟨first, rest, below⟩
  have car := answer_car_of_unquoted below
  have cdr := answer_cdr_of_unquoted below
  constructor
  · rintro (isAtom | ⟨_, carAgain, cdrAgain, walk⟩)
    · rw [isList] at isAtom
      cases isAtom
    · rw [car] at carAgain
      rw [cdr] at cdrAgain
      cases carAgain
      cases cdrAgain
      exact ⟨_, rfl, walk⟩
  · rintro ⟨others, rfl, walk⟩
    exact .item isList car cdr walk

theorem walk_list_iff {items visited : List Node} {last : Node} :
    Walk (.list items) visited last ↔ visited = items ∧ last = .list [] := by
  induction items generalizing visited with
  | nil =>
      constructor
      · rintro (_ | ⟨isList, _⟩)
        · exact ⟨rfl, rfl⟩
        · cases isList
      · rintro ⟨rfl, rfl⟩
        exact .rest rfl
  | cons first rest inductionHypothesis =>
      rw [walk_iff_of_unquoted rfl]
      simp only [inductionHypothesis]
      constructor
      · rintro ⟨others, rfl, rfl, rfl⟩
        exact ⟨rfl, rfl⟩
      · rintro ⟨rfl, rfl⟩
        exact ⟨rest, rfl, rfl, rfl⟩

theorem walk_unquoted_iff {tree first last : Node} {rest visited : List Node}
    (below : tree.unquoted = .list (first :: rest)) :
    Walk tree visited last ↔ visited = first :: rest ∧ last = .list [] := by
  rw [walk_iff_of_unquoted below, ← walk_list_iff, walk_iff_of_unquoted rfl]

end Sexpr.Script.Value
