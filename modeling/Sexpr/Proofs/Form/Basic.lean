import Mathlib.Data.List.Forall2
import Sexpr.Form.Printer
import Sexpr.Form.Symbol
import Sexpr.Proofs.Tree.Depth

/-!
Forms node by node: their source text, whether they are well-formed, and when they are the same.

The same forms need not be equal, since there are two zeros, but they are equally deep and
equally well-formed.
-/

namespace Sexpr

theorem Binary64.isNaN_eq_false_of_isFinite {x : Binary64} (finite : x.isFinite = true) :
    x.isNaN = false := by
  simp only [isFinite, isNaN, decide_eq_true_eq, decide_eq_false_iff_not] at finite ⊢
  omega

theorem Binary64.isFinite_of_sameNumber {x y : Binary64} (same : x.sameNumber y = true)
    (finite : y.isFinite = true) : x.isFinite = true := by
  simp only [sameNumber, Bool.and_eq_true, Bool.or_eq_true, beq_iff_eq] at same
  rcases same.2 with rfl | ⟨zero, _⟩
  · exact finite
  · simp only [isZero, beq_iff_eq] at zero
    simp [isFinite, zero, infinityMagnitude]

namespace Atom

theorem isWellFormed_of_same {atom other : Atom} (same : atom.same other = true)
    (wellFormed : other.isWellFormed = true) : atom.isWellFormed = true := by
  cases atom <;> cases other <;> try cases same
  next => rfl
  next => rfl
  next value other =>
    obtain rfl := beq_iff_eq.mp same
    exact wellFormed
  next value other => exact Binary64.isFinite_of_sameNumber same wellFormed
  next text other =>
    obtain rfl := beq_iff_eq.mp same
    exact wellFormed
  next text other =>
    obtain rfl := beq_iff_eq.mp same
    exact wellFormed

theorem same_self {atom : Atom} (wellFormed : atom.isWellFormed = true) :
    atom.same atom = true := by
  cases atom with
  | t => rfl
  | nil => rfl
  | float value =>
      have numeric := Binary64.isNaN_eq_false_of_isFinite wellFormed
      simp [same, Binary64.sameNumber, numeric]
  | int value => exact beq_self_eq_true value
  | symbol text => exact beq_self_eq_true text
  | string text => exact beq_self_eq_true text

end Atom

namespace Form

@[simp]
theorem source_leaf (atom : Atom) : source (.leaf atom) = atom.source := rfl

@[simp]
theorem source_quote (inner : Form) :
    source (.quote inner) = Text.Quoted.apostrophe :: inner.source := rfl

@[simp]
theorem source_list (items : List Form) :
    source (.list items) = '(' :: joinWith [' '] (items.map source) ++ [')'] := by
  simp only [source, Tree.fold, Tree.foldAll_eq_map]

theorem wellFormed_leaf {atom : Atom} : WellFormed (.leaf atom) ↔ atom.isWellFormed = true := by
  simp [WellFormed]

theorem wellFormed_quote {inner : Form} : WellFormed (.quote inner) ↔ inner.WellFormed := Iff.rfl

theorem wellFormed_list {items : List Form} :
    WellFormed (.list items) ↔ ∀ item ∈ items, WellFormed item :=
  Tree.forall_mem_leaves_list

theorem forall₂_of_sameAll {motive : Form → Form → Prop} {items others : List Form}
    (each : ∀ item ∈ items, ∀ other, same item other = true → motive item other)
    (allSame : sameAll items others = true) : List.Forall₂ motive items others := by
  induction items generalizing others with
  | nil =>
      cases others with
      | nil => exact .nil
      | cons other others => cases allSame
  | cons item items inductionHypothesis =>
      cases others with
      | nil => cases allSame
      | cons other others =>
          simp only [sameAll, Bool.and_eq_true] at allSame
          refine .cons (each item List.mem_cons_self other allSame.1) ?_
          exact inductionHypothesis
            (fun next membership => each next (List.mem_cons_of_mem item membership)) allSame.2

/-- Forms that are the same have the same nodes, with the same atoms at their leaves. -/
theorem same_induct {motive : Form → Form → Prop}
    (leaf : ∀ atom other, Atom.same atom other = true → motive (.leaf atom) (.leaf other))
    (quote : ∀ inner other, motive inner other → motive (.quote inner) (.quote other))
    (list : ∀ items others, List.Forall₂ motive items others →
      motive (.list items) (.list others))
    {form other : Form} (equal : form.same other = true) : motive form other := by
  induction form using Tree.induct generalizing other with
  | leaf atom =>
      cases other with
      | leaf value => exact leaf atom value equal
      | quote inner => cases equal
      | list items => cases equal
  | quote inner inductionHypothesis =>
      cases other with
      | leaf value => cases equal
      | quote otherInner => exact quote inner otherInner (inductionHypothesis equal)
      | list items => cases equal
  | list items inductionHypothesis =>
      cases other with
      | leaf value => cases equal
      | quote inner => cases equal
      | list others =>
          refine list items others (forall₂_of_sameAll ?_ equal)
          intro item membership other same
          exact inductionHypothesis item membership same

theorem depth_eq_of_same {form other : Form} (equal : form.same other = true) :
    form.depth = other.depth := by
  refine same_induct (motive := fun form other => form.depth = other.depth) ?_ ?_ ?_ equal
  · intro atom other _
    rfl
  · intro inner other sameDepth
    rw [Tree.depth_quote, Tree.depth_quote, sameDepth]
  · intro items others sameDepths
    rw [Tree.depth_list, Tree.depth_list]
    have depths : Tree.depthAll items = Tree.depthAll others := by
      induction sameDepths with
      | nil => rfl
      | cons sameDepth _ inductionHypothesis =>
          rw [Tree.depthAll_cons, Tree.depthAll_cons, sameDepth, inductionHypothesis]
    rw [depths]

theorem wellFormed_of_same {form other : Form} (equal : form.same other = true)
    (wellFormed : other.WellFormed) : form.WellFormed := by
  refine same_induct (motive := fun form other => other.WellFormed → form.WellFormed)
    ?_ ?_ ?_ equal wellFormed
  · intro atom other same otherWellFormed
    exact wellFormed_leaf.mpr (Atom.isWellFormed_of_same same (wellFormed_leaf.mp otherWellFormed))
  · intro inner other innerWellFormed
    exact innerWellFormed
  · intro items others itemsWellFormed othersWellFormed
    rw [wellFormed_list] at othersWellFormed ⊢
    induction itemsWellFormed with
    | nil => exact othersWellFormed
    | cons itemWellFormed _ inductionHypothesis =>
        rw [List.forall_mem_cons] at othersWellFormed ⊢
        exact ⟨itemWellFormed othersWellFormed.1, inductionHypothesis othersWellFormed.2⟩

theorem sameAll_self {items : List Form} (each : ∀ item ∈ items, same item item = true) :
    sameAll items items = true := by
  induction items with
  | nil => rfl
  | cons item items inductionHypothesis =>
      rw [List.forall_mem_cons] at each
      rw [sameAll, Bool.and_eq_true]
      exact ⟨each.1, inductionHypothesis each.2⟩

theorem same_self {form : Form} (wellFormed : form.WellFormed) : form.same form = true := by
  induction form using Tree.induct with
  | leaf atom => exact Atom.same_self (wellFormed_leaf.mp wellFormed)
  | quote inner inductionHypothesis => exact inductionHypothesis wellFormed
  | list items inductionHypothesis =>
      apply sameAll_self
      intro item membership
      exact inductionHypothesis item membership (wellFormed_list.mp wellFormed item membership)

end Form

end Sexpr
