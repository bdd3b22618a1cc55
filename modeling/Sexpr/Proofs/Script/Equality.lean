import Sexpr.Proofs.Form.Hashing
import Sexpr.Script.Equality

/-!
Equality of the forms of a script, and sets of them.

Scripts compare nodes, which carry stamps to tell apart what is equal only to itself.  Between
nodes that are forms without NaN the stamps do not matter.
-/

namespace Sexpr.Script

open Form (Comparable addNew)

namespace Leaf

theorem same_of_isNaN_eq_false {atom : Atom} (numeric : atom.isNaN = false) (other : Atom)
    (stamp otherStamp : Nat) :
    same (.atom atom stamp) (.atom other otherStamp) = .ok (atom.same other) := by
  cases atom <;> cases other <;> try rfl
  next value other =>
    have numeric : value.isNaN = false := numeric
    simp [same, Atom.same, numeric]

end Leaf

namespace Node

/-- A node is a form, but for the stamps of its leaves. -/
inductive Shows : Node → Form → Prop where
  | leaf (atom : Atom) (stamp : Nat) : Shows (.leaf (.atom atom stamp)) (.leaf atom)
  | quote {inner : Node} {form : Form} : Shows inner form → Shows (.quote inner) (.quote form)
  | nil : Shows (.list []) (.list [])
  | cons {item : Node} {items : List Node} {form : Form} {forms : List Form} :
      Shows item form →
      Shows (.list items) (.list forms) →
      Shows (.list (item :: items)) (.list (form :: forms))

/-- A node that is a form without NaN. -/
def Is (node : Node) (form : Comparable) : Prop := node.form? = some form.val

theorem shows_of_form?_eq_some {node : Node} {form : Form} (is : node.form? = some form) :
    node.Shows form := by
  induction node using Tree.induct generalizing form with
  | leaf value =>
      cases value with
      | atom atom stamp =>
          cases is
          exact .leaf atom stamp
      | blank stamp => cases is
  | quote inner inductionHypothesis =>
      obtain ⟨image, isImage, rfl⟩ := Option.map_eq_some_iff.mp is
      exact .quote (inductionHypothesis isImage)
  | list items inductionHypothesis =>
      obtain ⟨images, areImages, rfl⟩ := Option.map_eq_some_iff.mp is
      clear is
      induction items generalizing images with
      | nil =>
          cases areImages
          exact .nil
      | cons item items rest =>
          rw [List.forall_mem_cons] at inductionHypothesis
          rw [Tree.mapAllLeaves?] at areImages
          split at areImages
          next image others isImage areOthers =>
            cases areImages
            exact .cons (inductionHypothesis.1 isImage)
              (rest inductionHypothesis.2 others areOthers)
          next => cases areImages

theorem Shows.sameItem {node other : Node} {form otherForm : Form} (shown : node.Shows form)
    (otherShown : other.Shows otherForm) (free : form.FreeOfNaN) :
    node.sameItem other = .ok (form.same otherForm) := by
  induction shown generalizing other otherForm with
  | leaf atom stamp =>
      cases otherShown with
      | leaf otherAtom otherStamp =>
          exact Leaf.same_of_isNaN_eq_false (Form.freeOfNaN_leaf.mp free) otherAtom stamp otherStamp
      | quote | nil | cons => rfl
  | quote _ inductionHypothesis =>
      cases otherShown with
      | quote otherShown => exact inductionHypothesis otherShown free
      | leaf | nil | cons => rfl
  | nil => cases otherShown <;> rfl
  | @cons item items form forms _ _ first rest =>
      obtain ⟨itemFree, itemsFree⟩ := List.forall_mem_cons.mp (Form.freeOfNaN_list.mp free)
      cases otherShown with
      | leaf | quote | nil => rfl
      | @cons _ _ otherForm otherForms itemShown itemsShown =>
          rw [Node.sameItem, sameItems, first itemShown itemFree, Form.same, Form.sameAll]
          cases form.same otherForm with
          | false => rfl
          | true => exact rest itemsShown (Form.freeOfNaN_list.mpr itemsFree)

theorem same_eq_sameItem {node other : Node} {form : Form} (shown : node.Shows form) :
    node.same other = node.sameItem other := by
  cases shown <;> cases other <;> rfl

end Node

namespace Value

open Node (Is)

theorem same_node {node other : Node} {form otherForm : Comparable} (is : node.Is form)
    (otherIs : other.Is otherForm) :
    same (.node node) (.node other) = .ok (form.val.same otherForm.val) := by
  have shown := Node.shows_of_form?_eq_some is
  have otherShown := Node.shows_of_form?_eq_some otherIs
  rw [same, Node.same_eq_sameItem shown, shown.sameItem otherShown form.property]

theorem exists_indexIn {node : Node} {form : Comparable} (is : node.Is form) {seen : List Node}
    {members : List Comparable} (known : List.Forall₂ Is seen members) :
    ∃ position, indexIn (.node node) (seen.map .node) = .ok position ∧
      position.isSome = members.any fun member => member.val.same form.val := by
  induction known with
  | nil => exact ⟨Option.none, rfl, rfl⟩
  | @cons _ member _ _ memberIs _ inductionHypothesis =>
      obtain ⟨position, found, isSome⟩ := inductionHypothesis
      have compared := (Node.shows_of_form?_eq_some memberIs).sameItem
        (Node.shows_of_form?_eq_some is) member.property
      rw [List.map_cons, indexIn, sameItem, compared, List.any_cons, found]
      cases member.val.same form.val with
      | true => exact ⟨some 0, rfl, rfl⟩
      | false => exact ⟨_, rfl, Option.isSome_map.trans isSome⟩

theorem countDistinct_eq {nodes : List Node} {forms : List Comparable}
    (each : List.Forall₂ Is nodes forms) {seen : List Node} {members : List Comparable}
    (known : List.Forall₂ Is seen members) :
    countDistinct (seen.map .node) (nodes.map .node) =
      .ok (forms.foldl addNew members).length := by
  induction each generalizing seen members with
  | nil => rw [List.map_nil, countDistinct, List.length_map, known.length_eq, List.foldl_nil]
  | @cons node form _ _ is _ inductionHypothesis =>
      obtain ⟨position, found, isSome⟩ := exists_indexIn is known
      have hashes : hashFault? (.node node) = Option.none := by
        simp only [hashFault?, show node.form? = some form.val from is, Option.isSome_some, if_true]
      rw [List.map_cons, countDistinct, hashes, found, List.foldl_cons, addNew, ← isSome]
      cases position with
      | some index => exact inductionHypothesis known
      | none =>
          have added := inductionHypothesis (List.rel_append known (.cons is .nil))
          rwa [List.map_append] at added

/-- Hashes that depend on the order of the items of tuples. -/
def polynomialHashing : Hashing Nat where
  int := Int.natAbs
  float := Binary64.magnitude
  text := String.length
  tuple := List.foldl (fun hash item => 31 * hash + item) 7
  float_eq := by
    intro x y same
    simp only [Binary64.sameNumber, Binary64.isZero, Bool.and_eq_true, Bool.or_eq_true,
      beq_iff_eq] at same
    rcases same.2 with rfl | ⟨zero, otherZero⟩
    · rfl
    · rw [zero, otherZero]

end Value

end Sexpr.Script
