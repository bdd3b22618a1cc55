import Sexpr.Proofs.Form.Equality

/-!
Hashing of forms, and sets of forms that look for a member by its hash.

How numbers, texts and tuples are hashed is left open, but for one thing: numbers that are equal
have one hash.  A form is hashed as the name of its constructor and the tuple of its parts.
-/

namespace Sexpr

/-- Hashes of numbers, texts and tuples.  The hash of a tuple is made from those of its items. -/
structure Hashing (Hash : Type) where
  int : Int → Hash
  float : Binary64 → Hash
  text : String → Hash
  tuple : List Hash → Hash
  float_eq : ∀ x y : Binary64, x.sameNumber y = true → float x = float y

namespace Hashing

variable {Hash : Type} (hashing : Hashing Hash)

/-- The hash of a constructor with its parts. -/
def tagged (constructor : Constructor) (parts : List Hash) : Hash :=
  hashing.tuple [hashing.text constructor.name, hashing.tuple parts]

/-- The hashes of the parts of an atom. -/
def parts : Atom → List Hash
  | .t | .nil => []
  | .int value => [hashing.int value]
  | .float value => [hashing.float value]
  | .symbol text | .string text => [hashing.text text]

/-- The hash of a form. -/
def form : Form → Hash :=
  Tree.fold (fun atom => hashing.tagged (Form.constructor (.leaf atom)) (hashing.parts atom))
    (fun inner => hashing.tagged .quote [inner])
    (hashing.tagged .list)

theorem form_list (items : List Form) :
    hashing.form (.list items) = hashing.tagged .list (items.map hashing.form) := by
  simp only [form, Tree.fold, Tree.foldAll_eq_map]

theorem form_leaf_eq_of_same {atom other : Atom} (same : atom.same other = true) :
    hashing.form (.leaf atom) = hashing.form (.leaf other) := by
  cases Atom.Alike.of_same same with
  | self => rfl
  | @zeros x y _ _ =>
      simp only [form, Tree.fold, parts, Form.constructor, hashing.float_eq x y same]

/-- The same forms have the same hash. -/
theorem form_eq_of_same {form other : Form} (same : form.same other = true) :
    hashing.form form = hashing.form other := by
  refine Form.same_induct (motive := fun form other => hashing.form form = hashing.form other)
    ?_ ?_ ?_ same
  · intro atom other same
    exact hashing.form_leaf_eq_of_same same
  · intro inner other sameHash
    exact congrArg (fun hash => hashing.tagged .quote [hash]) sameHash
  · intro items others sameHashes
    have hashes : items.map hashing.form = others.map hashing.form := by
      induction sameHashes with
      | nil => rfl
      | cons sameHash _ inductionHypothesis =>
          rw [List.map_cons, List.map_cons, sameHash, inductionHypothesis]
    rw [form_list, form_list, hashes]

/-! ## Sets -/

open Form (Comparable addNew)

variable [DecidableEq Hash]

/-- Add a form to a set, unless a member with its hash is the same. -/
def insert (members : List Comparable) (form : Comparable) : List Comparable :=
  if members.any fun member =>
      decide (hashing.form member.val = hashing.form form.val) && member.val.same form.val
  then members
  else members ++ [form]

theorem insert_eq_addNew (members : List Comparable) (form : Comparable) :
    hashing.insert members form = addNew members form := by
  have looksUp : ∀ member : Comparable,
      (decide (hashing.form member.val = hashing.form form.val) && member.val.same form.val) =
        member.val.same form.val := by
    intro member
    rw [Bool.and_eq_right_iff_imp, decide_eq_true_iff]
    exact hashing.form_eq_of_same
  simp only [insert, addNew, looksUp]

/-- The set of the forms of a sequence. -/
def set (forms : List Comparable) : List Comparable := forms.foldl hashing.insert []

/-- A set has one member for each class of same forms. -/
theorem length_set (forms : List Comparable) :
    (hashing.set forms).length = (Form.classes forms).ncard := by
  have inserts : hashing.insert = addNew :=
    funext fun members => funext fun form => hashing.insert_eq_addNew members form
  rw [set, inserts, Form.length_foldl_addNew]

end Hashing

end Sexpr
