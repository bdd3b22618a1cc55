import Mathlib.Data.Set.Card
import Sexpr.Proofs.Form.Notation

/-!
When forms are the same.

The same forms have the same nodes, and their atoms differ in the sign of a zero at most.  So they
are those with the same key, and being the same is an equivalence among forms without NaN.
-/

namespace Sexpr

/-- One atom, or the two zeros. -/
inductive Atom.Alike : Atom → Atom → Prop where
  | self (atom : Atom) : Alike atom atom
  | zeros {x y : Binary64} : x.isZero = true → y.isZero = true → Alike (.float x) (.float y)

namespace Form

/-- The same nodes with atoms alike at the leaves. -/
inductive Alike : Form → Form → Prop where
  | leaf {atom other : Atom} : atom.Alike other → Alike (.leaf atom) (.leaf other)
  | quote {inner other : Form} : Alike inner other → Alike (.quote inner) (.quote other)
  | nil : Alike (.list []) (.list [])
  | cons {item other : Form} {items others : List Form} :
      Alike item other →
      Alike (.list items) (.list others) →
      Alike (.list (item :: items)) (.list (other :: others))

end Form

theorem Binary64.isNaN_eq_false_of_isZero {x : Binary64} (zero : x.isZero = true) :
    x.isNaN = false := by
  simp only [isZero, beq_iff_eq] at zero
  simp [isNaN, zero]

/-! ## Atoms -/

namespace Atom

theorem Alike.of_same {atom other : Atom} (same : atom.same other = true) : atom.Alike other := by
  cases atom <;> cases other <;> try cases same
  next => exact .self .t
  next => exact .self .nil
  next value other =>
    obtain rfl := beq_iff_eq.mp same
    exact .self _
  next value other =>
    simp only [Atom.same, Binary64.sameNumber, Bool.and_eq_true, Bool.or_eq_true,
      beq_iff_eq] at same
    rcases same.2 with rfl | ⟨zero, otherZero⟩
    · exact .self _
    · exact .zeros zero otherZero
  next text other =>
    obtain rfl := beq_iff_eq.mp same
    exact .self _
  next text other =>
    obtain rfl := beq_iff_eq.mp same
    exact .self _

theorem Alike.same {atom other : Atom} (alike : atom.Alike other)
    (numeric : atom.isNaN = false) : atom.same other = true := by
  cases alike with
  | zeros zero otherZero =>
      simp [Atom.same, Binary64.sameNumber, zero, otherZero,
        Binary64.isNaN_eq_false_of_isZero zero, Binary64.isNaN_eq_false_of_isZero otherZero]
  | self =>
      cases atom with
      | t | nil => rfl
      | int _ | symbol _ | string _ => exact beq_self_eq_true _
      | float value =>
          have numeric : value.isNaN = false := numeric
          simp [Atom.same, Binary64.sameNumber, numeric]

theorem alike_iff_key_eq {atom other : Atom} : atom.Alike other ↔ atom.key = other.key := by
  constructor
  · rintro (_ | ⟨zero, otherZero⟩)
    · rfl
    · simp [key, zero, otherZero]
  · intro keys
    cases atom <;> cases other <;> try (cases keys <;> exact .self _)
    next value other =>
      rw [key, key, float.injEq] at keys
      split at keys <;> split at keys
      next zero otherZero => exact .zeros zero otherZero
      next zero otherNonzero =>
        subst keys
        exact absurd rfl otherNonzero
      next nonzero otherZero =>
        subst keys
        exact absurd rfl nonzero
      next nonzero otherNonzero =>
        subst keys
        exact .self _

end Atom

/-! ## Forms -/

namespace Form

@[simp]
theorem key_leaf (atom : Atom) : key (.leaf atom) = .leaf atom.key := rfl

@[simp]
theorem key_quote (inner : Form) : key (.quote inner) = .quote inner.key := rfl

@[simp]
theorem key_list (items : List Form) : key (.list items) = .list (items.map key) := by
  simp only [key, Tree.fold, Tree.foldAll_eq_map]

theorem Alike.of_same {form other : Form} (same : form.same other = true) : form.Alike other := by
  refine same_induct (motive := Alike) ?_ ?_ ?_ same
  · intro atom other same
    exact .leaf (.of_same same)
  · intro inner other alike
    exact .quote alike
  · intro items others alike
    induction alike with
    | nil => exact .nil
    | cons first _ inductionHypothesis => exact .cons first inductionHypothesis

theorem Alike.same {form other : Form} (alike : form.Alike other) (free : form.FreeOfNaN) :
    form.same other = true := by
  induction alike with
  | leaf alike => exact alike.same (freeOfNaN_leaf.mp free)
  | quote _ inductionHypothesis => exact inductionHypothesis free
  | nil => rfl
  | cons _ _ first others =>
      obtain ⟨itemFree, itemsFree⟩ := List.forall_mem_cons.mp (freeOfNaN_list.mp free)
      rw [Form.same, sameAll, Bool.and_eq_true]
      exact ⟨first itemFree, others (freeOfNaN_list.mpr itemsFree)⟩

/-- Without NaN, forms are the same just if they have the same nodes, with the same atoms at their
leaves but for the signs of zeros. -/
theorem same_iff_alike {form other : Form} (free : form.FreeOfNaN) :
    form.same other = true ↔ form.Alike other :=
  ⟨Alike.of_same, fun alike => alike.same free⟩

theorem alike_iff_key_eq {form other : Form} : form.Alike other ↔ form.key = other.key := by
  constructor
  · intro alike
    induction alike with
    | leaf alike => rw [key_leaf, key_leaf, Atom.alike_iff_key_eq.mp alike]
    | quote _ inductionHypothesis => rw [key_quote, key_quote, inductionHypothesis]
    | nil => rfl
    | cons _ _ first others =>
        simp only [key_list, Tree.list.injEq] at others
        simp only [key_list, List.map_cons, first, others]
  · intro keys
    induction form using Tree.induct generalizing other with
    | leaf atom =>
        cases other with
        | leaf value => exact .leaf (Atom.alike_iff_key_eq.mpr (Tree.leaf.inj keys))
        | quote inner => cases keys
        | list items => cases key_list items ▸ keys
    | quote inner inductionHypothesis =>
        cases other with
        | leaf value => cases keys
        | quote otherInner => exact .quote (inductionHypothesis (Tree.quote.inj keys))
        | list items => cases key_list items ▸ keys
    | list items inductionHypothesis =>
        cases other with
        | leaf value => cases key_list items ▸ keys
        | quote inner => cases key_list items ▸ keys
        | list others =>
            rw [key_list, key_list, Tree.list.injEq] at keys
            induction items generalizing others with
            | nil =>
                obtain rfl := List.map_eq_nil_iff.mp keys.symm
                exact .nil
            | cons item items rest =>
                cases others with
                | nil => cases keys
                | cons other others =>
                    rw [List.map_cons, List.map_cons, List.cons.injEq] at keys
                    rw [List.forall_mem_cons] at inductionHypothesis
                    exact .cons (inductionHypothesis.1 keys.1)
                      (rest inductionHypothesis.2 others keys.2)

theorem same_iff_key_eq {form other : Form} (free : form.FreeOfNaN) :
    form.same other = true ↔ form.key = other.key :=
  (same_iff_alike free).trans alike_iff_key_eq

/-! ## Classes -/

/-- A form that is the same as itself. -/
abbrev Comparable : Type := { form : Form // form.FreeOfNaN }

theorem same_equivalence :
    Equivalence fun form other : Comparable => form.val.same other.val = true := by
  refine ⟨fun form => ?_, fun {form other} same => ?_, fun {form other third} same next => ?_⟩
  · exact (same_iff_key_eq form.property).mpr rfl
  · rw [same_iff_key_eq form.property] at same
    exact (same_iff_key_eq other.property).mpr same.symm
  · rw [same_iff_key_eq form.property] at same
    rw [same_iff_key_eq other.property] at next
    exact (same_iff_key_eq form.property).mpr (same.trans next)

/-- Being the same, as an equivalence. -/
def sameSetoid : Setoid Comparable := ⟨_, same_equivalence⟩

/-- The class of the forms that are the same as a form. -/
def sameClass (form : Comparable) : Quotient sameSetoid := Quotient.mk sameSetoid form

theorem sameClass_eq_iff {form other : Comparable} :
    sameClass form = sameClass other ↔ form.val.same other.val = true :=
  @Quotient.eq _ sameSetoid form other

/-- The classes of the forms of a sequence. -/
def classes (forms : List Comparable) : Set (Quotient sameSetoid) :=
  { kind | kind ∈ forms.map sameClass }

theorem mem_classes {forms : List Comparable} {kind : Quotient sameSetoid} :
    kind ∈ classes forms ↔ kind ∈ forms.map sameClass := Iff.rfl

@[simp]
theorem classes_nil : classes [] = ∅ := by
  ext kind
  simp [mem_classes]

@[simp]
theorem classes_cons (form : Comparable) (forms : List Comparable) :
    classes (form :: forms) = insert (sameClass form) (classes forms) := by
  ext kind
  rw [mem_classes, List.map_cons, List.mem_cons, Set.mem_insert_iff, mem_classes]

theorem classes_eq_of_perm {forms others : List Comparable} (permuted : forms.Perm others) :
    classes forms = classes others := by
  ext kind
  exact (permuted.map sameClass).mem_iff

theorem ncard_classes {forms : List Comparable} (distinct : (forms.map sameClass).Nodup) :
    (classes forms).ncard = forms.length := by
  classical
  rw [classes, ← List.coe_toFinset, Set.ncard_coe_finset, List.toFinset_card_of_nodup distinct,
    List.length_map]

/-- Add a form to others, unless one of them is the same. -/
def addNew (members : List Comparable) (form : Comparable) : List Comparable :=
  if members.any fun member => member.val.same form.val then members else members ++ [form]

theorem any_same_iff {members : List Comparable} {form : Comparable} :
    (members.any fun member => member.val.same form.val) = true ↔
      sameClass form ∈ classes members := by
  simp only [List.any_eq_true, mem_classes, List.mem_map, sameClass_eq_iff]

theorem addNew_of_mem {members : List Comparable} {form : Comparable}
    (known : sameClass form ∈ classes members) : addNew members form = members :=
  if_pos (any_same_iff.mpr known)

theorem addNew_of_notMem {members : List Comparable} {form : Comparable}
    (new : sameClass form ∉ classes members) : addNew members form = members ++ [form] :=
  if_neg (mt any_same_iff.mp new)

theorem nodup_addNew {members : List Comparable} (form : Comparable)
    (distinct : (members.map sameClass).Nodup) : ((addNew members form).map sameClass).Nodup := by
  by_cases known : sameClass form ∈ classes members
  · rwa [addNew_of_mem known]
  · rw [addNew_of_notMem known, List.map_append, List.map_singleton, ← List.concat_eq_append]
    exact distinct.concat known

theorem classes_addNew (members : List Comparable) (form : Comparable) :
    classes (addNew members form) = insert (sameClass form) (classes members) := by
  by_cases known : sameClass form ∈ classes members
  · rw [addNew_of_mem known, Set.insert_eq_of_mem known]
  · ext kind
    rw [addNew_of_notMem known, mem_classes, List.map_append, List.map_singleton, List.mem_append,
      List.mem_singleton, Set.mem_insert_iff, mem_classes, or_comm]

theorem foldl_addNew (forms : List Comparable) {members : List Comparable}
    (distinct : (members.map sameClass).Nodup) :
    ((forms.foldl addNew members).map sameClass).Nodup ∧
      classes (forms.foldl addNew members) = classes members ∪ classes forms := by
  induction forms generalizing members with
  | nil => exact ⟨distinct, by rw [List.foldl_nil, classes_nil, Set.union_empty]⟩
  | cons form forms inductionHypothesis =>
      obtain ⟨stillDistinct, gathered⟩ := inductionHypothesis (nodup_addNew form distinct)
      refine ⟨stillDistinct, ?_⟩
      rw [List.foldl_cons, gathered, classes_addNew, classes_cons, Set.insert_union,
        Set.union_insert]

/-- Forms that are added one after the other leave one member for each of their classes. -/
theorem length_foldl_addNew (forms : List Comparable) :
    (forms.foldl addNew []).length = (classes forms).ncard := by
  obtain ⟨distinct, gathered⟩ := @foldl_addNew forms [] List.nodup_nil
  rw [← ncard_classes distinct, gathered, classes_nil, Set.empty_union]

end Form

end Sexpr
