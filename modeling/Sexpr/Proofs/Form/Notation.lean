import Sexpr.Proofs.Binary64.Text
import Sexpr.Proofs.Text.Quoted

/-!
Constructor notation tells the form.

A node is the name of its constructor and an argument in parentheses.  No name has a parenthesis,
and every argument ends in one place: numbers at the first closing parenthesis, quoted texts at
their mark, and lists at the bracket where no item begins.
-/

namespace Sexpr

open Text (Delimited)

theorem eq_of_integerText {n other : Int} (same : integerText n = integerText other) :
    n = other := by
  obtain ⟨numeral, written, text, rfl⟩ := exists_numeral_integerText n
  obtain ⟨otherNumeral, otherWritten, otherText, rfl⟩ := exists_numeral_integerText other
  rw [text, otherText] at same
  rw [written.text_inj otherWritten same]

theorem parenthesis_not_mem_integerText (n : Int) : ')' ∉ integerText n := by
  intro membership
  obtain ⟨numeral, written, text, _⟩ := exists_numeral_integerText n
  rw [text] at membership
  cases Reader.Grammar.accepts_text written ')' membership

section Items

variable {α : Type} {write : α → List Char}

theorem joinWith_cons (separator : List Char) (value : α) (values : List α) :
    joinWith separator ((value :: values).map write) =
      write value ++ values.flatMap fun next => separator ++ write next := by
  induction values generalizing value with
  | nil => simp [joinWith]
  | cons next values inductionHypothesis =>
      simp only [List.map_cons, joinWith, List.flatMap_cons, List.append_assoc] at *
      rw [inductionHypothesis]

/-- Joined texts end at a character that begins neither an item nor the separator. -/
theorem delimited_joinWith {first close : Char} (more : List Char) {values : List α}
    (separates : first ≠ close)
    (begins : ∀ value, ∃ c text, write value = c :: text ∧ c ≠ close)
    (each : ∀ value ∈ values, Delimited write value) :
    Delimited (fun others => joinWith (first :: more) (others.map write) ++ [close]) values := by
  have opened : ∀ value values, ∃ c text,
      joinWith (first :: more) ((value :: values).map write) = c :: text ∧ c ≠ close := by
    intro value values
    obtain ⟨c, text, written, differs⟩ := begins value
    rw [joinWith_cons, written]
    exact ⟨c, _, rfl, differs⟩
  intro others rest tail same
  cases values with
  | nil =>
      cases others with
      | nil => exact ⟨rfl, (List.cons.inj same).2⟩
      | cons other others =>
          obtain ⟨c, text, joined, differs⟩ := opened other others
          simp only [joined] at same
          exact absurd (List.cons.inj same).1.symm differs
  | cons value values =>
      rw [List.forall_mem_cons] at each
      cases others with
      | nil =>
          obtain ⟨c, text, joined, differs⟩ := opened value values
          simp only [joined] at same
          exact absurd (List.cons.inj same).1 differs
      | cons other others =>
          simp only [joinWith_cons, List.append_assoc] at same
          obtain ⟨rfl, tails⟩ := each.1 other _ _ same
          have separated : Delimited (fun others => others.flatMap
              (fun next => (first :: more) ++ write next) ++ [close]) values :=
            Text.delimited_flatMap (fun next => ⟨first, more ++ write next, rfl, separates⟩)
              fun next membership => (each.2 next membership).prefixed (first :: more)
          obtain ⟨rfl, rests⟩ := separated others rest tail (by
            simpa only [List.append_assoc] using tails)
          exact ⟨rfl, rests⟩

end Items

/-- The constructors that constructor notation names. -/
inductive Constructor where
  | t
  | nil
  | int
  | float
  | symbol
  | string
  | quote
  | list

namespace Constructor

def name : Constructor → String
  | t => "T"
  | nil => "Nil"
  | int => "Int"
  | float => "Float"
  | symbol => "Symbol"
  | string => "Str"
  | quote => "Quote"
  | list => "List"

theorem parenthesis_not_mem_name (constructor : Constructor) :
    '(' ∉ constructor.name.toList := by
  cases constructor <;> decide

theorem eq_of_name {constructor other : Constructor}
    (same : constructor.name.toList = other.name.toList) : constructor = other := by
  cases constructor <;> cases other <;> first | rfl | exact absurd same (by decide)

theorem exists_name_eq_cons (constructor : Constructor) :
    ∃ c text, constructor.name.toList = c :: text ∧ c ≠ ']' := by
  cases constructor <;> exact ⟨_, _, rfl, by decide⟩

end Constructor

/-- Whether an atom is a float that is not a number. -/
def Atom.isNaN : Atom → Bool
  | .float value => value.isNaN
  | _ => false

namespace Form

/-- A form all of whose floats are numbers. -/
def FreeOfNaN (form : Form) : Prop := ∀ atom ∈ form.leaves, atom.isNaN = false

instance (form : Form) : Decidable form.FreeOfNaN :=
  inferInstanceAs (Decidable (∀ atom ∈ form.leaves, atom.isNaN = false))

theorem freeOfNaN_leaf {atom : Atom} : FreeOfNaN (.leaf atom) ↔ atom.isNaN = false := by
  simp [FreeOfNaN]

theorem freeOfNaN_list {items : List Form} :
    FreeOfNaN (.list items) ↔ ∀ item ∈ items, FreeOfNaN item :=
  Tree.forall_mem_leaves_list

/-- The constructor of the root. -/
def constructor : Form → Constructor
  | .leaf .t => .t
  | .leaf .nil => .nil
  | .leaf (.int _) => .int
  | .leaf (.float _) => .float
  | .leaf (.symbol _) => .symbol
  | .leaf (.string _) => .string
  | .quote _ => .quote
  | .list _ => .list

/-- What the constructor of the root is applied to. -/
def argument : Form → List Char
  | .leaf .t => []
  | .leaf .nil => []
  | .leaf (.int value) => integerText value
  | .leaf (.float value) => value.text (Decimal.write Atom.numberLayout)
  | .leaf (.symbol text) => Text.Quoted.encode text.toList
  | .leaf (.string text) => Text.Quoted.encode text.toList
  | .quote inner => constructed inner
  | .list items => '[' :: joinWith [',', ' '] (items.map constructed) ++ [']']

theorem constructed_eq (form : Form) :
    form.constructed = form.constructor.name.toList ++ '(' :: (form.argument ++ [')']) := by
  have applied : form.constructed = Atom.applied form.constructor.name form.argument := by
    cases form with
    | leaf atom => cases atom <;> rfl
    | quote inner => rfl
    | list items =>
        simp only [constructed, Tree.fold, Tree.foldAll_eq_map]
        rfl
  rw [applied, Atom.applied, List.append_assoc, List.cons_append]

theorem exists_constructed_eq_cons (form : Form) :
    ∃ c text, form.constructed = c :: text ∧ c ≠ ']' := by
  obtain ⟨c, text, name, differs⟩ := form.constructor.exists_name_eq_cons
  rw [constructed_eq, name]
  exact ⟨c, _, rfl, differs⟩

/-- The name of the constructor ends at the parenthesis, so only the argument is left. -/
theorem delimited_of_argument {form : Form}
    (each : ∀ other, form.constructor = other.constructor → ∀ rest more,
      form.argument ++ [')'] ++ rest = other.argument ++ [')'] ++ more →
      form = other ∧ rest = more) : Delimited constructed form := by
  intro other rest more same
  simp only [constructed_eq, List.append_assoc, List.cons_append] at same
  obtain ⟨names, arguments⟩ := Text.append_cons_inj_of_not_mem
    form.constructor.parenthesis_not_mem_name other.constructor.parenthesis_not_mem_name same
  refine each other (Constructor.eq_of_name names) rest more ?_
  rw [List.append_assoc, List.append_assoc]
  exact arguments

theorem delimited_encode_concat (text : String) :
    Delimited (fun other : String => Text.Quoted.encode other.toList ++ [')']) text :=
  (Text.Quoted.delimited_encode text.toList |>.concat ')').comp fun _ => String.toList_inj.mp

theorem delimited_constructed_leaf {atom : Atom} (numeric : atom.isNaN = false) :
    Delimited constructed (.leaf atom) := by
  refine delimited_of_argument fun other sameConstructor rest more same => ?_
  cases other with
  | quote inner => cases atom <;> cases sameConstructor
  | list items => cases atom <;> cases sameConstructor
  | leaf other =>
      cases atom <;> cases other <;> cases sameConstructor
      next => exact ⟨rfl, (List.cons.inj same).2⟩
      next => exact ⟨rfl, (List.cons.inj same).2⟩
      next value otherValue =>
        have delimited := Text.delimited_of_not_mem parenthesis_not_mem_integerText
          fun other => @eq_of_integerText value other
        obtain ⟨rfl, rests⟩ := delimited otherValue rest more same
        exact ⟨rfl, rests⟩
      next value otherValue =>
        have delimited := Text.delimited_of_not_mem
          (fun other => @Binary64.parenthesis_not_mem_text other Atom.numberLayout)
          fun other => @Binary64.eq_of_text value other Atom.numberLayout numeric
        obtain ⟨rfl, rests⟩ := delimited otherValue rest more same
        exact ⟨rfl, rests⟩
      next text otherText =>
        obtain ⟨rfl, rests⟩ := delimited_encode_concat text otherText rest more same
        exact ⟨rfl, rests⟩
      next text otherText =>
        obtain ⟨rfl, rests⟩ := delimited_encode_concat text otherText rest more same
        exact ⟨rfl, rests⟩

/-- Constructor notation ends in one place, whatever follows it, and tells the form. -/
theorem delimited_constructed {form : Form} (free : form.FreeOfNaN) :
    Delimited constructed form := by
  induction form using Tree.induct with
  | leaf atom => exact delimited_constructed_leaf (freeOfNaN_leaf.mp free)
  | quote inner inductionHypothesis =>
      refine delimited_of_argument fun other sameConstructor rest more same => ?_
      cases other with
      | leaf atom => cases atom <;> cases sameConstructor
      | list items => cases sameConstructor
      | quote otherInner =>
          have delimited := (inductionHypothesis free).concat ')'
          obtain ⟨rfl, rests⟩ := delimited otherInner rest more same
          exact ⟨rfl, rests⟩
  | list items inductionHypothesis =>
      refine delimited_of_argument fun other sameConstructor rest more same => ?_
      cases other with
      | leaf atom => cases atom <;> cases sameConstructor
      | quote inner => cases sameConstructor
      | list others =>
          have each := freeOfNaN_list.mp free
          have joined := @delimited_joinWith _ _ ',' ']' [' '] items (by decide)
            exists_constructed_eq_cons fun item membership =>
              inductionHypothesis item membership (each item membership)
          obtain ⟨rfl, rests⟩ := (joined.prefixed ['[']).concat ')' others rest more same
          exact ⟨rfl, rests⟩

/-- Forms are equal if their constructor notation is. -/
theorem describe_eq_iff {form other : Form} (free : form.FreeOfNaN) :
    form.describe = other.describe ↔ form = other := by
  constructor
  · intro same
    have texts : form.constructed = other.constructed := String.ofList_injective same
    exact (delimited_constructed free).eq texts
  · rintro rfl
    rfl

/-- A string that looks like the end of one item and the beginning of the next. -/
theorem describe_eq_iff_list :
    ∃ form other : Form, form.FreeOfNaN ∧
      form = .list [.leaf (.string "a'), Str('b")] ∧
      other = .list [.leaf (.string "a"), .leaf (.string "b")] ∧
      form.describe ≠ other.describe := by
  refine ⟨_, _, ?free, rfl, rfl, ?differs⟩
  case free => decide
  case differs => exact mt (describe_eq_iff (by decide)).mp (by decide)

end Form

end Sexpr
