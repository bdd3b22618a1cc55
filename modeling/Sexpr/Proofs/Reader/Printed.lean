import Sexpr.Proofs.Binary64.Shortest
import Sexpr.Proofs.Decimal.Positional
import Sexpr.Proofs.Form.Basic
import Sexpr.Proofs.Form.Flavour
import Sexpr.Proofs.Reader.Lexeme

/-!
The source text of a well-formed form denotes the form.

What follows must not continue the run at its end.  Items are separated by spaces and lists end in a
parenthesis, and neither continues a run.
-/

namespace Sexpr

open Reader.Grammar (EndsBefore FormAt FormsAt IsDigits Lexeme sign)
open Text.Quoted (doubleQuote)

theorem integerText_eq (n : Int) :
    integerText n = sign (decide (n < 0)) ++ decimalDigits n.natAbs := by
  unfold integerText
  by_cases negative : n < 0
  · simp [negative, sign]
  · simp [negative, sign]

theorem signedValue_decimalDigits (n : Int) :
    Numeral.signedValue (decide (n < 0)) (decimalDigits n.natAbs) = n := by
  rw [Numeral.signedValue, digitsValue_decimalDigits]
  by_cases negative : n < 0
  · simp only [negative, decide_true, if_true]
    omega
  · simp only [negative, decide_false, Bool.false_eq_true, if_false]
    omega

theorem exists_numeral_integerText (n : Int) :
    ∃ numeral : Numeral, numeral.IsWritten ∧ integerText n = numeral.text ∧
      Numeral.signedValue numeral.negative numeral.whole = n :=
  ⟨⟨decide (n < 0), decimalDigits n.natAbs, none⟩, ⟨isDigits_decimalDigits n.natAbs, nofun⟩,
    integerText_eq n, signedValue_decimalDigits n⟩

theorem length_decimalDigits_of_fitsInt {n : Int} (fits : fitsInt n = true) :
    (decimalDigits n.natAbs).length ≤ Text.digitLimit := by
  rw [fitsInt_iff, minInt, maxInt] at fits
  have small : n.natAbs < 10 ^ 19 := by omega
  have short : (decimalDigits n.natAbs).length ≤ 19 :=
    (Nat.length_toDigits_le_iff (by decide) (by decide)).mpr small
  exact Nat.le_trans short (by decide)

theorem lexeme_integerText {n : Int} (fits : fitsInt n = true) :
    Lexeme .number (integerText n) (.int n) := by
  have value := signedValue_decimalDigits n
  have inRange : fitsInt (Numeral.signedValue (decide (n < 0)) (decimalDigits n.natAbs)) = true := by
    rw [value]
    exact fits
  have lexeme := Lexeme.integer (isDigits_decimalDigits n.natAbs)
    (length_decimalDigits_of_fitsInt fits) inRange
  rw [value, ← integerText_eq] at lexeme
  exact lexeme

theorem Binary64.text_of_isFinite {x : Binary64} (finite : x.isFinite = true)
    (style : Decimal → List Char) : x.text style = sign x.negative ++ style x.shortest := by
  rw [text, isNaN_eq_false_of_isFinite finite, finite]
  cases x.negative <;> rfl

/-- A finite number is printed so that it rounds back to itself. -/
theorem lexeme_positional {x : Binary64} (finite : x.isFinite = true) :
    Lexeme .number (x.text Decimal.positional) (.float x) := by
  obtain ⟨whole, fraction, positional, wholeDigits, fractionDigits, written⟩ :=
    x.shortest.exists_positional_eq
  have value : (digitsValue (whole ++ fraction) : ℚ) / (Nat.pow 10 fraction.length : Nat) =
      x.shortest.value := by
    rw [Nat.pow_eq, Nat.cast_pow, Nat.cast_ofNat, written]
  have positive : 0 < Nat.pow 10 fraction.length := Nat.pow_pos (by decide)
  have rounded := Binary64.ofRatio?_of_shortest finite positive value
  have lexeme := Lexeme.decimal wholeDigits fractionDigits rounded
  rwa [Binary64.text_of_isFinite finite, positional, ← List.append_assoc]

/-- The class of the run that the name of a symbol is. -/
def Symbol.Flavour.runKind : Symbol.Flavour → RunKind
  | .plain => .name
  | .keyword => .keyword
  | .special => .special

/-- The class of the run that the source text of an atom is.  A string is no run. -/
def Atom.runKind? : Atom → Option RunKind
  | .t | .nil => some .name
  | .int _ | .float _ => some .number
  | .symbol text => some (Symbol.Flavour.ofFirst text.toList.head?).runKind
  | .string _ => none

/-- The class of the run at the end of the source text of a form: quotes end as what they quote. -/
def Form.lastRun? : Form → Option RunKind
  | .leaf atom => atom.runKind?
  | .quote inner => lastRun? inner
  | .list _ => none

theorem lexeme_symbol {text : String} (wellFormed : (Atom.symbol text).isWellFormed = true) :
    Lexeme (Symbol.Flavour.ofFirst text.toList.head?).runKind text.toList (.symbol text) := by
  have written : Atom.symbol text = .symbol (String.ofList text.toList) := by
    rw [String.ofList_toList]
  rw [written]
  simp only [Atom.isWellFormed, Bool.or_eq_true, Bool.and_eq_true,
    Option.isNone_iff_eq_none] at wellFormed
  rcases wellFormed with (⟨plain, ordinary⟩ | keyword) | special
  · rw [← @Symbol.Flavour.eq_ofFirst .plain _ plain]
    exact .plain plain ordinary
  · rw [← @Symbol.Flavour.eq_ofFirst .keyword _ keyword]
    exact .keyword keyword
  · rw [← @Symbol.Flavour.eq_ofFirst .special _ special]
    exact .special special

/-- The source text of an atom is a lexeme that denotes it, unless it is a string. -/
theorem lexeme_source {atom : Atom} {kind : RunKind} (wellFormed : atom.isWellFormed = true)
    (written : atom.runKind? = some kind) : Lexeme kind atom.source atom := by
  cases atom with
  | t =>
      cases written
      exact .constant rfl
  | nil =>
      cases written
      exact .constant rfl
  | int value =>
      cases written
      exact lexeme_integerText wellFormed
  | float value =>
      cases written
      exact lexeme_positional wellFormed
  | symbol text =>
      cases written
      exact lexeme_symbol wellFormed
  | string text => cases written

/-- What follows a printed form: nothing, a space or the end of a list. -/
def IsSeparated (rest : List Char) : Prop := ∀ c ∈ rest.head?, c = ' ' ∨ c = ')'

theorem IsSeparated.endsBefore {rest : List Char} (separated : IsSeparated rest)
    (kind : RunKind) : EndsBefore kind rest := by
  cases rest with
  | nil => rfl
  | cons c rest =>
      rcases separated c rfl with rfl | rfl
      · cases kind <;> rfl
      · cases kind <;> rfl

theorem formAt_atom {atom : Atom} {rest : List Char} (wellFormed : atom.isWellFormed = true)
    (ends : ∀ kind, atom.runKind? = some kind → EndsBefore kind rest) :
    FormAt (atom.source ++ rest) (.leaf atom) rest := by
  cases written : atom.runKind? with
  | some kind => exact .run (lexeme_source wellFormed written) (ends kind written)
  | none =>
      cases atom with
      | string text =>
          have free : doubleQuote ∉ text.toList := by
            simpa [Atom.isWellFormed, doubleQuote] using wellFormed
          have derived := @FormAt.string _ rest free
          rw [String.ofList_toList] at derived
          simpa [Atom.source] using derived
      | _ => cases written

theorem formsAt_joinWith {items : List Form} (rest : List Char)
    (printed : ∀ item ∈ items, ∀ rest, IsSeparated rest →
      FormAt (Form.source item ++ rest) item rest) :
    FormsAt (joinWith [' '] (items.map Form.source) ++ ')' :: rest) items (')' :: rest) := by
  have closed : IsSeparated (')' :: rest) := by simp [IsSeparated]
  induction items with
  | nil => exact .none
  | cons item items inductionHypothesis =>
      have first := printed item List.mem_cons_self
      have others := inductionHypothesis fun other membership =>
        printed other (List.mem_cons_of_mem item membership)
      cases items with
      | nil => exact .form (first _ closed) .none
      | cons next items =>
          have spaced : ∀ text, IsSeparated (' ' :: text) := by simp [IsSeparated]
          have derived := FormsAt.form (first _ (spaced _)) (.space others)
          simpa [joinWith] using derived

/-- The source text of a well-formed form denotes the form, whatever follows it, as long as that
does not continue its last run. -/
theorem formAt_source_of_ends {form : Form} {rest : List Char} (wellFormed : form.WellFormed)
    (ends : ∀ kind, form.lastRun? = some kind → EndsBefore kind rest) :
    FormAt (form.source ++ rest) form rest := by
  induction form using Tree.induct generalizing rest with
  | leaf atom => exact formAt_atom (Form.wellFormed_leaf.mp wellFormed) ends
  | quote inner inductionHypothesis => exact .quote (inductionHypothesis wellFormed ends)
  | list items inductionHypothesis =>
      have each := Form.wellFormed_list.mp wellFormed
      have derived := FormAt.list (formsAt_joinWith rest fun item membership _ separated =>
        inductionHypothesis item membership (each item membership) fun kind _ =>
          separated.endsBefore kind)
      simpa using derived

theorem formAt_source {form : Form} {rest : List Char} (wellFormed : form.WellFormed)
    (separated : IsSeparated rest) : FormAt (form.source ++ rest) form rest :=
  formAt_source_of_ends wellFormed fun kind _ => separated.endsBefore kind

end Sexpr
