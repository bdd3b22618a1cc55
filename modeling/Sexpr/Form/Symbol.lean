import Sexpr.Form.Basic

/-!
The characters and shapes of symbols, and the forms that source text can denote.

A plain name is a letter followed by letters and hyphens.  A keyword is a plain name after
a colon, a special is one between asterisks.
-/

namespace Sexpr

def isNameChar (c : Char) : Bool := c.isAlpha || c == '-'

/-- A letter followed by letters and hyphens. -/
def isPlainName : List Char → Bool
  | [] => false
  | c :: rest => c.isAlpha && rest.all isNameChar

def isKeywordName : List Char → Bool
  | ':' :: rest => isPlainName rest
  | _ => false

def isSpecialName : List Char → Bool
  | '*' :: rest => rest.getLast? == some '*' && isPlainName rest.dropLast
  | _ => false

/-- Names that do not denote symbols but constants. -/
def constantNamed? (name : List Char) : Option Atom :=
  if name = ['n', 'i', 'l'] ∨ name = ['N', 'I', 'L'] then some .nil
  else if name = ['t'] then some .t
  else none

def atomNamed (name : List Char) : Atom :=
  (constantNamed? name).getD (.symbol (String.ofList name))

namespace Symbol

def isKeyword (text : String) : Bool := text.toList.head? == some ':'

/-- Whether the text of a symbol marks it as special: asterisks around at least one
character. -/
def isSpecial (text : String) : Bool :=
  decide (2 < text.toList.length) && text.toList.head? == some '*' &&
    text.toList.getLast? == some '*'

end Symbol

namespace Atom

def isWellFormed : Atom → Bool
  | .t | .nil => true
  | .int value => fitsInt value
  | .float value => value.isFinite
  | .symbol text =>
      let name := text.toList
      (isPlainName name && (constantNamed? name).isNone) || isKeywordName name ||
        isSpecialName name
  | .string text => !text.toList.contains '\x22'

end Atom

namespace Form

def WellFormed (form : Form) : Prop := ∀ atom ∈ form.leaves, atom.isWellFormed = true

instance (form : Form) : Decidable form.WellFormed :=
  inferInstanceAs (Decidable (∀ atom ∈ form.leaves, atom.isWellFormed = true))

end Form

end Sexpr
