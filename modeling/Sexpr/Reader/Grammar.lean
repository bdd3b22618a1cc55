import Sexpr.Form.Symbol
import Sexpr.Reader.Run

/-!
The language of source text, as a relation between texts and forms.

A lexeme is a text that denotes an atom by itself.  `FormAt` and `FormsAt` relate a text to
the forms at its front and to the text that follows them; a run is never followed by a
character that would continue it.  Nothing here says how forms are found.
-/

namespace Sexpr.Reader.Grammar

def sign (negative : Bool) : List Char := if negative then ['-'] else []

def IsDigits (text : List Char) : Prop := text ≠ [] ∧ ∀ c ∈ text, c.isDigit = true

inductive Lexeme : RunKind → List Char → Atom → Prop where
  | integer {negative : Bool} {digits : List Char} :
      IsDigits digits →
      digits.length ≤ Text.digitLimit →
      fitsInt (Numeral.signedValue negative digits) = true →
      Lexeme .number (sign negative ++ digits) (.int (Numeral.signedValue negative digits))
  | decimal {negative : Bool} {whole fraction : List Char} {value : Binary64} :
      IsDigits whole →
      IsDigits fraction →
      Binary64.ofRatio? negative (digitsValue (whole ++ fraction)) (Nat.pow 10 fraction.length) =
        some value →
      Lexeme .number (sign negative ++ whole ++ '.' :: fraction) (.float value)
  | constant {name : List Char} {atom : Atom} :
      constantNamed? name = some atom →
      Lexeme .name name atom
  | plain {name : List Char} :
      isPlainName name = true →
      constantNamed? name = none →
      Lexeme .name name (.symbol (String.ofList name))
  | keyword {name : List Char} :
      isKeywordName name = true →
      Lexeme .keyword name (.symbol (String.ofList name))
  | special {name : List Char} :
      isSpecialName name = true →
      Lexeme .special name (.symbol (String.ofList name))

def EndsBefore (kind : RunKind) (rest : List Char) : Prop :=
  rest.head?.any kind.accepts = false

mutual

/-- A form at the front of a text, and the text that follows it. -/
inductive FormAt : List Char → Form → List Char → Prop where
  | run {kind : RunKind} {text rest : List Char} {atom : Atom} :
      Lexeme kind text atom →
      EndsBefore kind rest →
      FormAt (text ++ rest) (.leaf atom) rest
  | string {text rest : List Char} :
      Text.Quoted.doubleQuote ∉ text →
      FormAt (Text.Quoted.doubleQuote :: text ++ Text.Quoted.doubleQuote :: rest)
        (.leaf (.string (String.ofList text))) rest
  | quote {text rest : List Char} {form : Form} :
      FormAt text form rest →
      FormAt (Text.Quoted.apostrophe :: text) (.quote form) rest
  | list {text rest : List Char} {forms : List Form} :
      FormsAt text forms (')' :: rest) →
      FormAt ('(' :: text) (.list forms) rest

/-- Forms and spaces at the front of a text, and the text that follows them. -/
inductive FormsAt : List Char → List Form → List Char → Prop where
  | none {rest : List Char} : FormsAt rest [] rest
  | space {text rest : List Char} {forms : List Form} :
      FormsAt text forms rest →
      FormsAt (' ' :: text) forms rest
  | form {text middle rest : List Char} {form : Form} {forms : List Form} :
      FormAt text form middle →
      FormsAt middle forms rest →
      FormsAt text (form :: forms) rest

end

def Denotes (text : String) (forms : List Form) : Prop := FormsAt text.toList forms []

end Sexpr.Reader.Grammar
