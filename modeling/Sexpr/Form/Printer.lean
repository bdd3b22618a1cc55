import Sexpr.Binary64.Shortest
import Sexpr.Form.Basic
import Sexpr.Text.Quoted

/-!
The two written forms of a form.

`print` writes source text, which the reader accepts again.  `describe` writes the
constructors, so that the kind of every node can be seen.
-/

namespace Sexpr

def joinWith (separator : List Char) : List (List Char) → List Char
  | [] => []
  | [text] => text
  | text :: rest => text ++ separator ++ joinWith separator rest

namespace Atom

/-- The source text of an atom.  Numbers are written positionally, because source text has
no exponents, and strings without escapes, because it has none. -/
def source : Atom → List Char
  | .t => ['t']
  | .nil => ['n', 'i', 'l']
  | .int value => integerText value
  | .float value => value.text Decimal.positional
  | .symbol text => text.toList
  | .string text => Text.Quoted.doubleQuote :: text.toList ++ [Text.Quoted.doubleQuote]

/-- Numbers in constructor notation have an exponent below 10^-4 and from 10^16 on. -/
def numberLayout : Decimal.Layout where
  least := -4
  bound := 16
  exponentDigits := 2

def applied (constructor : String) (argument : List Char) : List Char :=
  constructor.toList ++ '(' :: argument ++ [')']

def constructed : Atom → List Char
  | .t => applied "T" []
  | .nil => applied "Nil" []
  | .int value => applied "Int" (integerText value)
  | .float value => applied "Float" (value.text (Decimal.write numberLayout))
  | .symbol text => applied "Symbol" (Text.Quoted.encode text.toList)
  | .string text => applied "Str" (Text.Quoted.encode text.toList)

end Atom

namespace Form

def source : Form → List Char :=
  Tree.fold Atom.source (Text.Quoted.apostrophe :: ·)
    (fun items => '(' :: joinWith [' '] items ++ [')'])

def constructed : Form → List Char :=
  Tree.fold Atom.constructed (Atom.applied "Quote")
    (fun items => Atom.applied "List" ('[' :: joinWith [',', ' '] items ++ [']']))

def print (form : Form) : String := String.ofList form.source

def describe (form : Form) : String := String.ofList form.constructed

/-- How deeply calls nest, if they do by so much at each node.  A form asks its parts for their
texts; a list costs the most, because its items are asked while they are joined. -/
def nestedCalls (leaf quote list : Nat) : Form → Nat :=
  Tree.fold (fun _ => leaf) (· + quote) (fun calls => calls.foldr max 0 + list)

def printCalls : Form → Nat := nestedCalls 2 3 4

def describeCalls : Form → Nat := nestedCalls 4 2 5

end Form

end Sexpr
