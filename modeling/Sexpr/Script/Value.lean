import Sexpr.Form.Printer

/-!
Values of scripts that build and inspect forms.

Besides forms there are the plain values that forms are built from and taken apart into.
Some things are equal to themselves only when they are the very same thing: a NaN, and the
blank, a form without any structure.  They carry a stamp that tells them apart.
-/

namespace Sexpr.Script

inductive Leaf where
  /-- An atom; the stamp tells apart the numbers that atoms hold. -/
  | atom (value : Atom) (stamp : Nat)
  | blank (stamp : Nat)

abbrev Node := Tree Leaf

namespace Node

def ofForm : Form → Node := Tree.fold (fun atom => .leaf (.atom atom 0)) .quote .list

def form? : Node → Option Form :=
  Tree.mapLeaves? fun
    | .atom value _ => some value
    | .blank _ => none

def kindName : Node → String
  | .leaf (.atom .t _) => "T"
  | .leaf (.atom .nil _) => "Nil"
  | .leaf (.atom (.int _) _) => "Int"
  | .leaf (.atom (.float _) _) => "Float"
  | .leaf (.atom (.symbol _) _) => "Symbol"
  | .leaf (.atom (.string _) _) => "Str"
  | .leaf (.blank _) => "Token"
  | .quote _ => "Quote"
  | .list _ => "List"

end Node

inductive Value where
  | none
  | bool (value : Bool)
  | int (value : Int)
  | float (value : Binary64) (stamp : Nat)
  | text (value : String)
  /-- Bytes, given by the ASCII text they encode. -/
  | bytes (value : String)
  | list (items : List Value)
  | tuple (items : List Node)
  | node (tree : Node)

namespace Value

def kindName : Value → String
  | .none => "NoneType"
  | .bool _ => "bool"
  | .int _ => "int"
  | .float _ _ => "float"
  | .text _ => "str"
  | .bytes _ => "bytes"
  | .list _ => "list"
  | .tuple _ => "tuple"
  | .node tree => tree.kindName

def qualifiedName : Value → String
  | .node tree => "<class 'lprp.token." ++ tree.kindName ++ "'>"
  | value => "<class '" ++ value.kindName ++ "'>"

def ofOption : Option Node → Value
  | some tree => .node tree
  | Option.none => .none

def isTrue : Value → Bool
  | .none => false
  | .bool value => value
  | .int value => value != 0
  | .float value _ => !value.isZero
  | .text value | .bytes value => !value.isEmpty
  | .list items => !items.isEmpty
  | .tuple items => !items.isEmpty
  | .node (.list []) => false
  | .node _ => true

/-- The texts of the items of a tuple between parentheses; a single item has a comma. -/
def tupleText : List (List Char) → List Char
  | [only] => '(' :: only ++ [',', ')']
  | shown => '(' :: joinWith [',', ' '] shown ++ [')']

mutual

/-- The text that shows a value and its kind.  Nodes with blanks have none. -/
def inspect? : Value → Option (List Char)
  | .none => some "None".toList
  | .bool true => some "True".toList
  | .bool false => some "False".toList
  | .int value => some (integerText value)
  | .float value _ => some (value.text (Decimal.write Atom.numberLayout))
  | .text value => some (Text.Quoted.encode value.toList)
  | .bytes value => some ('b' :: Text.Quoted.encode value.toList)
  | .list items => (inspectAll? items).map fun shown => '[' :: joinWith [',', ' '] shown ++ [']']
  | .tuple items =>
      (items.mapM Node.form?).map fun forms => tupleText (forms.map Form.constructed)
  | .node tree => tree.form?.map Form.constructed

def inspectAll? : List Value → Option (List (List Char))
  | [] => some []
  | value :: rest =>
      match inspect? value, inspectAll? rest with
      | some shown, some others => some (shown :: others)
      | _, _ => Option.none

end

/-- The plain text of a value: texts as they are, forms as source text, and all else as it is
inspected. -/
def display? : Value → Option (List Char)
  | .text value => some value.toList
  | .node tree => tree.form?.map Form.source
  | value => value.inspect?

end Value

end Sexpr.Script
