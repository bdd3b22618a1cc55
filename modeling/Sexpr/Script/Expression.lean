import Sexpr.Reader.Basic
import Sexpr.Script.Equality

/-!
Expressions: how scripts write values.

Parts are made before the whole, from left to right, so the first fault inside decides.
What was reported before a fault stays reported.
-/

namespace Sexpr.Script

inductive Constructor where
  | int
  | float
  | symbol
  | string
  | quote
  | list
  deriving DecidableEq

inductive Expression where
  | none
  | bool (value : Bool)
  | int (value : Int)
  | overlong (count : Nat)
  | float (value : Binary64)
  | text (value : String)
  | bytes (value : String)
  | list (items : List Expression)
  | reference (name : String)
  | read (text : String)
  | t
  | nil
  | blank
  | emptyList
  | make (constructor : Constructor) (argument : Expression)

/-- The values of variables, the latest first. -/
abbrev Bindings := List (String × Value)

namespace Bindings

def value (bindings : Bindings) (name : String) : Value :=
  (bindings.lookup name).getD .none

end Bindings

namespace Value

def items : Value → Except Fault (List Value)
  | .list items => .ok items
  | .text value => .ok (value.toList.map fun c => .text (String.singleton c))
  | .bytes value => .ok (value.toList.map fun c => .int c.toNat)
  | .tuple items | .node (.list items) => .ok (items.map .node)
  | value => .error (.notIterable value.kindName)

def asItem (value : Value) : Except Fault Node :=
  match value with
  | .node tree => .ok tree
  | other => .error (.wrongKind .listItem other.qualifiedName)

def construct (value : Value) : Constructor → Except Fault Node
  | .int =>
      match value with
      | .int n => if fitsInt n then .ok (.leaf (.atom (.int n) 0)) else .error (.intOutOfRange n)
      | other => .error (.wrongKind .intValue other.qualifiedName)
  | .float =>
      match value with
      | .float x stamp => .ok (.leaf (.atom (.float x) stamp))
      | other => .error (.wrongKind .floatValue other.qualifiedName)
  | .symbol =>
      match value with
      | .text content => .ok (.leaf (.atom (.symbol content) 0))
      | other => .error (.wrongKind .symbolText other.qualifiedName)
  | .string =>
      match value with
      | .text content => .ok (.leaf (.atom (.string content) 0))
      | other => .error (.wrongKind .stringText other.qualifiedName)
  | .quote =>
      match value with
      | .node tree => .ok (.quote tree)
      | other => .error (.wrongKind .quotedForm other.qualifiedName)
  | .list => do
      let items ← value.items
      let trees ← items.mapM asItem
      return .list trees

end Value

/-- What the making of values leaves behind. -/
structure Journal where
  nextStamp : Nat := 0
  notices : List Notice := []

/-- A computation that may fail, which keeps the journal even then. -/
abbrev Evaluation := ExceptT Fault (StateM Journal)

def Evaluation.carryOut {α : Type} (journal : Journal) (computation : Evaluation α) :
    Except Fault α × Journal :=
  computation.run.run journal

def freshStamp : Evaluation Nat :=
  modifyGet fun journal => (journal.nextStamp, { journal with nextStamp := journal.nextStamp + 1 })

def readForm (source : String) : Evaluation Form := do
  let reading := Reader.readFirst {} source
  modify fun journal => { journal with notices := journal.notices ++ reading.notices }
  match reading.outcome with
  | .ok form => return form
  | .error failure => throw (.reading source.toList failure)

namespace Expression

mutual

def evaluate (bindings : Bindings) : Expression → Evaluation Value
  | .none => return .none
  | .bool value => return .bool value
  | .int value => return .int value
  | .overlong count => throw (.reading [] (.tooManyDigits count))
  | .float value => return .float value (← freshStamp)
  | .text value => return .text value
  | .bytes value => return .bytes value
  | .list items => return .list (← evaluateAll bindings items)
  | .reference name => return bindings.value name
  | .read source => return .node (.ofForm (← readForm source))
  | .t => return .node (.leaf (.atom .t 0))
  | .nil => return .node (.leaf (.atom .nil 0))
  | .blank => return .node (.leaf (.blank (← freshStamp)))
  | .emptyList => return .node (.list [])
  | .make constructor argument => do
      let value ← evaluate bindings argument
      return .node (← value.construct constructor)

def evaluateAll (bindings : Bindings) : List Expression → Evaluation (List Value)
  | [] => return []
  | expression :: rest => do
      let value ← evaluate bindings expression
      return value :: (← evaluateAll bindings rest)

end

end Expression

end Sexpr.Script
