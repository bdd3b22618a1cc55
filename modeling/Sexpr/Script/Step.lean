import Sexpr.Form.Symbol
import Sexpr.Script.Expression
import Sexpr.Script.Member

/-!
Steps: what scripts do with values.

Every step has its own result.  A step that fails leaves the later steps untouched.  A
variable has no value while the step that sets it is carried out, and keeps none if that
step fails.
-/

namespace Sexpr.Script

inductive Field where
  | isKeyword
  | isSpecial
  | value
  | text
  | inner
  | items
  deriving DecidableEq

namespace Field

def name : Field → String
  | .isKeyword => "is_keyword"
  | .isSpecial => "is_special"
  | .value => "value"
  | .text => "text"
  | .inner => "inner"
  | .items => "items"

end Field

namespace Leaf

def isSymbol : Leaf → Bool
  | .atom value _ => value.isSymbol
  | .blank _ => false

end Leaf

namespace Node

def field? : Field → Node → Option Value
  | .isKeyword, .leaf (.atom (.symbol text) _) => some (.bool (Symbol.isKeyword text))
  | .isSpecial, .leaf (.atom (.symbol text) _) => some (.bool (Symbol.isSpecial text))
  | .value, .leaf (.atom (.int value) _) => some (.int value)
  | .value, .leaf (.atom (.float value) stamp) => some (.float value stamp)
  | .text, .leaf (.atom (.symbol text) _) | .text, .leaf (.atom (.string text) _) =>
      some (.text text)
  | .inner, .quote inner => some (.node inner)
  | .items, .list items => some (.tuple items)
  | _, _ => none

/-- What a node is converted to, if its kind can be.  A string keeps its quotation marks. -/
def convert? : Conversion → Node → Option Value
  | .int, .leaf (.atom (.int value) _) => some (.int value)
  | .float, .leaf (.atom (.float value) stamp) => some (.float value stamp)
  | .text, .leaf (.atom (.symbol text) _) => some (.text text)
  | .text, .leaf (.atom (.string text) _) =>
      some (.text (String.ofList (Atom.string text).source))
  | .list, .list items => some (.list (items.map .node))
  | _, _ => none

def nil : Node := .leaf (.atom .nil 0)

end Node

inductive Query where
  | self
  | isAtom
  | car
  | cdr
  | hasHeadSymbol
  | headSymbol
  | arguments
  | convert (target : Conversion)
  | field (field : Field)
  | display
  | inspect
  | length
  | items
  deriving DecidableEq

inductive Operation where
  | query (query : Query) (argument : Expression)
  | equal (left right : Expression)
  | different (left right : Expression)
  | sameHash (left right : Expression)
  /-- The item of a sequence with a number; negative numbers count from the end. -/
  | item (sequence number : Expression)
  | distinct (values : List Expression)
  | index (value : Expression) (others : List Expression)
  | setAttribute (target : Expression) (name : String) (value : Expression)
  | deleteAttribute (target : Expression) (name : String)

namespace Value

/-- What the list primitives see of a value: plain values are not lists. -/
def node? : Value → Option Node
  | .node tree => some tree
  | _ => Option.none

def convert (target : Conversion) : Value → Except Fault Value
  | .node tree =>
      match tree.convert? target with
      | some converted => .ok converted
      | Option.none => .error (.notConvertible tree.kindName target)
  | value => .error (.noAttribute value.kindName ("as_" ++ target.name))

def field (field : Field) (value : Value) : Except Fault Value :=
  match value.node?.bind (Node.field? field) with
  | some found => .ok found
  | Option.none => .error (.noAttribute value.kindName field.name)

def ofText : Option (List Char) → Except Fault Value
  | some shown => .ok (.text (String.ofList shown))
  | Option.none => .error .unsupported

def length (value : Value) : Except Fault Value :=
  match value.items with
  | .ok items => .ok (.int items.length)
  | .error _ => .error (.noLength value.kindName)

def sequence? : Value → Option Sequence
  | .list _ => some .list
  | .text _ => some .text
  | .bytes _ => some .bytes
  | .tuple _ | .node (.list _) => some .tuple
  | _ => Option.none

/-- The position that a number stands for in a sequence of the given length. -/
def position? (length : Nat) (number : Int) : Option Nat :=
  let position := if number < 0 then number + length else number
  if 0 ≤ position ∧ position < length then some position.toNat else Option.none

def item (value number : Value) : Except Fault Value :=
  match value.sequence?, number.int? with
  | Option.none, _ => .error (.notSubscriptable value.kindName)
  | some sequence, Option.none => .error (.badIndex sequence number.kindName)
  | some sequence, some n =>
      if fitsInt n then do
        let items ← value.items
        match (position? items.length n).bind (items[·]?) with
        | some found => return found
        | Option.none => throw (.indexOutOfRange sequence)
      else .error .indexTooLarge

def answer (value : Value) : Query → Except Fault Value
  | .self => .ok value
  | .isAtom => .ok (.bool (value.node?.all Tree.isAtom))
  | .car => .ok (ofOption (value.node?.bind (Tree.car Node.nil)))
  | .cdr => .ok (ofOption (value.node?.bind Tree.cdr))
  | .hasHeadSymbol => .ok (.bool (value.node?.bind (Tree.headLeaf? Leaf.isSymbol)).isSome)
  | .headSymbol =>
      .ok (ofOption ((value.node?.bind (Tree.headLeaf? Leaf.isSymbol)).map .leaf))
  | .arguments => .ok (ofOption (value.node?.bind (Tree.arguments? Leaf.isSymbol)))
  | .convert target => value.convert target
  | .field field => value.field field
  | .display => ofText value.display?
  | .inspect => ofText value.inspect?
  | .length => value.length
  | .items => return .list (← value.items)

end Value

namespace Operation

def run (bindings : Bindings) : Operation → Evaluation Value
  | .query asked argument => do
      (← argument.evaluate bindings).answer asked
  | .equal left right => do
      let a ← left.evaluate bindings
      let b ← right.evaluate bindings
      return .bool (← a.same b)
  | .different left right => do
      let a ← left.evaluate bindings
      let b ← right.evaluate bindings
      return .bool (!(← a.same b))
  | .sameHash left right => do
      let a ← left.evaluate bindings
      let b ← right.evaluate bindings
      match a.hashFault? <|> b.hashFault? with
      | some fault => throw fault
      | none => return .bool (← a.sameItem b)
  | .item sequence number => do
      let value ← sequence.evaluate bindings
      let n ← number.evaluate bindings
      value.item n
  | .distinct values => do
      let members ← Expression.evaluateAll bindings values
      return .int (← Value.countDistinct [] members)
  | .index value others => do
      let sought ← value.evaluate bindings
      let items ← Expression.evaluateAll bindings others
      match ← sought.indexIn items with
      | some position => return .int position
      | none => return .int (-1)
  | .setAttribute target name value => do
      let changed ← target.evaluate bindings
      let given ← value.evaluate bindings
      throw (changed.refuseChange name (some given))
  | .deleteAttribute target name => do
      let changed ← target.evaluate bindings
      throw (changed.refuseChange name none)

end Operation

inductive Step where
  | run (operation : Operation)
  | bind (name : String) (step : Step)

structure Progress where
  bindings : Bindings
  journal : Journal

namespace Step

def carryOut (progress : Progress) : Step → Except Fault Value × Progress
  | .run operation =>
      let (result, journal) := (operation.run progress.bindings).carryOut progress.journal
      (result, { progress with journal := journal })
  | .bind name step =>
      let unset := { progress with bindings := (name, .none) :: progress.bindings }
      let (result, after) := carryOut unset step
      match result with
      | .ok value => (result, { after with bindings := (name, value) :: after.bindings })
      | .error _ => (result, after)

def carryOutAll (progress : Progress) : List Step → List (Except Fault Value)
  | [] => []
  | step :: rest =>
      let (result, after) := step.carryOut progress
      result :: carryOutAll after rest

end Step

def run (steps : List Step) : List (Except Fault Value) := Step.carryOutAll ⟨[], {}⟩ steps

end Sexpr.Script
