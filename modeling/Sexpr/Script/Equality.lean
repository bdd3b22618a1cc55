import Sexpr.Script.Fault

/-!
Equality of values in scripts.

Numbers of all kinds are compared as numbers, and forms by structure.  Inside a sequence,
the very same thing is equal to itself, even a NaN or a blank; two different blanks cannot
be compared.
-/

namespace Sexpr.Script

namespace Leaf

/-- Equality of leaves.  An atom holding a NaN is equal to one holding the same NaN. -/
def same : Leaf → Leaf → Except Fault Bool
  | .atom (.float a) stamp, .atom (.float b) stamp' =>
      .ok (a.sameNumber b || (a.isNaN && b.isNaN && stamp == stamp'))
  | .atom a _, .atom b _ => .ok (a.same b)
  | .blank _, .blank _ => .error .unsupported
  | _, _ => .ok false

def sameItem : Leaf → Leaf → Except Fault Bool
  | .blank stamp, .blank stamp' => if stamp = stamp' then .ok true else .error .unsupported
  | a, b => a.same b

end Leaf

namespace Node

mutual

def sameItem : Node → Node → Except Fault Bool
  | .leaf a, .leaf b => a.sameItem b
  | .quote a, .quote b => sameItem a b
  | .list as, .list bs => sameItems as bs
  | _, _ => .ok false

/-- Equality of two sequences: the items first, one after the other, and then the lengths. -/
def sameItems : List Node → List Node → Except Fault Bool
  | [], [] => .ok true
  | a :: as, b :: bs =>
      match sameItem a b with
      | .ok true => sameItems as bs
      | .ok false => .ok false
      | .error fault => .error fault
  | _, _ => .ok false

end

def same : Node → Node → Except Fault Bool
  | .leaf a, .leaf b => a.same b
  | a, b => sameItem a b

end Node

namespace Value

def int? : Value → Option Int
  | .bool value => some (if value then 1 else 0)
  | .int value => some value
  | _ => Option.none

mutual

def sameItem : Value → Value → Except Fault Bool
  | .none, .none => .ok true
  | .text a, .text b | .bytes a, .bytes b => .ok (a == b)
  | .float a stamp, .float b stamp' =>
      .ok (a.sameNumber b || (a.isNaN && b.isNaN && stamp == stamp'))
  | .node a, .node b => a.sameItem b
  | .tuple as, .tuple bs => Node.sameItems as bs
  | .list as, .list bs => if as.length = bs.length then sameItems as bs else .ok false
  -- Numbers of different kinds may be equal.
  | .float a _, b => .ok (b.int?.any a.equalsInt)
  | a, .float b _ => .ok (a.int?.any b.equalsInt)
  | a, b => .ok (a.int?.any fun n => b.int? == some n)

def sameItems : List Value → List Value → Except Fault Bool
  | a :: as, b :: bs =>
      match sameItem a b with
      | .ok true => sameItems as bs
      | .ok false => .ok false
      | .error fault => .error fault
  | _, _ => .ok true

end

/-- Equality of values: only sequences know the very same thing again. -/
def same : Value → Value → Except Fault Bool
  | .float a _, .float b _ => .ok (a.sameNumber b)
  | .node a, .node b => a.same b
  | a, b => sameItem a b

def hashFault? : Value → Option Fault
  | .list _ => some (.unhashable "list")
  | .tuple items => if items.all (·.form?.isSome) then Option.none else some .unsupported
  | .node tree => if tree.form?.isSome then Option.none else some .unsupported
  | _ => Option.none

def indexIn (value : Value) : List Value → Except Fault (Option Nat)
  | [] => .ok Option.none
  | item :: rest =>
      match item.sameItem value with
      | .error fault => .error fault
      | .ok true => .ok (some 0)
      | .ok false =>
          match indexIn value rest with
          | .error fault => .error fault
          | .ok found => .ok (found.map (· + 1))

def countDistinct (seen : List Value) : List Value → Except Fault Nat
  | [] => .ok seen.length
  | value :: rest =>
      match value.hashFault? with
      | some fault => .error fault
      | Option.none =>
          match indexIn value seen with
          | .error fault => .error fault
          | .ok (some _) => countDistinct seen rest
          | .ok Option.none => countDistinct (seen ++ [value]) rest

end Value

end Sexpr.Script
