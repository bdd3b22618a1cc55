import Sexpr.Binary64.Basic
import Sexpr.Tree

/-!
Forms: the trees that S-expression text denotes.

An atom is one of the two constants, a signed 64-bit integer, a binary64 number, a symbol
or a string.  Keywords and specials are symbols whose text keeps its punctuation.
-/

namespace Sexpr

inductive Atom where
  | t
  | nil
  | int (value : Int)
  | float (value : Binary64)
  | symbol (text : String)
  | string (text : String)
  deriving DecidableEq

abbrev Form := Tree Atom

def minInt : Int := -9223372036854775808

def maxInt : Int := 9223372036854775807

def fitsInt (n : Int) : Bool := minInt ≤ n && n ≤ maxInt

namespace Atom

def isSymbol : Atom → Bool
  | .symbol _ => true
  | _ => false

/-- Equality of atoms of one kind; numbers are compared as numbers. -/
def same : Atom → Atom → Bool
  | .t, .t | .nil, .nil => true
  | .int a, .int b => a == b
  | .float a, .float b => a.sameNumber b
  | .symbol a, .symbol b | .string a, .string b => a == b
  | _, _ => false

/-- What hashing sees of an atom: the two zeros are one number. -/
def key : Atom → Atom
  | .float value => .float (if value.isZero then Binary64.zero else value)
  | atom => atom

end Atom

namespace Form

/-- What hashing sees of a form: forms with the same key have the same hash. -/
def key : Form → Form := Tree.fold (fun atom => .leaf atom.key) .quote .list

mutual

def same : Form → Form → Bool
  | .leaf a, .leaf b => a.same b
  | .quote a, .quote b => same a b
  | .list as, .list bs => sameAll as bs
  | _, _ => false

def sameAll : List Form → List Form → Bool
  | [], [] => true
  | a :: as, b :: bs => same a b && sameAll as bs
  | _, _ => false

end

/-- The first item of a list, through quotes; the empty list has `nil`. -/
def car (form : Form) : Option Form := Tree.car (.leaf .nil) form

def headSymbol? (form : Form) : Option Form :=
  (form.headLeaf? Atom.isSymbol).map .leaf

def hasHeadSymbol (form : Form) : Bool := form.headSymbol?.isSome

def arguments? (form : Form) : Option Form := Tree.arguments? Atom.isSymbol form

end Form

end Sexpr
