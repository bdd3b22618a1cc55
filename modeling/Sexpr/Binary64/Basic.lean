/-!
Binary64 numbers as words: a sign and the other 63 bits of the encoding.

Every finite word stands for a natural number of units of 2^-1074, so questions
about values become questions about natural numbers.
-/

namespace Sexpr

def Binary64.signBit : Nat := 0x8000000000000000

/-- A binary64 number, given by its encoding: the fields of exponent and fraction are read as one
natural number. -/
structure Binary64 where
  negative : Bool
  magnitude : Nat
  magnitude_lt : magnitude < Binary64.signBit
  deriving DecidableEq

namespace Binary64

/-- The number of magnitudes that share an exponent, 2^52. -/
def binade : Nat := 0x10000000000000

def infinityMagnitude : Nat := 0x7FF0000000000000

def unitsPerOne : Nat := Nat.pow 2 1074

/-- The number with the given 64-bit encoding; higher bits are ignored. -/
def ofBits (bits : Nat) : Binary64 where
  negative := bits.testBit 63
  magnitude := bits % signBit
  magnitude_lt := Nat.mod_lt _ (by decide)

def toBits (x : Binary64) : Nat :=
  (if x.negative then signBit else 0) + x.magnitude

def isFinite (x : Binary64) : Bool := decide (x.magnitude < infinityMagnitude)

/-- Not a number: past infinity in the order of magnitudes. -/
def isNaN (x : Binary64) : Bool := decide (infinityMagnitude < x.magnitude)

def zero : Binary64 := ⟨false, 0, by decide⟩

def isZero (x : Binary64) : Bool := x.magnitude == 0

/-- Numeric equality: NaN equals nothing, and the two zeros are equal. -/
def sameNumber (x y : Binary64) : Bool :=
  !x.isNaN && !y.isNaN && (x == y || x.isZero && y.isZero)

/-- The value of a finite magnitude, counted in units of 2^-1074.  The words past
the largest finite one continue as if exponents were unbounded. -/
def units (magnitude : Nat) : Nat :=
  if magnitude < binade then magnitude
  else (binade + magnitude % binade) * Nat.pow 2 (magnitude / binade - 1)

def equalsInt (x : Binary64) (n : Int) : Bool :=
  x.isFinite && units x.magnitude == n.natAbs * unitsPerOne &&
    (n == 0 || x.negative == decide (n < 0))

end Binary64

end Sexpr
