/-!
Decimal numbers and their written forms.

A `Decimal` is a coefficient and a power of ten.  It can be written positionally,
always with a fractional part, or with one digit before the point and an exponent.
-/

namespace Sexpr

def decimalDigits (n : Nat) : List Char := Nat.toDigits 10 n

def digitsValue (digits : List Char) : Nat :=
  digits.foldl (fun value digit => 10 * value + (digit.toNat - 48)) 0

def integerText (n : Int) : List Char :=
  if n < 0 then '-' :: decimalDigits n.natAbs else decimalDigits n.natAbs

/-- The number `coefficient * 10 ^ exponent`. -/
structure Decimal where
  coefficient : Nat
  exponent : Int
  deriving DecidableEq

namespace Decimal

def padZeros (length : Nat) (digits : List Char) : List Char :=
  List.replicate (length - digits.length) '0' ++ digits

/-- Positional notation with at least one digit on both sides of the point. -/
def positional (d : Decimal) : List Char :=
  match d.exponent with
  | .ofNat zeros => decimalDigits d.coefficient ++ List.replicate zeros '0' ++ ['.', '0']
  | .negSucc before =>
      let places := before + 1
      let digits := padZeros (places + 1) (decimalDigits d.coefficient)
      digits.take (digits.length - places) ++ '.' :: digits.drop (digits.length - places)

def leadingExponent (d : Decimal) : Int :=
  d.exponent + ((decimalDigits d.coefficient).length - 1 : Nat)

/-- One digit, the further digits after a point if there are any, and an exponent
with a sign and at least the given number of digits. -/
def scientific (exponentDigits : Nat) (d : Decimal) : List Char :=
  let exponent := d.leadingExponent
  let mantissa := match decimalDigits d.coefficient with
    | [] => []
    | [digit] => [digit]
    | digit :: more => digit :: '.' :: more
  mantissa ++ 'e' :: (if exponent < 0 then '-' else '+') ::
    padZeros exponentDigits (decimalDigits exponent.natAbs)

structure Layout where
  /-- The least power of ten of a first digit that is still written positionally. -/
  least : Int
  /-- The first power of ten that is written with an exponent again. -/
  bound : Int
  exponentDigits : Nat

def write (layout : Layout) (d : Decimal) : List Char :=
  if layout.least ≤ d.leadingExponent ∧ d.leadingExponent < layout.bound then d.positional
  else d.scientific layout.exponentDigits

end Decimal

end Sexpr
