import Sexpr.Binary64.Basic

/-!
Correct rounding of an exact ratio to binary64: to nearest, a half to even, with
gradual underflow.  A ratio that rounds past the largest finite number has no
binary64 value.
-/

namespace Sexpr

def roundHalfEven (num den : Nat) : Nat :=
  let quotient := num / den
  let remainder := num % den
  if 2 * remainder < den then quotient
  else if den < 2 * remainder then quotient + 1
  else if quotient % 2 = 0 then quotient
  else quotient + 1

namespace Binary64

/-- The magnitude nearest to `num / den`, as if exponents were unbounded.

The ratio is scaled to units of 2^-1074 and then to the exponent at which it has
53 bits (or to the smallest exponent).  A rounded coefficient of 2^53 needs no
special case: its carry leads to the first magnitude of the next exponent. -/
def nearestMagnitude (num den : Nat) : Nat :=
  let scaled := num * unitsPerOne
  let shift := (scaled / den).log2 - 52
  roundHalfEven scaled (den * Nat.pow 2 shift) + shift * binade

theorem lt_of_lt_infinity {magnitude : Nat} (finite : magnitude < infinityMagnitude) :
    magnitude < signBit :=
  Nat.lt_trans finite (by decide)

/-- The correctly rounded value of `num / den` with the given sign, or none when it
rounds to infinity. -/
def ofRatio? (negative : Bool) (num den : Nat) : Option Binary64 :=
  let magnitude := nearestMagnitude num den
  if finite : magnitude < infinityMagnitude then
    some ⟨negative, magnitude, lt_of_lt_infinity finite⟩
  else
    none

end Binary64

end Sexpr
