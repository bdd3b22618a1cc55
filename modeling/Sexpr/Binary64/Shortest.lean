import Sexpr.Binary64.Rounding
import Sexpr.Decimal

/-!
The shortest decimal that rounds to a given binary64 number.

All values are counted in units of 10^-1074, in which every finite binary64 number
is a natural number.  A decimal rounds to a number when it lies between the two
midpoints next to it; the midpoints themselves belong to the number with the even
magnitude.  The search tries coarse decimal grids first, and ends at the finest,
where the number itself is a grid point.
-/

namespace Sexpr.Binary64

/-- The value of a magnitude in units of 10^-1074. -/
def decimalUnits (magnitude : Nat) : Nat := units magnitude * Nat.pow 5 1074

def roundsTo (magnitude candidate : Nat) : Bool :=
  let lowTwice := decimalUnits (magnitude - 1) + decimalUnits magnitude
  let highTwice := decimalUnits magnitude + decimalUnits (magnitude + 1)
  if magnitude % 2 = 0 then decide (lowTwice ≤ 2 * candidate ∧ 2 * candidate ≤ highTwice)
  else decide (lowTwice < 2 * candidate ∧ 2 * candidate < highTwice)

/-- The coarsest grid point next to the value that rounds to the magnitude, as a
multiple of a power of ten and that power.  Where both neighbours do, the nearer one
is taken, and halfway between them the even one.  The search starts at the given power. -/
def shortestFrom (magnitude value : Nat) : Nat → Nat × Nat
  | 0 => (value, 0)
  | power + 1 =>
      let grid := Nat.pow 10 (power + 1)
      let below := value / grid
      match roundsTo magnitude (below * grid), roundsTo magnitude ((below + 1) * grid) with
      | true, true => (roundHalfEven value grid, power + 1)
      | true, false => (below, power + 1)
      | false, true => (below + 1, power + 1)
      | false, false => shortestFrom magnitude value power

/-- The shortest decimal that rounds to a finite number, sign aside, and of those
with equally many digits the nearest. -/
def shortest (x : Binary64) : Decimal :=
  if x.magnitude = 0 then ⟨0, 0⟩
  else
    let value := decimalUnits x.magnitude
    let found := shortestFrom x.magnitude value ((decimalDigits value).length - 1)
    -- The search starts at the leading digit, which may have been rounded up to ten.
    if found.1 % 10 = 0 then ⟨found.1 / 10, (found.2 : Int) + 1 - 1074⟩
    else ⟨found.1, (found.2 : Int) - 1074⟩

def text (style : Decimal → List Char) (x : Binary64) : List Char :=
  if x.isNaN then "nan".toList
  else
    let body := if x.isFinite then style x.shortest else "inf".toList
    if x.negative then '-' :: body else body

end Sexpr.Binary64
