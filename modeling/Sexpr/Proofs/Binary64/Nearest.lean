import Mathlib.Algebra.Order.Field.Basic
import Mathlib.Algebra.Order.Ring.Rat
import Mathlib.Order.Monotone.Basic
import Mathlib.Tactic.FieldSimp
import Mathlib.Tactic.Linarith
import Mathlib.Tactic.Ring
import Sexpr.Binary64.Rounding

/-!
Rounding to nearest on an increasing grid of natural numbers.

A ratio is nearest to the grid value between whose two midpoints it lies; a midpoint belongs to
the value with the even index.  There is one such value at most, a greater ratio has no smaller
one, and no other value is nearer.  `roundHalfEven` finds it on
the grid of all numbers, and `nearestMagnitude` on the grid of binary64 numbers, where the
distance of neighbours doubles after every binade.
-/

namespace Sexpr

/-- The rational number lies between the two midpoints next to the grid value, and on them only if
the index is even. -/
structure IsNearestTo (grid : Nat → ℚ) (q : ℚ) (index : Nat) : Prop where
  low : grid (index - 1) + grid index ≤ 2 * q
  high : 2 * q ≤ grid index + grid (index + 1)
  odd : index % 2 = 1 →
    grid (index - 1) + grid index < 2 * q ∧ 2 * q < grid index + grid (index + 1)

namespace IsNearestTo

variable {grid : Nat → ℚ} {q other : ℚ} {index place bound : Nat}

theorem le (increasing : StrictMono grid) (le : q ≤ other) (nearest : IsNearestTo grid q index)
    (otherNearest : IsNearestTo grid other place) : index ≤ place := by
  by_contra larger
  have lower := nearest.low
  have upper := otherNearest.high
  have before : grid place ≤ grid (index - 1) := increasing.monotone (by omega)
  have after : grid (place + 1) ≤ grid index := increasing.monotone (by omega)
  have adjacent : index = place + 1 := by
    by_contra apart
    have further : grid (place + 1) < grid index := increasing (by omega)
    linarith
  subst adjacent
  rw [Nat.add_sub_cancel] at lower
  -- Both lie on the midpoint of the two values, one of which has an odd index.
  rcases Nat.mod_two_eq_zero_or_one place with even | odd
  · have apart := (nearest.odd (by omega)).1
    rw [Nat.add_sub_cancel] at apart
    linarith
  · have apart := (otherNearest.odd odd).2
    linarith

theorem unique (increasing : StrictMono grid) (nearest : IsNearestTo grid q index)
    (otherNearest : IsNearestTo grid q place) : index = place :=
  Nat.le_antisymm (nearest.le increasing le_rfl otherNearest)
    (otherNearest.le increasing le_rfl nearest)

theorem lt_iff (increasing : StrictMono grid) (nearest : IsNearestTo grid q index)
    (positive : 0 < bound) (even : bound % 2 = 0) :
    index < bound ↔ 2 * q < grid (bound - 1) + grid bound := by
  constructor
  · intro less
    by_cases last : index = bound - 1
    · have apart := (nearest.odd (by omega)).2
      rwa [last, Nat.sub_add_cancel positive] at apart
    · have upper := nearest.high
      have before : grid index < grid (bound - 1) := increasing (by omega)
      have after : grid (index + 1) < grid bound := increasing (by omega)
      linarith
  · intro small
    by_contra large
    have lower := nearest.low
    have before : grid (bound - 1) ≤ grid (index - 1) := increasing.monotone (by omega)
    have after : grid bound ≤ grid index := increasing.monotone (by omega)
    linarith

/-- No grid value is nearer, and if another one is as near then the index is even. -/
theorem abs_sub_le (increasing : StrictMono grid) (nearest : IsNearestTo grid q index)
    (place : Nat) :
    |grid index - q| ≤ |grid place - q| ∧
      (grid place ≠ grid index → |grid place - q| = |grid index - q| → index % 2 = 0) := by
  have lower := nearest.low
  have upper := nearest.high
  rcases Nat.lt_trichotomy place index with less | rfl | greater
  · have before : grid place ≤ grid (index - 1) := increasing.monotone (by omega)
    have apart : grid place < grid index := increasing less
    have distance : |grid place - q| = q - grid place := by
      rw [abs_sub_comm, abs_of_nonneg (by linarith)]
    rw [distance]
    refine ⟨abs_le.mpr ⟨by linarith, by linarith⟩, fun _ tie => ?_⟩
    by_contra odd
    have strict := (nearest.odd (by omega)).1
    rcases abs_cases (grid index - q) with ⟨equality, _⟩ | ⟨equality, _⟩ <;> linarith
  · exact ⟨le_refl _, fun differs => absurd rfl differs⟩
  · have after : grid (index + 1) ≤ grid place := increasing.monotone (by omega)
    have apart : grid index < grid place := increasing greater
    have distance : |grid place - q| = grid place - q := abs_of_nonneg (by linarith)
    rw [distance]
    refine ⟨abs_le.mpr ⟨by linarith, by linarith⟩, fun _ tie => ?_⟩
    by_contra odd
    have strict := (nearest.odd (by omega)).2
    rcases abs_cases (grid index - q) with ⟨equality, _⟩ | ⟨equality, _⟩ <;> linarith

end IsNearestTo

/-- The ratio lies between the two midpoints next to the grid value, and on them only if the
index is even. -/
structure IsNearest (grid : Nat → Nat) (num den index : Nat) : Prop where
  low : (grid (index - 1) + grid index) * den ≤ 2 * num
  high : 2 * num ≤ (grid index + grid (index + 1)) * den
  odd : index % 2 = 1 →
    (grid (index - 1) + grid index) * den < 2 * num ∧
      2 * num < (grid index + grid (index + 1)) * den

/-- The grid in a unit of which each number is a multiple. -/
def inUnits (grid : Nat → Nat) (unit : Nat) (index : Nat) : ℚ := grid index / unit

theorem inUnits_strictMono {grid : Nat → Nat} (increasing : StrictMono grid) {unit : Nat}
    (positive : 0 < unit) : StrictMono (inUnits grid unit) := by
  intro smaller larger less
  have positiveUnit : (0 : ℚ) < unit := by exact_mod_cast positive
  exact div_lt_div_of_pos_right (by exact_mod_cast increasing less) positiveUnit

theorem IsNearest.isNearestTo {grid : Nat → Nat} {num den unit index : Nat} (positive : 0 < den)
    (unitPositive : 0 < unit) (nearest : IsNearest grid (num * unit) den index) :
    IsNearestTo (inUnits grid unit) (num / den) index := by
  have positiveDen : (0 : ℚ) < den := by exact_mod_cast positive
  have positiveUnit : (0 : ℚ) < unit := by exact_mod_cast unitPositive
  have sum : ∀ left right : Nat,
      (grid left : ℚ) / unit + grid right / unit = (grid left + grid right) / unit :=
    fun left right => (add_div _ _ _).symm
  have double : 2 * ((num : ℚ) / den) = 2 * num / den := (mul_div_assoc _ _ _).symm
  constructor
  · rw [inUnits, inUnits, sum, double, div_le_div_iff₀ positiveUnit positiveDen, mul_assoc]
    exact_mod_cast nearest.low
  · rw [inUnits, inUnits, sum, double, div_le_div_iff₀ positiveDen positiveUnit, mul_assoc]
    exact_mod_cast nearest.high
  · intro odd
    obtain ⟨low, high⟩ := nearest.odd odd
    rw [inUnits, inUnits, inUnits, sum, sum, double, div_lt_div_iff₀ positiveUnit positiveDen,
      div_lt_div_iff₀ positiveDen positiveUnit, mul_assoc]
    exact ⟨by exact_mod_cast low, by exact_mod_cast high⟩

theorem isNearest_roundHalfEven (num : Nat) {den : Nat} (positive : 0 < den) :
    IsNearest id num den (roundHalfEven num den) := by
  have division := Nat.div_add_mod num den
  have small := Nat.mod_lt num positive
  unfold roundHalfEven
  generalize num / den = quotient at division
  generalize num % den = remainder at division small
  have before : (quotient - 1) * den = den * quotient - den := by
    rw [Nat.sub_mul, Nat.one_mul, Nat.mul_comm]
  have whole : quotient % 2 = 1 → den ≤ den * quotient := by
    intro odd
    exact Nat.le_mul_of_pos_right den (by omega)
  have swap : quotient * den = den * quotient := Nat.mul_comm quotient den
  dsimp only
  split
  next less =>
    constructor <;> simp only [id, Nat.add_mul, Nat.one_mul] <;> omega
  next =>
    split
    next more =>
      constructor <;> simp only [id, Nat.add_mul, Nat.one_mul, Nat.add_sub_cancel] <;> omega
    next =>
      split
      next even =>
        constructor <;> simp only [id, Nat.add_mul, Nat.one_mul] <;> omega
      next odd =>
        constructor <;> simp only [id, Nat.add_mul, Nat.one_mul, Nat.add_sub_cancel] <;> omega

theorem roundHalfEven_eq_or (num den : Nat) :
    roundHalfEven num den = num / den ∨ roundHalfEven num den = num / den + 1 := by
  unfold roundHalfEven
  dsimp only
  split
  next => exact .inl rfl
  next =>
    split
    next => exact .inr rfl
    next =>
      split
      next => exact .inl rfl
      next => exact .inr rfl

theorem roundHalfEven_le {num den bound : Nat} (small : num < bound * den) :
    roundHalfEven num den ≤ bound := by
  have quotient : num / den < bound := Nat.div_lt_of_lt_mul (by rwa [Nat.mul_comm])
  rcases roundHalfEven_eq_or num den with equality | equality <;> omega

theorem le_roundHalfEven {num den bound : Nat} (positive : 0 < den) (large : bound * den ≤ num) :
    bound ≤ roundHalfEven num den := by
  have quotient : bound ≤ num / den := (Nat.le_div_iff_mul_le positive).mpr large
  rcases roundHalfEven_eq_or num den with equality | equality <;> omega

namespace Binary64

theorem units_add_mul {coefficient shift : Nat} (wide : shift = 0 ∨ binade ≤ coefficient)
    (narrow : coefficient ≤ 2 * binade) :
    units (coefficient + shift * binade) = coefficient * 2 ^ shift := by
  have positive : 0 < binade := by decide
  unfold units
  by_cases subnormal : coefficient < binade
  · obtain rfl : shift = 0 := by omega
    simp [subnormal]
  · have past : ¬ coefficient + shift * binade < binade := by omega
    rw [if_neg past]
    by_cases full : coefficient = 2 * binade
    · subst full
      have place : 2 * binade + shift * binade = (shift + 2) * binade := by ring
      rw [place, Nat.mul_mod_left, Nat.mul_div_cancel _ positive]
      simp only [Nat.pow_eq, Nat.add_zero, Nat.add_succ_sub_one]
      ring
    · obtain ⟨fraction, rfl⟩ := Nat.exists_eq_add_of_le (Nat.le_of_not_lt subnormal)
      have fits : fraction < binade := by omega
      have place : binade + fraction + shift * binade = fraction + (shift + 1) * binade := by ring
      rw [place, Nat.add_mul_mod_self_right, Nat.mod_eq_of_lt fits,
        Nat.add_mul_div_right _ _ positive, Nat.div_eq_of_lt fits]
      simp only [Nat.pow_eq, Nat.zero_add, Nat.add_sub_cancel]

/-- Every magnitude is a coefficient in the range of its exponent. -/
theorem exists_eq_add_mul (magnitude : Nat) :
    ∃ coefficient shift, magnitude = coefficient + shift * binade ∧
      (shift = 0 ∨ binade ≤ coefficient) ∧ coefficient < 2 * binade := by
  have positive : 0 < binade := by decide
  by_cases subnormal : magnitude < binade
  · exact ⟨magnitude, 0, by simp, .inl rfl, by omega⟩
  · have division := Nat.div_add_mod magnitude binade
    have fits := Nat.mod_lt magnitude positive
    have exponent : 1 ≤ magnitude / binade :=
      (Nat.one_le_div_iff positive).mpr (Nat.le_of_not_lt subnormal)
    obtain ⟨shift, equality⟩ := Nat.exists_eq_add_of_le exponent
    rw [equality] at division
    refine ⟨binade + magnitude % binade, shift, ?_, .inr (Nat.le_add_right _ _), by omega⟩
    rw [← division]
    simp only [Nat.mul_add_mod_self_left, Nat.mod_mod]
    ring

theorem units_strictMono : StrictMono units := by
  refine strictMono_nat_of_lt_succ fun magnitude => ?_
  obtain ⟨coefficient, shift, rfl, wide, narrow⟩ := exists_eq_add_mul magnitude
  have next : coefficient + shift * binade + 1 = coefficient + 1 + shift * binade := by ring
  rw [next, units_add_mul wide narrow.le, units_add_mul (by omega) narrow]
  exact Nat.mul_lt_mul_of_pos_right (Nat.lt_succ_self coefficient) (Nat.two_pow_pos shift)

/-- The next magnitude is at least as far as it is in the same binade. -/
theorem le_units_succ {coefficient shift : Nat} (wide : shift = 0 ∨ binade ≤ coefficient)
    (narrow : coefficient ≤ 2 * binade) :
    (coefficient + 1) * 2 ^ shift ≤ units (coefficient + shift * binade + 1) := by
  by_cases full : coefficient = 2 * binade
  · subst full
    have place : 2 * binade + shift * binade + 1 = binade + 1 + (shift + 1) * binade := by ring
    rw [place, units_add_mul (.inr (Nat.le_succ binade)) (by decide), Nat.pow_succ]
    have carried : (binade + 1) * (2 ^ shift * 2) = (2 * binade + 2) * 2 ^ shift := by ring
    rw [carried]
    exact Nat.mul_le_mul_right _ (Nat.le_succ (2 * binade + 1))
  · have place : coefficient + shift * binade + 1 = coefficient + 1 + shift * binade := by ring
    rw [place, units_add_mul (by omega) (by omega)]

/-- Above the start of its binade a magnitude is next to one of the same binade. -/
theorem units_pred {coefficient shift : Nat} (wide : shift = 0 ∨ binade < coefficient)
    (narrow : coefficient ≤ 2 * binade) :
    units (coefficient + shift * binade - 1) = (coefficient - 1) * 2 ^ shift := by
  by_cases zero : coefficient = 0
  · obtain rfl : shift = 0 := by omega
    subst zero
    rfl
  · have place : coefficient + shift * binade - 1 = coefficient - 1 + shift * binade := by omega
    rw [place, units_add_mul (by omega) (by omega)]

/-- The exponent at which a ratio has 53 bits, or the smallest one. -/
def shiftOf (num den : Nat) : Nat := (num / den).log2 - 52

theorem lt_of_shiftOf (num : Nat) {den : Nat} (positive : 0 < den) :
    num < 2 * binade * (den * 2 ^ shiftOf num den) := by
  have bits : num / den < 2 ^ ((num / den).log2 + 1) := Nat.lt_log2_self
  have exponent : (num / den).log2 + 1 ≤ 53 + shiftOf num den := by
    unfold shiftOf
    omega
  have quotient : num / den < 2 ^ (53 + shiftOf num den) :=
    Nat.lt_of_lt_of_le bits (Nat.pow_le_pow_right (by decide) exponent)
  have bound : num < 2 ^ (53 + shiftOf num den) * den :=
    (Nat.div_lt_iff_lt_mul positive).mp quotient
  have regroup : 2 * binade * (den * 2 ^ shiftOf num den) = 2 ^ (53 + shiftOf num den) * den := by
    rw [Nat.pow_add, show 2 * binade = 2 ^ 53 by decide]
    ring
  rw [regroup]
  exact bound

theorem le_of_shiftOf {num den : Nat} (shifted : shiftOf num den ≠ 0) :
    binade * (den * 2 ^ shiftOf num den) ≤ num := by
  have exponent : (num / den).log2 = 52 + shiftOf num den := by
    unfold shiftOf at shifted ⊢
    omega
  have nonzero : num / den ≠ 0 := by
    intro zero
    rw [zero, Nat.log2_zero] at exponent
    omega
  have bits : 2 ^ (num / den).log2 ≤ num / den := Nat.log2_self_le nonzero
  rw [exponent] at bits
  have bound : 2 ^ (52 + shiftOf num den) * den ≤ num :=
    Nat.le_trans (Nat.mul_le_mul_right den bits) (Nat.div_mul_le_self num den)
  have regroup : binade * (den * 2 ^ shiftOf num den) = 2 ^ (52 + shiftOf num den) * den := by
    rw [Nat.pow_add, show binade = 2 ^ 52 by decide]
    ring
  rw [regroup]
  exact bound

/-- On the grid of binary64 numbers a ratio is rounded at the exponent that it has. -/
theorem isNearest_units (num : Nat) {den : Nat} (positive : 0 < den) :
    IsNearest units num den
      (roundHalfEven num (den * 2 ^ shiftOf num den) + shiftOf num den * binade) := by
  have above := lt_of_shiftOf num positive
  have below : shiftOf num den ≠ 0 → binade * (den * 2 ^ shiftOf num den) ≤ num := le_of_shiftOf
  generalize shiftOf num den = shift at above below ⊢
  have scaledPositive : 0 < den * 2 ^ shift := Nat.mul_pos positive (Nat.two_pow_pos shift)
  have rounded := isNearest_roundHalfEven num scaledPositive
  have narrow := roundHalfEven_le above
  have wide : shift = 0 ∨ binade ≤ roundHalfEven num (den * 2 ^ shift) := by
    by_cases unshifted : shift = 0
    · exact .inl unshifted
    · exact .inr (le_roundHalfEven scaledPositive (below unshifted))
  generalize roundHalfEven num (den * 2 ^ shift) = coefficient at rounded narrow wide ⊢
  have low : (coefficient - 1 + coefficient) * (den * 2 ^ shift) ≤ 2 * num := rounded.low
  have high : 2 * num ≤ (coefficient + (coefficient + 1)) * (den * 2 ^ shift) := rounded.high
  have here := units_add_mul wide narrow
  have after : (coefficient + (coefficient + 1)) * (den * 2 ^ shift) ≤
      (units (coefficient + shift * binade) + units (coefficient + shift * binade + 1)) * den := by
    have next := le_units_succ wide narrow
    have regroup : (coefficient + (coefficient + 1)) * (den * 2 ^ shift) =
        (coefficient * 2 ^ shift + (coefficient + 1) * 2 ^ shift) * den := by ring
    rw [regroup, here]
    exact Nat.mul_le_mul_right den (Nat.add_le_add_left next _)
  have parity : (coefficient + shift * binade) % 2 = coefficient % 2 := by
    unfold binade
    omega
  by_cases inside : shift = 0 ∨ binade < coefficient
  · have before : (units (coefficient + shift * binade - 1) +
        units (coefficient + shift * binade)) * den =
          (coefficient - 1 + coefficient) * (den * 2 ^ shift) := by
      rw [units_pred inside narrow, here]
      ring
    refine ⟨before.trans_le low, high.trans after, ?_⟩
    intro odd
    rw [parity] at odd
    exact ⟨before.trans_lt (rounded.odd odd).1, (rounded.odd odd).2.trans_le after⟩
  · -- The magnitude is the first of its binade, so the lower neighbour is nearer than the grid
    -- of this exponent has it.  But nothing below the binade is rounded at this exponent.
    obtain ⟨shifted, first⟩ : shift ≠ 0 ∧ coefficient = binade := by omega
    subst first
    have even : (binade + shift * binade) % 2 = 0 := parity.trans (by decide)
    refine ⟨?_, high.trans after, by omega⟩
    have before := units_strictMono.monotone (Nat.sub_le (binade + shift * binade) 1)
    have start := below shifted
    calc (units (binade + shift * binade - 1) + units (binade + shift * binade)) * den
        ≤ (binade * 2 ^ shift + binade * 2 ^ shift) * den := by
          rw [here] at before ⊢
          exact Nat.mul_le_mul_right den (Nat.add_le_add_right before _)
      _ = 2 * (binade * (den * 2 ^ shift)) := by ring
      _ ≤ 2 * num := Nat.mul_le_mul_left 2 start

theorem isNearest_nearestMagnitude (num : Nat) {den : Nat} (positive : 0 < den) :
    IsNearest units (num * unitsPerOne) den (nearestMagnitude num den) := by
  have nearest := isNearest_units (num * unitsPerOne) positive
  simp only [nearestMagnitude, Nat.pow_eq]
  exact nearest

theorem ofRatio?_eq_some_iff {negative : Bool} {num den : Nat} {value : Binary64} :
    ofRatio? negative num den = some value ↔
      value.isFinite = true ∧ value.negative = negative ∧
        nearestMagnitude num den = value.magnitude := by
  rcases value with ⟨sign, magnitude, bound⟩
  simp only [ofRatio?, isFinite, decide_eq_true_eq]
  generalize nearestMagnitude num den = nearest
  split
  next finite =>
    simp only [Option.some.injEq, Binary64.mk.injEq]
    constructor
    · rintro ⟨rfl, rfl⟩
      exact ⟨finite, rfl, rfl⟩
    · rintro ⟨_, rfl, rfl⟩
      exact ⟨rfl, rfl⟩
  next infinite =>
    simp only [reduceCtorEq, false_iff, not_and]
    rintro finite _ rfl
    exact infinite finite

end Binary64

end Sexpr
