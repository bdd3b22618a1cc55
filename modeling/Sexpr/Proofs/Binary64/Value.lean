import Sexpr.Proofs.Binary64.Nearest

/-!
The rational values of binary64 numbers.

A ratio is rounded to a number that no other is nearer to, and to one with an even last bit if
another is as near.  It is rounded at all exactly if it is below the midpoint of the greatest
finite number and the next power of two.
-/

namespace Sexpr

/-- A number with the given sign. -/
def signed (negative : Bool) (q : ℚ) : ℚ := if negative then -q else q

theorem signed_mul (negative : Bool) (q factor : ℚ) :
    signed negative (q * factor) = signed negative q * factor := by
  cases negative <;> simp [signed]

theorem signed_inj {negative : Bool} {q other : ℚ}
    (same : signed negative q = signed negative other) : q = other := by
  cases negative <;> simpa [signed] using same

theorem signed_zero (negative : Bool) : signed negative 0 = 0 := by
  cases negative <;> simp [signed]

theorem abs_signed (negative : Bool) (q : ℚ) : |signed negative q| = |q| := by
  cases negative <;> simp [signed]

theorem abs_signed_sub (negative : Bool) (q other : ℚ) :
    |signed negative q - signed negative other| = |q - other| := by
  cases negative
  · rfl
  · rw [signed, signed, if_pos rfl, if_pos rfl, neg_sub_neg, abs_sub_comm]

theorem abs_signed_not_sub (negative : Bool) {q other : ℚ} (nonneg : 0 ≤ q)
    (otherNonneg : 0 ≤ other) : |signed (!negative) q - signed negative other| = q + other := by
  cases negative
  · show |-q - other| = q + other
    rw [← neg_add', abs_neg, abs_of_nonneg (add_nonneg nonneg otherNonneg)]
  · show |q - -other| = q + other
    rw [sub_neg_eq_add, abs_of_nonneg (add_nonneg nonneg otherNonneg)]

namespace Binary64

/-- The number that a finite encoding stands for: the fraction, with its hidden bit unless the
exponent field is zero, times a power of two. -/
def value (x : Binary64) : ℚ :=
  let exponent := x.magnitude / binade
  let fraction := x.magnitude % binade
  let significand := if exponent = 0 then fraction else binade + fraction
  signed x.negative (significand * 2 ^ ((max exponent 1 : Nat) - 1075 : ℤ))

theorem cast_unitsPerOne : (unitsPerOne : ℚ) = 2 ^ 1074 := by
  obtain ⟨places, isPlaces⟩ : ∃ places, 1074 = places := ⟨_, rfl⟩
  delta unitsPerOne
  rw [isPlaces, Nat.pow_eq, Nat.cast_pow, Nat.cast_ofNat]

theorem unitsPerOne_pos : 0 < unitsPerOne := by
  have positive : (0 : ℚ) < unitsPerOne := by
    rw [cast_unitsPerOne]
    positivity
  exact_mod_cast positive

theorem value_eq (x : Binary64) :
    x.value = signed x.negative (inUnits units unitsPerOne x.magnitude) := by
  have place : ∀ steps : Nat, (2 : ℚ) ^ ((steps + 1 : Nat) - 1075 : ℤ) = 2 ^ steps / 2 ^ 1074 := by
    intro steps
    have split : ((steps + 1 : Nat) - 1075 : ℤ) = (steps : ℤ) - (1074 : Nat) := by omega
    rw [split, zpow_sub₀ two_ne_zero, zpow_natCast, zpow_natCast]
  rw [value, inUnits, cast_unitsPerOne, units]
  congr 1
  by_cases subnormal : x.magnitude < binade
  · have zero : x.magnitude / binade = 0 := Nat.div_eq_of_lt subnormal
    rw [if_pos subnormal, if_pos zero, zero, Nat.mod_eq_of_lt subnormal,
      Nat.max_eq_right (Nat.zero_le 1), place 0, pow_zero, mul_one_div]
  · have nonzero : x.magnitude / binade ≠ 0 :=
      Nat.div_ne_zero_iff.mpr ⟨by decide, Nat.le_of_not_lt subnormal⟩
    obtain ⟨steps, exponent⟩ := Nat.exists_eq_succ_of_ne_zero nonzero
    rw [if_neg subnormal, if_neg nonzero, exponent, Nat.max_eq_left (Nat.succ_pos steps),
      place, Nat.pow_eq, Nat.succ_sub_one, Nat.cast_mul, Nat.cast_pow, Nat.cast_ofNat,
      mul_div_assoc]

/-- The number is finite, no finite number is nearer, and its last bit is zero if another one is
as near. -/
structure IsRounded (x : Binary64) (q : ℚ) : Prop where
  finite : x.isFinite = true
  nearest : ∀ y : Binary64, y.isFinite = true → |x.value - q| ≤ |y.value - q|
  even : ∀ y : Binary64, y.isFinite = true → y.value ≠ x.value →
    |y.value - q| = |x.value - q| → x.magnitude % 2 = 0

theorem isNearestTo_nearestMagnitude (num : Nat) {den : Nat} (positive : 0 < den) :
    IsNearestTo (inUnits units unitsPerOne) (num / den) (nearestMagnitude num den) :=
  (isNearest_nearestMagnitude num positive).isNearestTo positive unitsPerOne_pos

theorem inUnits_units_strictMono : StrictMono (inUnits units unitsPerOne) :=
  inUnits_strictMono units_strictMono unitsPerOne_pos

theorem inUnits_units_zero : inUnits units unitsPerOne 0 = 0 := by
  have zero : units 0 = 0 := rfl
  rw [inUnits, zero, Nat.cast_zero, zero_div]

theorem inUnits_units_nonneg (magnitude : Nat) : 0 ≤ inUnits units unitsPerOne magnitude := by
  rw [← inUnits_units_zero]
  exact inUnits_units_strictMono.monotone (Nat.zero_le magnitude)

/-- A number is no nearer to a ratio than its magnitude is to that of the ratio. -/
theorem abs_sub_le_abs_value_sub (x : Binary64) {q : ℚ} (nonneg : 0 ≤ q) (negative : Bool) :
    |inUnits units unitsPerOne x.magnitude - q| ≤ |x.value - signed negative q| := by
  have sizes := abs_abs_sub_abs_le x.value (signed negative q)
  rwa [value_eq, abs_signed, abs_signed, abs_of_nonneg (inUnits_units_nonneg x.magnitude),
    abs_of_nonneg nonneg, ← value_eq] at sizes

theorem isRounded_of_isNearestTo {x : Binary64} {q : ℚ} (finite : x.isFinite = true)
    (nonneg : 0 ≤ q) (nearest : IsNearestTo (inUnits units unitsPerOne) q x.magnitude) :
    x.IsRounded (signed x.negative q) := by
  have distance : |x.value - signed x.negative q| =
      |inUnits units unitsPerOne x.magnitude - q| := by
    rw [value_eq, abs_signed_sub]
  have least := nearest.abs_sub_le inUnits_units_strictMono
  refine ⟨finite, fun y _ => ?_, fun y _ differs tie => ?_⟩
  · rw [distance]
    exact (least y.magnitude).1.trans (y.abs_sub_le_abs_value_sub nonneg x.negative)
  · rw [distance] at tie
    have sizes := y.abs_sub_le_abs_value_sub nonneg x.negative
    rw [tie] at sizes
    have asNear := le_antisymm sizes (least y.magnitude).1
    by_cases same : inUnits units unitsPerOne y.magnitude = inUnits units unitsPerOne x.magnitude
    · -- Only zero is as near as the number of the other sign.
      have opposite : y.negative = !x.negative := by
        cases yNegative : y.negative <;> cases xNegative : x.negative <;>
          first
            | rfl
            | exact absurd (by rw [value_eq, value_eq, same, yNegative, xNegative]) differs
      have size := inUnits_units_nonneg x.magnitude
      have origin := (least 0).1
      rw [value_eq, opposite, same, abs_signed_not_sub x.negative size nonneg] at tie
      rw [inUnits_units_zero, zero_sub, abs_neg, abs_of_nonneg nonneg] at origin
      have zero : inUnits units unitsPerOne x.magnitude = 0 := by linarith
      rw [value_eq, value_eq, same, zero, signed_zero, signed_zero] at differs
      exact absurd rfl differs
    · exact (least y.magnitude).2 same asNear

/-- The midpoint of the greatest finite number and the next power of two. -/
theorem units_infinityMagnitude :
    inUnits units unitsPerOne (infinityMagnitude - 1) + inUnits units unitsPerOne infinityMagnitude =
      2 * (2 ^ 1024 - 2 ^ 970) := by
  have place : infinityMagnitude = 2 * binade + 2045 * binade := by decide
  have wide : binade < 2 * binade := by decide
  have last : units (infinityMagnitude - 1) = (2 * binade - 1) * 2 ^ 2045 := by
    rw [place, units_pred (.inr wide) le_rfl]
  have next : units infinityMagnitude = 2 * binade * 2 ^ 2045 := by
    rw [place, units_add_mul (.inr wide.le) le_rfl]
  have shift : (2 : ℚ) ^ 2045 = 2 * 2 ^ 970 * 2 ^ 1074 := by rw [← pow_succ', ← pow_add]
  have top : (2 : ℚ) ^ 1024 = 2 ^ 54 * 2 ^ 970 := by rw [← pow_add]
  have significand : ((2 * binade - 1 : Nat) : ℚ) + (2 * binade : Nat) = 2 ^ 54 - 1 := by
    norm_num [binade]
  have positive : (2 : ℚ) ^ 1074 ≠ 0 := pow_ne_zero 1074 two_ne_zero
  rw [inUnits, inUnits, last, next, cast_unitsPerOne, ← add_div, div_eq_iff positive, Nat.cast_mul,
    Nat.cast_mul _ (2 ^ 2045), ← add_mul, significand, Nat.cast_pow, Nat.cast_ofNat, shift, top]
  generalize (2 : ℚ) ^ 970 = low
  generalize (2 : ℚ) ^ 1074 = unit
  ring

theorem nearestMagnitude_lt_iff (num : Nat) {den : Nat} (positive : 0 < den) :
    nearestMagnitude num den < infinityMagnitude ↔ (num : ℚ) / den < 2 ^ 1024 - 2 ^ 970 := by
  have nearest := isNearestTo_nearestMagnitude num positive
  rw [nearest.lt_iff inUnits_units_strictMono (by decide) (by decide), units_infinityMagnitude]
  exact mul_lt_mul_iff_right₀ two_pos

theorem isRounded_of_ofRatio? {negative : Bool} {num den : Nat} {x : Binary64}
    (positive : 0 < den) (rounded : ofRatio? negative num den = some x) :
    x.negative = negative ∧ x.IsRounded (signed negative (num / den)) := by
  obtain ⟨finite, rfl, magnitude⟩ := ofRatio?_eq_some_iff.mp rounded
  have nearest := isNearestTo_nearestMagnitude num positive
  rw [magnitude] at nearest
  exact ⟨rfl, isRounded_of_isNearestTo finite (by positivity) nearest⟩

theorem ofRatio?_eq_none_iff {negative : Bool} {num den : Nat} (positive : 0 < den) :
    ofRatio? negative num den = none ↔ (2 : ℚ) ^ 1024 - 2 ^ 970 ≤ num / den := by
  rw [← not_lt, ← nearestMagnitude_lt_iff num positive]
  simp only [ofRatio?]
  split
  next finite => simp [finite]
  next infinite => simp [infinite]

theorem ofRatio?_congr {num den otherNum otherDen : Nat} (negative : Bool) (positive : 0 < den)
    (otherPositive : 0 < otherDen) (same : (num : ℚ) / den = otherNum / otherDen) :
    ofRatio? negative num den = ofRatio? negative otherNum otherDen := by
  have nearest := isNearestTo_nearestMagnitude num positive
  have otherNearest := isNearestTo_nearestMagnitude otherNum otherPositive
  rw [same] at nearest
  have magnitude := nearest.unique inUnits_units_strictMono otherNearest
  simp only [ofRatio?, magnitude]

namespace IsRounded

variable {x y : Binary64} {q r : ℚ}

theorem value_le_of_lt (rounded : x.IsRounded q) (otherRounded : y.IsRounded r) (less : q < r) :
    x.value ≤ y.value := by
  by_contra greater
  have above : x.value + y.value ≤ 2 * q := by
    have nearer := (le_abs_self _).trans (rounded.nearest y otherRounded.finite)
    rcases abs_cases (y.value - q) with ⟨distance, _⟩ | ⟨distance, _⟩ <;> linarith
  have below : 2 * r ≤ x.value + y.value := by
    have nearer := (neg_le_abs _).trans (otherRounded.nearest x rounded.finite)
    rcases abs_cases (x.value - r) with ⟨distance, _⟩ | ⟨distance, _⟩ <;> linarith
  linarith

theorem value_eq_zero (rounded : x.IsRounded 0) : x.value = 0 := by
  have zero : Binary64.zero.value = 0 := by
    rw [value_eq]
    exact inUnits_units_zero
  have nearer := rounded.nearest Binary64.zero rfl
  rw [zero, sub_zero, sub_zero, abs_zero] at nearer
  exact abs_nonpos_iff.mp nearer

end IsRounded

end Binary64

end Sexpr
