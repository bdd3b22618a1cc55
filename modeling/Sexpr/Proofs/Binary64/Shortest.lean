import Sexpr.Binary64.Shortest
import Sexpr.Proofs.Binary64.Value
import Sexpr.Proofs.Decimal.Positional

/-!
The shortest decimal of a binary64 number rounds back to the number.

The search is for a decimal that does, so only two things are left to show: its finest grid
has one, the number itself, and the midpoints in decimal units are those of rounding.
-/

namespace Sexpr

/-- Rounding does not depend on the unit. -/
theorem IsNearest.of_scaled {grid : Nat → Nat} {factor candidate num den index : Nat}
    (factorPositive : 0 < factor) (positive : 0 < den)
    (nearest : IsNearest (fun place => grid place * factor) candidate 1 index)
    (same : num * factor = candidate * den) : IsNearest grid num den index := by
  have low : (grid (index - 1) * factor + grid index * factor) * 1 ≤ 2 * candidate := nearest.low
  have high : 2 * candidate ≤ (grid index * factor + grid (index + 1) * factor) * 1 :=
    nearest.high
  have scaled : 2 * candidate * den = 2 * num * factor := by
    rw [Nat.mul_assoc, ← same, Nat.mul_assoc]
  have regroup : ∀ left right : Nat,
      (left * factor + right * factor) * 1 * den = (left + right) * den * factor := by
    intro left right
    ring
  constructor
  · have wider := Nat.mul_le_mul_right den low
    rw [scaled, regroup] at wider
    exact Nat.le_of_mul_le_mul_right wider factorPositive
  · have wider := Nat.mul_le_mul_right den high
    rw [scaled, regroup] at wider
    exact Nat.le_of_mul_le_mul_right wider factorPositive
  · intro odd
    obtain ⟨above, below⟩ := nearest.odd odd
    have widerAbove := Nat.mul_lt_mul_of_pos_right above positive
    have widerBelow := Nat.mul_lt_mul_of_pos_right below positive
    rw [scaled, regroup] at widerAbove widerBelow
    exact ⟨Nat.lt_of_mul_lt_mul_right widerAbove, Nat.lt_of_mul_lt_mul_right widerBelow⟩

/-- A value of an increasing grid is nearest to itself. -/
theorem isNearest_self {grid : Nat → Nat} {index : Nat} (increasing : StrictMono grid)
    (nonzero : index ≠ 0) : IsNearest grid (grid index) 1 index := by
  have before : grid (index - 1) < grid index := increasing (by omega)
  have after : grid index < grid (index + 1) := increasing (Nat.lt_succ_self index)
  constructor <;> omega

namespace Binary64

/-- A unit of 2^-1074 is a whole number of decimal units.  The number of places is kept as a
variable, since its powers are too large to be computed. -/
theorem exists_decimalUnits_eq {places : Nat} (isPlaces : 1074 = places) :
    ∃ factor, 0 < factor ∧ decimalUnits = (fun magnitude => units magnitude * factor) ∧
      unitsPerOne * factor = 10 ^ places := by
  refine ⟨5 ^ places, Nat.pow_pos (by decide), ?_, ?_⟩
  · funext magnitude
    delta decimalUnits
    rw [isPlaces, Nat.pow_eq]
  · delta unitsPerOne
    rw [isPlaces, Nat.pow_eq, ← Nat.mul_pow]

theorem decimalUnits_strictMono : StrictMono decimalUnits := by
  obtain ⟨factor, positive, equality, _⟩ := exists_decimalUnits_eq rfl
  intro smaller larger less
  rw [equality]
  exact Nat.mul_lt_mul_of_pos_right (units_strictMono less) positive

theorem decimalUnits_zero : decimalUnits 0 = 0 := by
  obtain ⟨factor, _, equality, _⟩ := exists_decimalUnits_eq rfl
  rw [equality]
  exact Nat.zero_mul factor

theorem roundsTo_eq_true_iff {magnitude candidate : Nat} :
    roundsTo magnitude candidate = true ↔ IsNearest decimalUnits candidate 1 magnitude := by
  unfold roundsTo
  rcases Nat.mod_two_eq_zero_or_one magnitude with even | odd
  · simp only [even, if_true, decide_eq_true_eq]
    constructor
    · rintro ⟨low, high⟩
      exact ⟨by omega, by omega, by omega⟩
    · intro nearest
      have low := nearest.low
      have high := nearest.high
      omega
  · rw [if_neg (by omega), decide_eq_true_eq]
    constructor
    · rintro ⟨low, high⟩
      exact ⟨by omega, by omega, fun _ => ⟨by omega, by omega⟩⟩
    · intro nearest
      have apart := nearest.odd odd
      omega

theorem roundsTo_zero (power : Nat) : roundsTo 0 (0 * 10 ^ power) = true := by
  rw [Nat.zero_mul, roundsTo_eq_true_iff]
  constructor <;> simp [decimalUnits_zero]

theorem roundsTo_shortestFrom {magnitude value : Nat} (self : roundsTo magnitude value = true)
    (power : Nat) :
    roundsTo magnitude ((shortestFrom magnitude value power).1 *
      10 ^ (shortestFrom magnitude value power).2) = true := by
  induction power with
  | zero =>
      rw [shortestFrom, Nat.pow_zero, Nat.mul_one]
      exact self
  | succ power inductionHypothesis =>
      simp only [shortestFrom, Nat.pow_eq]
      split
      next below above =>
        rcases roundHalfEven_eq_or value (10 ^ (power + 1)) with equality | equality
        · rw [equality]
          exact below
        · rw [equality]
          exact above
      next below _ => exact below
      next _ above => exact above
      next => exact inductionHypothesis

/-- A multiple of a power of ten, in units of 10^-1074, without a zero at its end. -/
def trimmed (found : Nat × Nat) : Decimal :=
  if found.1 % 10 = 0 then ⟨found.1 / 10, (found.2 : Int) + 1 - 1074⟩
  else ⟨found.1, (found.2 : Int) - 1074⟩

theorem exists_power_trimmed (found : Nat × Nat) :
    ∃ power : Nat, (trimmed found).exponent = (power : Int) - 1074 ∧
      (trimmed found).coefficient * 10 ^ power = found.1 * 10 ^ found.2 := by
  unfold trimmed
  split
  next tens =>
    refine ⟨found.2 + 1, by push_cast; ring, ?_⟩
    dsimp only
    rw [Nat.pow_succ', ← Nat.mul_assoc, Nat.div_mul_cancel (Nat.dvd_of_mod_eq_zero tens)]
  next => exact ⟨found.2, rfl, rfl⟩

theorem shortest_of_ne_zero {x : Binary64} (nonzero : x.magnitude ≠ 0) :
    x.shortest = trimmed (shortestFrom x.magnitude (decimalUnits x.magnitude)
      ((decimalDigits (decimalUnits x.magnitude)).length - 1)) := by
  rw [shortest, if_neg nonzero, trimmed]

/-- The shortest decimal, in units of 10^-1074, rounds to the number that it is made for. -/
theorem exists_roundsTo_shortest (x : Binary64) :
    ∃ power : Nat, x.shortest.exponent = (power : Int) - 1074 ∧
      roundsTo x.magnitude (x.shortest.coefficient * 10 ^ power) = true := by
  by_cases zero : x.magnitude = 0
  · rw [shortest, if_pos zero, zero]
    obtain ⟨places, isPlaces⟩ : ∃ places, 1074 = places := ⟨_, rfl⟩
    exact ⟨places, by simp [← isPlaces], roundsTo_zero places⟩
  · have self := roundsTo_eq_true_iff.mpr (isNearest_self decimalUnits_strictMono zero)
    have rounds := roundsTo_shortestFrom self
      ((decimalDigits (decimalUnits x.magnitude)).length - 1)
    rw [shortest_of_ne_zero zero]
    obtain ⟨power, exponent, sameValue⟩ := exists_power_trimmed
      (shortestFrom x.magnitude (decimalUnits x.magnitude)
        ((decimalDigits (decimalUnits x.magnitude)).length - 1))
    refine ⟨power, exponent, ?_⟩
    rw [sameValue]
    exact rounds

/-- The shortest decimal lies between the midpoints next to the number. -/
theorem isNearestTo_shortest (x : Binary64) :
    IsNearestTo (inUnits units unitsPerOne) x.shortest.value x.magnitude := by
  obtain ⟨places, isPlaces⟩ : ∃ places, 1074 = places := ⟨_, rfl⟩
  obtain ⟨power, exponent, rounds⟩ := x.exists_roundsTo_shortest
  obtain ⟨factor, factorPositive, equality, product⟩ := exists_decimalUnits_eq isPlaces
  have nearest := roundsTo_eq_true_iff.mp rounds
  rw [equality] at nearest
  have positive : 0 < 10 ^ places := Nat.pow_pos (by decide)
  have same : x.shortest.coefficient * 10 ^ power * unitsPerOne * factor =
      x.shortest.coefficient * 10 ^ power * 10 ^ places := by
    rw [Nat.mul_assoc, product]
  have nearestUnits := nearest.of_scaled factorPositive positive same
  have placed : x.shortest.exponent = (power : Int) - places := by
    rw [exponent, ← isPlaces]
    rfl
  have value : x.shortest.value =
      (x.shortest.coefficient * 10 ^ power : Nat) / (10 ^ places : Nat) := by
    rw [Decimal.value, placed, zpow_sub₀ (by norm_num), zpow_natCast, zpow_natCast]
    push_cast
    rw [mul_div_assoc]
  rw [value]
  exact nearestUnits.isNearestTo positive unitsPerOne_pos

/-- A ratio that equals the shortest decimal rounds to the number. -/
theorem ofRatio?_of_shortest {x : Binary64} {num den : Nat} (finite : x.isFinite = true)
    (positive : 0 < den) (same : (num : ℚ) / den = x.shortest.value) :
    ofRatio? x.negative num den = some x := by
  refine ofRatio?_eq_some_iff.mpr ⟨finite, rfl, ?_⟩
  have nearest := isNearestTo_nearestMagnitude num positive
  rw [same] at nearest
  exact nearest.unique inUnits_units_strictMono x.isNearestTo_shortest

end Binary64

end Sexpr
