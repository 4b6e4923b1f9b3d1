import Mathlib.Algebra.Order.Round
import Mathlib.Data.Rat.Floor
import Mathlib.Tactic.Linarith
import Mathlib.Tactic.Ring
import LineShell.Proofs.Arithmetic.Decimal

/-!
Rounding to decimal places, stated without the division that does it: the multiple of the unit of
the last place that is nearest to a number, the even multiple of two that are equally near. There is
exactly one, and it is what the numeral of the number is made of.
-/

namespace LineShell.Arithmetic

theorem roundToEven_bounds (numerator : Nat) {denominator rounded : Nat}
    (positive : 0 < denominator) (result : roundToEven numerator denominator = rounded) :
    2 * numerator ≤ 2 * (denominator * rounded) + denominator ∧
      2 * (denominator * rounded) ≤ 2 * numerator + denominator ∧
      (2 * numerator = 2 * (denominator * rounded) + denominator ∨
        2 * (denominator * rounded) = 2 * numerator + denominator → rounded % 2 = 0) := by
  have parts := Nat.div_add_mod numerator denominator
  have small := Nat.mod_lt numerator positive
  rw [roundToEven] at result
  generalize numerator / denominator = quotient at parts result
  generalize numerator % denominator = left at parts small result
  split at result
  · rw [← result]
    omega
  · split at result
    · rw [← result, Nat.mul_succ]
      omega
    · by_cases even : quotient % 2 = 0
      · rw [← result, even, Nat.add_zero]
        omega
      · have odd : quotient % 2 = 1 := by omega
        rw [← result, odd, Nat.mul_succ]
        omega

theorem abs_div_sub_roundToEven (numerator : Nat) {denominator : Nat} (positive : 0 < denominator) :
    |(numerator : Rat) / denominator - roundToEven numerator denominator| ≤ 1 / 2 ∧
      (|(numerator : Rat) / denominator - roundToEven numerator denominator| = 1 / 2 →
        Even (roundToEven numerator denominator)) := by
  obtain ⟨below, above, even⟩ := roundToEven_bounds numerator positive rfl
  generalize roundToEven numerator denominator = rounded at below above even ⊢
  have positiveRat : (0 : Rat) < denominator := Nat.cast_pos.mpr positive
  constructor
  · have belowRat : 2 * (numerator : Rat) ≤ 2 * (denominator * rounded) + denominator := by
      exact_mod_cast below
    have aboveRat : 2 * ((denominator : Rat) * rounded) ≤ 2 * numerator + denominator := by
      exact_mod_cast above
    rw [abs_le, le_sub_iff_add_le, sub_le_iff_le_add, le_div_iff₀ positiveRat,
      div_le_iff₀ positiveRat]
    constructor <;> linarith
  · intro half
    rw [Nat.even_iff]
    apply even
    rcases (abs_eq (by norm_num)).mp half with high | low
    · left
      have tie := eq_add_of_sub_eq high
      rw [div_eq_iff positiveRat.ne'] at tie
      have doubled : 2 * (numerator : Rat) = 2 * (denominator * rounded) + denominator := by
        linarith
      exact_mod_cast doubled
    · right
      have tie := eq_add_of_sub_eq low
      rw [div_eq_iff positiveRat.ne'] at tie
      have doubled : 2 * ((denominator : Rat) * rounded) = 2 * numerator + denominator := by
        linarith
      exact_mod_cast doubled

theorem one_le_abs_sub_add_abs_sub (value : Rat) {first second : Int} (different : first ≠ second) :
    1 ≤ |value - first| + |value - second| := by
  have apart : 1 ≤ |first - second| := Int.one_le_abs (sub_ne_zero.mpr different)
  calc (1 : Rat) ≤ |(first : Rat) - second| := by exact_mod_cast apart
    _ ≤ |(first : Rat) - value| + |value - second| := abs_sub_le _ _ _
    _ = |value - first| + |value - second| := by rw [abs_sub_comm (first : Rat)]

namespace Decimal

def ofUnits (units : Int) : Rat :=
  units / scale

/-- Holds of a number and the multiple of the last place that is nearest to it. Of two equally near
ones it is the even one. -/
structure RoundsTo (value : Rat) (units : Int) : Prop where
  nearest : ∀ other, |value - ofUnits units| ≤ |value - ofUnits other|
  even : ∀ other, other ≠ units → |value - ofUnits other| = |value - ofUnits units| → Even units

theorem scale_pos : (0 : Rat) < scale := by
  have positive : 0 < scale := by decide
  exact Nat.cast_pos.mpr positive

theorem ofUnits_inj {first second : Int} : ofUnits first = ofUnits second ↔ first = second := by
  rw [ofUnits, ofUnits, div_left_inj' scale_pos.ne', Int.cast_inj]

theorem abs_sub_ofUnits (value : Rat) (units : Int) :
    |value - ofUnits units| = |value * scale - units| / scale := by
  rw [ofUnits, sub_div' scale_pos.ne', abs_div, abs_of_pos scale_pos]

theorem abs_sub_ofUnits_le_iff (value : Rat) (first second : Int) :
    |value - ofUnits first| ≤ |value - ofUnits second| ↔
      |value * scale - first| ≤ |value * scale - second| := by
  rw [abs_sub_ofUnits, abs_sub_ofUnits, div_le_div_iff_of_pos_right scale_pos]

theorem roundsTo_iff {value : Rat} {units : Int} :
    RoundsTo value units ↔
      |value * scale - units| ≤ 1 / 2 ∧ (|value * scale - units| = 1 / 2 → Even units) := by
  constructor
  · intro rounds
    constructor
    · have closest := (abs_sub_ofUnits_le_iff value units _).mp
        (rounds.nearest (round (value * scale)))
      exact closest.trans (abs_sub_round _)
    · intro half
      have tie (other : Int) (different : other ≠ units)
          (same : |value * scale - other| = 1 / 2) : Even units := by
        apply rounds.even other different
        rw [abs_sub_ofUnits, abs_sub_ofUnits, same, half]
      rcases (abs_eq (by norm_num)).mp half with above | below
      · apply tie (units + 1) (by omega)
        push_cast
        rw [← sub_sub, above]
        norm_num
      · apply tie (units - 1) (by omega)
        push_cast
        rw [← sub_add, below]
        norm_num
  · intro criterion
    constructor
    · intro other
      rw [abs_sub_ofUnits_le_iff]
      by_cases same : other = units
      · rw [same]
      · have apart := one_le_abs_sub_add_abs_sub (value * scale) same
        linarith [criterion.1]
    · intro other different tie
      rw [abs_sub_ofUnits, abs_sub_ofUnits, div_left_inj' scale_pos.ne'] at tie
      have apart := one_le_abs_sub_add_abs_sub (value * scale) different
      apply criterion.2
      linarith [criterion.1]

theorem RoundsTo.unique {value : Rat} {first second : Int} (one : RoundsTo value first)
    (other : RoundsTo value second) : first = second := by
  by_contra different
  obtain ⟨near, even⟩ := roundsTo_iff.mp one
  obtain ⟨near', even'⟩ := roundsTo_iff.mp other
  have apart := one_le_abs_sub_add_abs_sub (value * scale) different
  obtain ⟨half, twice⟩ := even (by linarith)
  obtain ⟨half', twice'⟩ := even' (by linarith)
  have neighbours : |(first : Rat) - second| ≤ 1 := by
    have triangle := abs_sub_le (first : Rat) (value * scale) second
    rw [abs_sub_comm (first : Rat) (value * scale)] at triangle
    linarith
  have integers : |first - second| ≤ 1 := by exact_mod_cast neighbours
  rw [abs_le] at integers
  omega

theorem RoundsTo.neg {value : Rat} {units : Int} (rounds : RoundsTo value units) :
    RoundsTo (-value) (-units) := by
  rw [roundsTo_iff] at rounds ⊢
  have mirrored : |-value * scale - ((-units : Int) : Rat)| = |value * scale - units| := by
    rw [← abs_neg]
    push_cast
    congr 1
    ring
  rw [mirrored]
  refine ⟨rounds.1, fun half => ?_⟩
  exact (rounds.2 half).neg

theorem roundsTo_ofUnits (units : Int) : RoundsTo (ofUnits units) units := by
  rw [roundsTo_iff, ofUnits, div_mul_cancel₀ _ scale_pos.ne', sub_self, abs_zero]
  constructor
  · norm_num
  · intro half
    norm_num at half

def signedUnits (value : Rat) : Int :=
  if value < 0 then -(units value : Int) else units value

theorem roundsTo_units {value : Rat} (nonnegative : 0 ≤ value) : RoundsTo value (units value) := by
  have scaled : value * scale = ((value.num.natAbs * scale : Nat) : Rat) / value.den := by
    have whole : ((value.num.natAbs : Int) : Rat) = value.num := by
      rw [Int.natAbs_of_nonneg (Rat.num_nonneg.mpr nonnegative)]
    rw [Nat.cast_mul, ← Int.cast_natCast value.num.natAbs, whole, mul_div_right_comm,
      Rat.num_div_den]
  obtain ⟨near, even⟩ := abs_div_sub_roundToEven (value.num.natAbs * scale) value.den_pos
  rw [← scaled] at near even
  rw [roundsTo_iff, Int.cast_natCast]
  refine ⟨near, fun half => ?_⟩
  exact (Int.even_coe_nat _).mpr (even half)

theorem units_neg (value : Rat) : units (-value) = units value := by
  rw [units, Rat.num_neg_eq_neg_num, Int.natAbs_neg, Rat.den_neg_eq_den]
  rfl

theorem roundsTo_signedUnits (value : Rat) : RoundsTo value (signedUnits value) := by
  rw [signedUnits]
  split
  · next negative =>
      have opposite := (roundsTo_units (neg_nonneg.mpr negative.le)).neg
      rw [neg_neg, units_neg] at opposite
      exact opposite
  · next nonnegative => exact roundsTo_units (not_lt.mp nonnegative)

theorem roundsTo_iff_eq {value : Rat} {units : Int} :
    RoundsTo value units ↔ units = signedUnits value := by
  constructor
  · intro rounds
    exact rounds.unique (roundsTo_signedUnits value)
  · intro same
    rw [same]
    exact roundsTo_signedUnits value

end Decimal

end LineShell.Arithmetic
