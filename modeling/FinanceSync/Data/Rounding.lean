import FinanceSync.Data.Values
import Mathlib.Algebra.Order.Field.Power
import Mathlib.Data.Int.Log
import Mathlib.Data.Rat.Floor
import Mathlib.Tactic.Linarith

/-!
# Rounding of decimals

What the arithmetic of `decimal` does to a number: a quotient is rounded to the
digits of the context, `round` to a number of decimals.
-/

namespace FinanceSync

/-- The precision of the default `decimal` context. -/
def contextDigits : Nat := 28

/-- The number rounded to significant digits, as an operation of a context with
this precision returns it. -/
def roundDigits (digits : Nat) (number : ℚ) : ℚ :=
  if number = 0 then 0
  else
    let exponent := Int.log 10 |number| + 1 - digits
    roundHalfEven (number / 10 ^ exponent) * 10 ^ exponent

theorem le_roundHalfEven {lower : Int} {number : ℚ} (le : (lower : ℚ) ≤ number) :
    lower ≤ roundHalfEven number := by
  have below : lower ≤ number.floor := Rat.le_floor_iff.mpr le
  simp only [roundHalfEven]
  split_ifs <;> omega

theorem roundHalfEven_le {upper : Int} {number : ℚ} (le : number ≤ upper) :
    roundHalfEven number ≤ upper := by
  rcases le.lt_or_eq with less | same
  · have below : number.floor < upper := Rat.floor_lt_iff.mpr less
    simp only [roundHalfEven]
    split_ifs <;> omega
  · rw [same]
    simp [roundHalfEven]

/-- The integer is less than a half away from the number, or even and a half away. -/
def IsNearest (number : ℚ) (integer : Int) : Prop :=
  |number - integer| < 1 / 2 ∨ |number - integer| = 1 / 2 ∧ integer % 2 = 0

theorem IsNearest.le {number : ℚ} {integer : Int} (near : IsNearest number integer) :
    |number - integer| ≤ 1 / 2 := by
  rcases near with less | ⟨tie, _⟩
  · exact less.le
  · exact tie.le

theorem IsNearest.even {number : ℚ} {integer : Int} (near : IsNearest number integer)
    (tie : |number - integer| = 1 / 2) : integer % 2 = 0 := by
  rcases near with less | ⟨_, even⟩
  · exact absurd tie less.ne
  · exact even

/-- Two integers that are nearest to a number are not apart: both would be a half
away, and next to each other. -/
theorem IsNearest.not_below {number : ℚ} {lower upper : Int} (below : IsNearest number lower)
    (above : IsNearest number upper) : ¬ lower < upper := by
  intro less
  have step : (lower : ℚ) + 1 ≤ upper := by exact_mod_cast less
  have fromBelow := (abs_le.mp below.le).2
  have fromAbove := (abs_le.mp above.le).1
  have tieBelow : number - lower = 1 / 2 := by linarith
  have tieAbove : number - upper = -(1 / 2) := by linarith
  have next : (upper : ℚ) = (lower + 1 : Int) := by
    push_cast
    linarith
  have next : upper = lower + 1 := by exact_mod_cast next
  have evenBelow := below.even (by rw [tieBelow]; norm_num)
  have evenAbove := above.even (by rw [tieAbove]; norm_num)
  omega

theorem IsNearest.unique {number : ℚ} {first second : Int} (near : IsNearest number first)
    (other : IsNearest number second) : first = second :=
  le_antisymm (not_lt.mp (other.not_below near)) (not_lt.mp (near.not_below other))

theorem isNearest_roundHalfEven (number : ℚ) : IsNearest number (roundHalfEven number) := by
  have lower := Rat.floor_le number
  have upper := Rat.lt_floor_add_one number
  push_cast at upper
  simp only [IsNearest, roundHalfEven]
  split_ifs with less more even
  · left
    rw [abs_lt]
    constructor <;> linarith
  · left
    push_cast
    rw [abs_lt]
    constructor <;> linarith
  · right
    have tie : number - number.floor = 1 / 2 := by linarith
    rw [tie]
    exact ⟨by norm_num, even⟩
  · right
    have tie : number - ((number.floor + 1 : Int) : ℚ) = -(1 / 2) := by
      push_cast
      linarith
    rw [tie]
    exact ⟨by norm_num, by omega⟩

theorem roundHalfEven_eq_iff (number : ℚ) (integer : Int) :
    roundHalfEven number = integer ↔ IsNearest number integer := by
  constructor
  · rintro rfl
    exact isNearest_roundHalfEven number
  · intro near
    exact (isNearest_roundHalfEven number).unique near

theorem roundHalfEven_neg (number : ℚ) : roundHalfEven (-number) = -roundHalfEven number := by
  rw [roundHalfEven_eq_iff]
  have opposite : |-number - ((-roundHalfEven number : Int) : ℚ)| =
      |number - roundHalfEven number| := by
    rw [← abs_neg]
    congr 1
    push_cast
    ring
  rcases isNearest_roundHalfEven number with less | ⟨tie, even⟩
  · exact .inl (opposite.trans_lt less)
  · exact .inr ⟨opposite.trans tie, by omega⟩

theorem roundDigits_neg (digits : Nat) (number : ℚ) :
    roundDigits digits (-number) = -roundDigits digits number := by
  unfold roundDigits
  simp only [neg_eq_zero, abs_neg, neg_div, roundHalfEven_neg]
  split
  · exact neg_zero.symm
  · push_cast
    exact neg_mul _ _

theorem roundHalfEven_eq_zero_iff (number : ℚ) : roundHalfEven number = 0 ↔ |number| ≤ 1 / 2 := by
  rw [roundHalfEven_eq_iff, IsNearest]
  simp [le_iff_lt_or_eq]

/-- Rounding moves a number by a half at most. -/
theorem abs_roundHalfEven_sub_le (number : ℚ) : |(roundHalfEven number : ℚ) - number| ≤ 1 / 2 := by
  rw [abs_sub_comm]
  exact (isNearest_roundHalfEven number).le

/-- A power of ten is a whole number in units of a smaller one. -/
theorem zpow_eq_units {exponent power : Int} (le : exponent ≤ power) :
    ∃ units : Nat, (10 : ℚ) ^ power = ((10 ^ units : Int) : ℚ) * 10 ^ exponent := by
  rcases Int.le.dest le with ⟨units, rfl⟩
  refine ⟨units, ?_⟩
  rw [zpow_add₀ (by norm_num), mul_comm]
  simp

/-- Rounding to units of a power of ten does not go below a larger one. -/
theorem zpow_le_round {exponent power : Int} {number : ℚ} (units : exponent ≤ power)
    (le : (10 : ℚ) ^ power ≤ number) :
    (10 : ℚ) ^ power ≤ roundHalfEven (number / 10 ^ exponent) * 10 ^ exponent := by
  have unit : (0 : ℚ) < 10 ^ exponent := zpow_pos (by norm_num) exponent
  rcases zpow_eq_units units with ⟨count, power⟩
  rw [power] at le ⊢
  have rounded := le_roundHalfEven ((le_div_iff₀ unit).mpr le)
  exact mul_le_mul_of_nonneg_right (by exact_mod_cast rounded) unit.le

/-- Nor above a larger one. -/
theorem round_le_zpow {exponent power : Int} {number : ℚ} (units : exponent ≤ power)
    (le : number ≤ (10 : ℚ) ^ power) :
    roundHalfEven (number / 10 ^ exponent) * 10 ^ exponent ≤ (10 : ℚ) ^ power := by
  have unit : (0 : ℚ) < 10 ^ exponent := zpow_pos (by norm_num) exponent
  rcases zpow_eq_units units with ⟨count, power⟩
  rw [power] at le ⊢
  have rounded := roundHalfEven_le ((div_le_iff₀ unit).mpr le)
  exact mul_le_mul_of_nonneg_right (by exact_mod_cast rounded) unit.le

section Digits

variable {digits : Nat} {power : Int} {number : ℚ}

theorem roundDigits_of_pos (positive : 0 < number) : roundDigits digits number =
    roundHalfEven (number / 10 ^ (Int.log 10 number + 1 - digits)) *
      10 ^ (Int.log 10 number + 1 - digits) := by
  rw [roundDigits, if_neg positive.ne', abs_of_pos positive]

/-- Rounding to significant digits does not go below a power of ten. -/
theorem zpow_le_roundDigits (some : 0 < digits) (le : (10 : ℚ) ^ power ≤ number) :
    (10 : ℚ) ^ power ≤ roundDigits digits number := by
  have positive : 0 < number := (zpow_pos (by norm_num) power).trans_le le
  have leading : power ≤ Int.log 10 number :=
    (Int.zpow_le_iff_le_log (by norm_num) positive).mp (by exact_mod_cast le)
  rw [roundDigits_of_pos positive]
  calc (10 : ℚ) ^ power ≤ 10 ^ Int.log 10 number := zpow_le_zpow_right₀ (by norm_num) leading
    _ ≤ _ := zpow_le_round (by omega)
      (by exact_mod_cast Int.zpow_log_le_self (by norm_num : 1 < 10) positive)

/-- Nor above one. -/
theorem roundDigits_le_zpow (some : 0 < digits) (positive : 0 < number)
    (le : number ≤ (10 : ℚ) ^ power) : roundDigits digits number ≤ (10 : ℚ) ^ power := by
  have leading : Int.log 10 number ≤ power := by
    rw [← Int.log_zpow (R := ℚ) (by norm_num : 1 < 10) power]
    exact Int.log_mono_right positive (by exact_mod_cast le)
  rw [roundDigits_of_pos positive]
  exact round_le_zpow (by omega) le

end Digits

end FinanceSync
