import FinanceSync.Data.DecimalText
import FinanceSync.Data.Rounding
import FinanceSync.Lib.Fallible
import Mathlib.Tactic.FieldSimp
import Mathlib.Tactic.Ring

/-!
# Numbers of exported rows

Every number of an exported row is written by one formatter, with two decimals.
Read back, it is the number rounded to cents.
-/

namespace FinanceSync.Wealthfolio

/-- What the mapping of a row raises.  All but the last are a `ValueError`. -/
inductive MappingError
  | unresolvedSecurity (message : String)
  | unresolvedCashCurrency (message : String)
  | valueError (message : String)
  | invalidOperation
deriving DecidableEq, Repr

/-- A number in cents. -/
def cents (value : ℚ) : Int := roundHalfEven (value * 100)

/-- Format a Decimal value for CSV output.  The sign of a negative number stays
where its digits are all zero. -/
def fmtDecimal : Option ℚ → Except MappingError String
  | none => .ok ""
  | some value =>
      if 10 ^ contextDigits ≤ (cents value).natAbs then .error .invalidOperation
      else
        .ok (String.ofList
          (Decimal.signed (value < 0) (⟨cents value, -2⟩ : Decimal).unsignedChars))

example : fmtDecimal (some (-0.125)) = .ok "-0.12" ∧ fmtDecimal (some 1234.5) = .ok "1234.50" := by
  decide +kernel

/-- The number that `Decimal(text)` denotes. -/
def readNumber (text : String) : Option ℚ :=
  match parseDecimal text.toList with
  | some (.finite decimal) => some decimal.value
  | _ => none

/-! ## Reading a formatted number -/

theorem value_hundredths (units : Int) : (⟨units, -2⟩ : Decimal).value = (units : ℚ) / 100 := by
  change (units : ℚ) / 10 ^ 2 = units / 100
  norm_num

theorem cents_nonneg {value : ℚ} (nonneg : 0 ≤ value) : 0 ≤ cents value :=
  le_roundHalfEven (by push_cast; linarith)

theorem cents_nonpos {value : ℚ} (nonpos : value ≤ 0) : cents value ≤ 0 :=
  roundHalfEven_le (by push_cast; linarith)

/-- The digits and the sign of a number denote its cents. -/
theorem value_withSign (value : ℚ) :
    (Decimal.withSign (value < 0) (⟨cents value, -2⟩ : Decimal).abs).value = cents value / 100 := by
  rw [Decimal.withSign, Decimal.abs]
  split
  · next negative =>
      have nonpos : cents value ≤ 0 := cents_nonpos (le_of_lt (by simpa using negative))
      have same : -((cents value).natAbs : Int) = cents value := by omega
      change (⟨-((cents value).natAbs : Int), -2⟩ : Decimal).value = _
      rw [same, value_hundredths]
  · next positive =>
      have nonneg : 0 ≤ cents value := cents_nonneg (by simpa using positive)
      have same : ((cents value).natAbs : Int) = cents value := by omega
      rw [same, value_hundredths]

/-- A formatted number is read as the number in cents. -/
theorem readNumber_fmtDecimal {value : ℚ} {text : String}
    (formatted : fmtDecimal (some value) = .ok text) :
    readNumber text = some ((cents value : ℚ) / 100) := by
  rw [fmtDecimal] at formatted
  split at formatted
  · cases formatted
  · cases formatted
    rw [readNumber, String.toList_ofList, Decimal.parseDecimal_signed]
    exact congrArg some (value_withSign value)

/-- A number with two decimals. -/
def WholeCents (value : ℚ) : Prop := ∃ units : Int, value = units / 100

theorem cents_of_units (units : Int) : cents (units / 100) = units := by
  have whole : ((units : ℚ) / 100) * 100 = units := by ring
  rw [cents, whole]
  exact le_antisymm (roundHalfEven_le le_rfl) (le_roundHalfEven le_rfl)

theorem cents_eq_iff (value : ℚ) : (cents value : ℚ) / 100 = value ↔ WholeCents value := by
  constructor
  · intro kept
    exact ⟨cents value, kept.symm⟩
  · intro whole
    cases whole with
    | intro units isWhole => rw [isWhole, cents_of_units]

/-- The formatter keeps exactly the numbers with two decimals. -/
theorem readNumber_fmtDecimal_iff {value : ℚ} {text : String}
    (formatted : fmtDecimal (some value) = .ok text) :
    readNumber text = some value ↔ WholeCents value := by
  rw [readNumber_fmtDecimal formatted, Option.some_inj, cents_eq_iff]

theorem abs_cents_sub_le (value : ℚ) : |(cents value : ℚ) / 100 - value| ≤ 1 / 200 := by
  have near := abs_roundHalfEven_sub_le (value * 100)
  have scaled : (cents value : ℚ) / 100 - value = (cents value - value * 100) / 100 := by ring
  rw [scaled, abs_div, abs_of_pos (by norm_num : (0 : ℚ) < 100), cents]
  linarith

/-- Less than half a cent is no cent. -/
theorem cents_eq_zero_iff (value : ℚ) : cents value = 0 ↔ |value| ≤ 1 / 200 := by
  rw [cents, roundHalfEven_eq_zero_iff, abs_mul, abs_of_pos (by norm_num : (0 : ℚ) < 100)]
  constructor
  · intro small
    linarith
  · intro small
    linarith

end FinanceSync.Wealthfolio
