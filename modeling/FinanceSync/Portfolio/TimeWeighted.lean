import FinanceSync.Data.Rounding
import FinanceSync.Portfolio.Performance
import Mathlib.Tactic.FieldSimp
import Mathlib.Tactic.Ring

/-!
# Cash flows in the time-weighted return

A portfolio whose value changes only by deposits and withdrawals earns nothing.
The service takes the cash flows with the wrong sign, so that a deposit counts
twice as a gain: it reports no return exactly if these gains cancel.
-/

namespace FinanceSync.Portfolio

open Lib

/-! ## Reported figures -/

theorem quantize_eq_zero_iff (places : Nat) (value : ℚ) :
    quantize places value = 0 ↔ |value| ≤ 1 / (2 * 10 ^ places) := by
  have unit : (0 : ℚ) < 10 ^ places := by positivity
  have rounded : quantize places value = 0 ↔ roundHalfEven (value * 10 ^ places) = 0 := by
    simp [quantize, unit.ne']
  rw [rounded, roundHalfEven_eq_zero_iff, abs_mul, abs_of_pos unit, ← le_div_iff₀ unit, div_div]

/-! ## The sign of the cash flows -/

/-- The net deposit of a sub-period. -/
def netDeposit (cashFlows : List (Instant × ℚ)) (start finish : Instant) : ℚ :=
  sumWhere (fun date => start < date ∧ date ≤ finish) cashFlows

/-- The cash flow of a sub-period is the net deposit with the opposite sign. -/
theorem cashFlowBetween_adjusted (cashFlows : List (Instant × ℚ)) (start finish : Instant) :
    cashFlowBetween (adjustedCashFlows cashFlows) start finish =
      -netDeposit cashFlows start finish := by
  rw [cashFlowBetween, adjustedCashFlows, sumWhere_groupTotals, netDeposit]
  induction cashFlows with
  | nil => simp
  | cons flow rest ih =>
      have negated : (if flow.2 < 0 then |flow.2| else -flow.2) = -flow.2 := by
        split
        · rename_i negative
          exact abs_of_neg negative
        · rfl
      rw [List.map_cons, sumWhere_cons, sumWhere_cons, ih, negated]
      split
      · exact (neg_add _ _).symm
      · simp

/-- The values change by the net deposits and by nothing else. -/
def ValuesFollowDeposits (holdings : List Holding) (transactions : List CashTransaction)
    (start finish : Instant) : Prop :=
  ∀ valuations ∈ neighbours (getDailyPortfolioValues holdings start finish),
    valuations.2.2 - valuations.1.2 =
      netDeposit (getExternalCashFlows transactions start finish) valuations.1.1 valuations.2.1

instance (holdings : List Holding) (transactions : List CashTransaction)
    (start finish : Instant) :
    Decidable (ValuesFollowDeposits holdings transactions start finish) :=
  inferInstanceAs (Decidable (∀ valuations ∈ _, _))

/-- What becomes of one unit if every net deposit is a gain of twice its size on
the value it is added to. -/
def growthByDeposits (holdings : List Holding) (transactions : List CashTransaction)
    (start finish : Instant) : ℚ :=
  ((neighbours (getDailyPortfolioValues holdings start finish)).map fun valuations =>
    if valuations.1.2 = 0 then 1
    else 1 + 2 * netDeposit (getExternalCashFlows transactions start finish) valuations.1.1
      valuations.2.1 / valuations.1.2).prod

section Neutrality

variable {holdings : List Holding} {transactions : List CashTransaction} {start finish : Instant}

/-- Where the value follows the deposit, the deposit counts twice. -/
theorem periodReturn_of_deposit {beginningValue endingValue deposit : ℚ}
    (follows : endingValue - beginningValue = deposit) :
    1 + periodReturn beginningValue endingValue (-deposit) =
      if beginningValue = 0 then 1 else 1 + 2 * deposit / beginningValue := by
  by_cases empty : beginningValue = 0
  · simp [periodReturn, empty]
  · simp only [periodReturn, empty, ne_eq, not_false_eq_true, if_true, if_false, follows]
    ring

theorem linkedReturn_of_deposits
    (follows : ValuesFollowDeposits holdings transactions start finish) :
    linkedReturn (adjustedCashFlows (getExternalCashFlows transactions start finish))
        (getDailyPortfolioValues holdings start finish) =
      growthByDeposits holdings transactions start finish := by
  unfold linkedReturn growthByDeposits
  refine congrArg List.prod (List.map_congr_left fun valuations isMem => ?_)
  rw [cashFlowBetween_adjusted]
  exact periodReturn_of_deposit (follows valuations isMem)

/-- The reported return of a portfolio that earned nothing is zero exactly if the
doubled deposits leave a unit where it was, to half of the last digit. -/
theorem calculateTwr_neutral_iff (holdings : List Holding) (transactions : List CashTransaction)
    (start finish : Instant) (follows : ValuesFollowDeposits holdings transactions start finish) :
    (calculateTwr holdings transactions start finish).totalReturnPct = 0 ↔
      |growthByDeposits holdings transactions start finish - 1| ≤ 1 / 2000000 := by
  unfold calculateTwr
  dsimp only
  split
  · rename_i tooFew
    have nothing : neighbours (getDailyPortfolioValues holdings start finish) = [] := by
      cases values : getDailyPortfolioValues holdings start finish with
      | nil => rfl
      | cons value rest =>
          cases rest with
          | nil => rfl
          | cons second rest =>
              rw [values, List.length_cons, List.length_cons] at tooFew
              omega
    simp [growthByDeposits, nothing]
  · have hundred : |(100 : ℚ)| = 100 := abs_of_pos (by norm_num)
    rw [quantize_eq_zero_iff, linkedReturn_of_deposits follows, abs_mul, hundred,
      ← le_div_iff₀ (by norm_num : (0 : ℚ) < 100)]
    norm_num

/-- A portfolio of a hundred into which another hundred is paid. -/
def paidInto : List Holding :=
  [{ id := 1, accountId := 1, securityId := 1, observedAt := 0, quantity := 1,
     marketValue := some 100, currencyCode := "EUR", source := .providerSync },
   { id := 2, accountId := 1, securityId := 1, observedAt := Instant.days 1, quantity := 2,
     marketValue := some 200, currencyCode := "EUR", source := .providerSync }]

def payment : List CashTransaction :=
  [{ transactionType := .deposit, status := .booked, occurredAt := Instant.days 1,
     amountInBase := some 100 }]

/-- The deposit is reported as a return of two hundred per cent. -/
theorem calculateTwr_paidInto :
    ValuesFollowDeposits paidInto payment 0 (Instant.days 1) ∧
      (calculateTwr paidInto payment 0 (Instant.days 1)).totalReturnPct = 200 := by
  decide +kernel

theorem calculateTwr_neutral_iff_paidInto :
    (calculateTwr paidInto payment 0 (Instant.days 1)).totalReturnPct = 0 ↔
      |growthByDeposits paidInto payment 0 (Instant.days 1) - 1| ≤ 1 / 2000000 :=
  calculateTwr_neutral_iff paidInto payment 0 (Instant.days 1) (by decide +kernel)

end Neutrality

end FinanceSync.Portfolio
