import FinanceSync.Portfolio.Snapshots
import Mathlib.Algebra.BigOperators.Ring.List
import Mathlib.Algebra.Field.Rat

/-!
# The performance service

The figures that `PerformanceService` reads from snapshots and external cash
flows: the daily values, the value at an instant, the time-weighted return, the
values and flows of the money-weighted return and the weights by security type.
The two figures that are not rational, the annualised return and the internal
rate of return, are computed from these and left out.
-/

namespace FinanceSync.Portfolio

open Lib

/-- A transaction as the performance service reads it. -/
structure CashTransaction where
  transactionType : TransactionType
  status : TransactionStatus
  occurredAt : Instant
  amountInBase : Option ℚ
deriving DecidableEq

/-! ## Queries -/

/-- Portfolio total market value by day. -/
def getDailyPortfolioValues (holdings : List Holding) (start finish : Instant) :
    List (Instant × ℚ) :=
  totalsByDay
    ((holdings.filter fun holding =>
        start ≤ holding.observedAt ∧ holding.observedAt ≤ finish ∧ holding.marketValue.isSome).map
      fun holding => (holding.observedAt, holding.value))

/-- Total portfolio market value at a specific point in time. -/
def getPortfolioValueAt (holdings : List Holding) (moment : Instant) : ℚ :=
  ((holdings.filter fun holding =>
      holding.observedAt ≤ moment ∧ holding.marketValue.isSome).map Holding.value).sum

/-- External cash flows in the order of their instants: deposits are positive,
withdrawals negative. -/
def getExternalCashFlows (transactions : List CashTransaction) (start finish : Instant) :
    List (Instant × ℚ) :=
  let selected := (OrderBy.stable CashTransaction.occurredAt).sort
    (transactions.filter fun transaction =>
      start ≤ transaction.occurredAt ∧ transaction.occurredAt ≤ finish ∧
        transaction.transactionType ∈
          [TransactionType.deposit, .withdrawal, .transfer] ∧
        transaction.status ∈ [TransactionStatus.booked, .pending])
  (selected.map fun transaction =>
      (transaction.occurredAt, transaction.amountInBase.getD 0)).filter
    fun flow => flow.2 ≠ 0

/-- Portfolio weights by security type at a point in time. -/
def getSecurityTypeWeights (securityType : Uuid → String) (holdings : List Holding)
    (moment : Instant) : List (String × ℚ) :=
  let rows := groupTotals
    ((holdings.filter fun holding =>
        holding.observedAt ≤ moment ∧ holding.marketValue.isSome).map
      fun holding => (securityType holding.securityId, holding.value))
  let total := (rows.map Prod.snd).sum
  if total = 0 then [] else rows.map fun row => (row.1, row.2 / total)

/-! ## Time-weighted return -/

/-- A single period return within a TWR calculation. -/
structure PerformancePeriod where
  startDate : Instant
  endDate : Instant
  beginningValue : ℚ
  endingValue : ℚ
  externalCashFlow : ℚ
  periodReturnPct : ℚ
deriving DecidableEq

/-- Time-Weighted Return result. -/
structure TwrResponse where
  totalReturnPct : ℚ
  periods : List PerformancePeriod
  years : ℚ
deriving DecidableEq

/-- `value.quantize(Decimal(10) ** -places)` -/
def quantize (places : Nat) (value : ℚ) : ℚ := roundHalfEven (value * 10 ^ places) / 10 ^ places

/-- Neighbouring elements of a list. -/
def neighbours {α : Type} (elements : List α) : List (α × α) := elements.zip elements.tail

/-- The cash flows by instant, with the sign that `calculate_twr` gives them. -/
def adjustedCashFlows (cashFlows : List (Instant × ℚ)) : List (Instant × ℚ) :=
  groupTotals (cashFlows.map fun flow => (flow.1, if flow.2 < 0 then |flow.2| else -flow.2))

/-- The cash flows that occurred after the start of a sub-period, up to its end. -/
def cashFlowBetween (adjusted : List (Instant × ℚ)) (start finish : Instant) : ℚ :=
  sumWhere (fun date => start < date ∧ date ≤ finish) adjusted

def periodReturn (beginningValue endingValue cashFlow : ℚ) : ℚ :=
  if beginningValue ≠ 0 then (endingValue - beginningValue - cashFlow) / beginningValue else 0

/-- The sub-period between two valuations. -/
def performancePeriod (adjusted : List (Instant × ℚ))
    (valuations : (Instant × ℚ) × (Instant × ℚ)) : PerformancePeriod :=
  let cashFlow := cashFlowBetween adjusted valuations.1.1 valuations.2.1
  { startDate := valuations.1.1
    endDate := valuations.2.1
    beginningValue := valuations.1.2
    endingValue := valuations.2.2
    externalCashFlow := cashFlow
    periodReturnPct := periodReturn valuations.1.2 valuations.2.2 cashFlow * 100 }

/-- The product of the growth factors of the sub-periods. -/
def linkedReturn (adjusted : List (Instant × ℚ)) (dailyValues : List (Instant × ℚ)) : ℚ :=
  ((neighbours dailyValues).map fun valuations =>
    1 + periodReturn valuations.1.2 valuations.2.2
      (cashFlowBetween adjusted valuations.1.1 valuations.2.1)).prod

/-- The years between the first and the last valuation. -/
def yearsSpanned (dailyValues : List (Instant × ℚ)) : ℚ :=
  match dailyValues.head?, dailyValues.getLast? with
  | some first, some last => (Instant.date last.1 - Instant.date first.1 : Int) / 365.25
  | _, _ => 0

/-- Compute Time-Weighted Return.  The daily values come with distinct days in
ascending order, so that sorting them and keeping the last one of each day
changes nothing. -/
def calculateTwr (holdings : List Holding) (transactions : List CashTransaction)
    (start finish : Instant) : TwrResponse :=
  let dailyValues := getDailyPortfolioValues holdings start finish
  if dailyValues.length < 2 then { totalReturnPct := 0, periods := [], years := 0 }
  else
    let adjusted := adjustedCashFlows (getExternalCashFlows transactions start finish)
    { totalReturnPct := quantize 4 ((linkedReturn adjusted dailyValues - 1) * 100)
      periods := (neighbours dailyValues).map (performancePeriod adjusted)
      years := quantize 2 (yearsSpanned dailyValues) }

/-! ## Money-weighted return -/

/-- The values and flows that the internal rate of return is solved for. -/
structure MwrValues where
  initialValue : ℚ
  finalValue : ℚ
  totalCashFlows : ℚ
  cashFlowCount : Nat
deriving DecidableEq

/-- What `calculate_mwr` reads: to the investor a deposit is negative. -/
def calculateMwr (holdings : List Holding) (transactions : List CashTransaction)
    (start finish : Instant) : MwrValues :=
  let rawCashFlows := getExternalCashFlows transactions start finish
  { initialValue := getPortfolioValueAt holdings start
    finalValue := getPortfolioValueAt holdings finish
    totalCashFlows :=
      (rawCashFlows.map fun flow => if 0 < flow.2 then -flow.2 else |flow.2|).sum
    cashFlowCount := rawCashFlows.length }

end FinanceSync.Portfolio
