import FinanceSync.Data.Dates
import FinanceSync.Data.Enums
import FinanceSync.Lib.Grouping
import FinanceSync.Lib.Table
import Mathlib.Algebra.Order.Field.Rat

/-!
# Cash flow by period

The cash flow of a list of transactions is computed twice: in memory, where a period
starts in the time zone of the value, and by the database, where it starts in UTC.
Both leave out what is not booked, not in the range or of another account.
-/

namespace FinanceSync.Cashflow

open Lib

/-! ## Moments -/

/-- The offsets from UTC of a time zone, in microseconds: they are less than a day. -/
structure Zone where
  /-- `utcoffset()` of a time on the wall clock -/
  offset : Int → Int
  bounded : ∀ wall, -Instant.microsecondsPerDay < offset wall ∧
    offset wall < Instant.microsecondsPerDay

/-- An aware `datetime`. -/
structure ZonedDatetime where
  wall : Int
  zone : Zone

def ZonedDatetime.instant (moment : ZonedDatetime) : Instant :=
  moment.wall - moment.zone.offset moment.wall

/-- `interval` -/
inductive Interval
  | day
  | week
  | month
  | year
deriving DecidableEq

/-- The year and the month of a day. -/
def yearMonth (day : Int) : Nat × Nat :=
  let shifted := day + 719468
  let era := shifted / 146097
  let dayOfEra := shifted % 146097
  let yearOfEra := (dayOfEra - dayOfEra / 1460 + dayOfEra / 36524 - dayOfEra / 146096) / 365
  let dayOfYear := dayOfEra - (365 * yearOfEra + yearOfEra / 4 - yearOfEra / 100)
  let shiftedMonth := (5 * dayOfYear + 2) / 153
  let month := if shiftedMonth < 10 then shiftedMonth + 3 else shiftedMonth - 9
  let year := yearOfEra + era * 400 + if month ≤ 2 then 1 else 0
  (year.toNat, month.toNat)

/-- The first day of the interval that a day is in. -/
def Interval.firstDay (interval : Interval) (day : Int) : Int :=
  let epoch : Int := dateOrdinal 1970 1 1
  match interval with
  | .day => day
  | .week => day - (day + 3) % 7
  | .month => dateOrdinal (yearMonth day).1 (yearMonth day).2 1 - epoch
  | .year => dateOrdinal (yearMonth day).1 1 1 - epoch

/-- The start of the interval that a time on the wall clock is in. -/
def Interval.start (interval : Interval) (wall : Int) : Int :=
  interval.firstDay (wall.fdiv Instant.microsecondsPerDay) * Instant.microsecondsPerDay

/-- `_truncate_to_period` -/
def truncateToPeriod (moment : ZonedDatetime) (interval : Interval) : ZonedDatetime where
  wall := interval.start moment.wall
  zone := moment.zone

/-- `date_trunc(interval, occurred_at)` of the database, in UTC. -/
def dateTrunc (interval : Interval) (instant : Instant) : Instant := interval.start instant

-- 2025-06-19 was a Thursday
example : Interval.week.firstDay 20258 = 20255 ∧ Interval.month.firstDay 20258 = 20240 ∧
    Interval.year.firstDay 20258 = 20089 := by decide +kernel

/-! ## Transactions and reports -/

/-- A transaction of a tenant, as the reports read it. -/
structure Transaction where
  accountId : Uuid
  status : TransactionStatus
  occurredAt : ZonedDatetime
  amount : ℚ

/-- Single period's cash flow in a time-series. -/
structure PeriodEntry where
  date : Instant
  inflows : ℚ
  outflows : ℚ
  net : ℚ
  transactionCount : Nat
deriving DecidableEq

/-- Aggregate cash-flow figures for a period. -/
structure CashflowSummary where
  totalInflows : ℚ
  totalOutflows : ℚ
  netCashflow : ℚ
  transactionCount : Nat
  periodStart : Option Instant
  periodEnd : Option Instant
deriving DecidableEq

/-- The range and the accounts of a report. -/
structure Filters where
  startDate : Option Instant := none
  endDate : Option Instant := none
  accountIds : List Uuid := []

/-- `start_date (…) must not be after end_date (…)` -/
inductive ReportError
  | invertedRange (startDate endDate : Instant)
deriving DecidableEq

variable (filters : Filters)

/-- The transaction is of one of the accounts, if any are given. -/
def Filters.ofAccounts (transaction : Transaction) : Bool :=
  filters.accountIds = [] || transaction.accountId ∈ filters.accountIds

/-! ## In memory -/

def included (transaction : Transaction) : Bool :=
  filters.startDate.all (· ≤ transaction.occurredAt.instant) &&
    filters.endDate.all (transaction.occurredAt.instant ≤ ·) &&
    filters.ofAccounts transaction && transaction.status = .booked

/-- Inflows, outflows and the number of transactions. -/
abbrev Flow := ℚ × ℚ × Nat

/-- What a transaction adds to its period. -/
def flowOf (amount : ℚ) : Flow := if 0 < amount then (amount, 0, 1) else (0, -amount, 1)

def periodEntry (period : Instant × Flow) : PeriodEntry where
  date := period.1
  inflows := period.2.1
  outflows := period.2.2.1
  net := period.2.1 - period.2.2.1
  transactionCount := period.2.2.2

/-- The totals of the periods, oldest first. -/
def periodsOf (interval : Interval) (transactions : List Transaction) : List PeriodEntry :=
  let periods := groupTotals (transactions.map fun transaction =>
    ((truncateToPeriod transaction.occurredAt interval).instant, flowOf transaction.amount))
  ((OrderBy.stable fun period : Instant × Flow => period.1).sort periods).map periodEntry

/-- `start_date > end_date`, where both are given. -/
def invertedRange : Option ReportError :=
  match filters.startDate, filters.endDate with
  | some startDate, some endDate =>
      if endDate < startDate then some (.invertedRange startDate endDate) else none
  | _, _ => none

/-- `compute_cashflow` without the pending transactions. -/
def computeCashflow (interval : Interval) (transactions : List Transaction) :
    Except ReportError (List PeriodEntry) :=
  match invertedRange filters with
  | some error => .error error
  | none => .ok (periodsOf interval (transactions.filter (included filters)))

/-- `compute_cashflow_summary` -/
def computeCashflowSummary (transactions : List Transaction) :
    Except ReportError CashflowSummary :=
  (computeCashflow filters .day transactions).map fun periods =>
    { totalInflows := (periods.map PeriodEntry.inflows).sum
      totalOutflows := (periods.map PeriodEntry.outflows).sum
      netCashflow :=
        (periods.map PeriodEntry.inflows).sum - (periods.map PeriodEntry.outflows).sum
      transactionCount := (periods.map PeriodEntry.transactionCount).sum
      periodStart := (periods.map PeriodEntry.date).min?
      periodEnd := (periods.map PeriodEntry.date).max? }

/-! ## In the database -/

/-- The default range is the last 365 days. -/
def Filters.rangeEnd (now : Instant) : Instant := filters.endDate.getD now

def Filters.rangeStart (now : Instant) : Instant :=
  filters.startDate.getD (filters.rangeEnd now - Instant.days 365)

def inRange (now : Instant) (transaction : Transaction) : Bool :=
  filters.rangeStart now ≤ transaction.occurredAt.instant &&
    transaction.occurredAt.instant ≤ filters.rangeEnd now

/-- `_base_conditions` and `_add_account_filters` -/
def selected (now : Instant) (transactions : List Transaction) : List Transaction :=
  transactions.filter fun transaction =>
    inRange filters now transaction && transaction.status = .booked &&
      filters.ofAccounts transaction

/-- `coalesce(sum(amount) filter (where amount > 0), 0)` -/
def inflowExpr (rows : List Transaction) : ℚ :=
  ((rows.filter fun row => 0 < row.amount).map Transaction.amount).sum

/-- `coalesce(sum(-amount) filter (where amount < 0), 0)` -/
def outflowExpr (rows : List Transaction) : ℚ :=
  ((rows.filter fun row => row.amount < 0).map fun row => -row.amount).sum

def periodRow (group : Instant × List Transaction) : PeriodEntry where
  date := group.1
  inflows := inflowExpr group.2
  outflows := outflowExpr group.2
  net := (group.2.map Transaction.amount).sum
  transactionCount := group.2.length

/-- `CashflowService.by_period` without a limit, newest first. -/
def byPeriod (now : Instant) (interval : Interval) (transactions : List Transaction) :
    List PeriodEntry :=
  let groups := groupsOf (fun row : Transaction => dateTrunc interval row.occurredAt.instant)
    (selected filters now transactions)
  ((OrderBy.stable fun group : Instant × List Transaction => -group.1).sort groups).map periodRow

/-- `CashflowService.calculate` -/
def calculate (now : Instant) (transactions : List Transaction) : CashflowSummary :=
  let rows := selected filters now transactions
  { totalInflows := inflowExpr rows
    totalOutflows := outflowExpr rows
    netCashflow := inflowExpr rows - outflowExpr rows
    transactionCount := rows.length
    periodStart := (rows.map fun row => row.occurredAt.instant).min?
    periodEnd := (rows.map fun row => row.occurredAt.instant).max? }

end FinanceSync.Cashflow
