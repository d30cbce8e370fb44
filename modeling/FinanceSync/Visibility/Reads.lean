import FinanceSync.Visibility.ReadScope
import Mathlib.Data.String.Basic
import Mathlib.Order.OrderDual

/-!
# Reading within a scope

The read services for tax lots, the portfolio, cash flow, net worth and accounts.
Each looks at the accounts of a scope and at the rows attached to them.
-/

namespace FinanceSync.Visibility

open Lib OrderDual

/-- `.offset(offset).limit(limit)` -/
def page {Row : Type} (limit offset : Nat) (rows : List Row) : List Row :=
  (rows.drop offset).take limit

/-- An instant within the bounds that are given. -/
def isWithin (dateFrom dateTo : Option Instant) (instant : Instant) : Bool :=
  dateFrom.all (· ≤ instant) && dateTo.all (instant ≤ ·)

/-- The distinct days of some instants, the latest first. -/
def daysOf (instants : List Instant) : List Int :=
  (OrderBy.stable toDual).sort (instants.map Instant.date).eraseDups

namespace Database

variable (db : Database) (scope : ReadScope)

/-! ## Tax lots -/

structure TaxLotQuery where
  limit : Nat := 50
  offset : Nat := 0
  accountId : Option Uuid := none
  securityId : Option Uuid := none
  isOpen : Option Bool := none

structure TaxLotListResponse where
  items : List TaxLots.TaxLot
  total : Nat
  limit : Nat
  offset : Nat

def listTaxLots (query : TaxLotQuery) : TaxLotListResponse :=
  let lots := (db.visibleTaxLots scope).rows.filter fun lot =>
    query.accountId.all (· = lot.accountId) && query.securityId.all (· = lot.securityId) &&
      query.isOpen.all (· = lot.isOpen)
  { items := page query.limit query.offset
      ((OrderBy.stable fun lot => toDual lot.acquiredAt).sort lots)
    total := lots.length
    limit := query.limit
    offset := query.offset }

def taxLotSummary (accountId securityId : Option Uuid) : TaxLots.Summary :=
  TaxLots.getTaxLotSummary (db.visibleTaxLots scope) true accountId securityId

/-! ## Portfolio -/

structure HoldingBreakdown where
  securityId : Uuid
  ticker : Option String
  isin : Option String
  securityName : String
  securityType : String
  quantity : ℚ
  costBasis : Option ℚ
  costBasisCurrency : Option String
  marketValue : Option ℚ
  price : Option ℚ
  priceCurrency : Option String
  currencyCode : String
  unrealisedPl : Option ℚ
  unrealisedPlPct : Option ℚ

structure AccountPortfolioBreakdown where
  accountId : Uuid
  /-- The text of the id stands in for a name that is not there. -/
  accountName : Option String
  accountType : String
  holdings : List HoldingBreakdown
  totalValue : ℚ
  totalCostBasis : ℚ

structure PortfolioResponse where
  accounts : List AccountPortfolioBreakdown
  totalValue : ℚ
  totalCostBasis : ℚ

/-- The latest holdings per account and security, by account. -/
def latestHoldings : List Holding :=
  let visible := db.visibleHoldings scope
  (OrderBy.stable Holding.accountId).sort
    (visible.filter fun holding =>
      visible.all fun other =>
        !(other.accountId = holding.accountId && other.securityId = holding.securityId) ||
          other.observedAt ≤ holding.observedAt)

/-- `fetch_latest_daily_prices` for one security. -/
def latestDailyPrice (securityId : Uuid) : Option SecurityPrice :=
  ((OrderBy.stable fun price : SecurityPrice => toDual price.timestamp).sort
    (db.prices.filter fun price =>
      price.securityId = securityId && price.interval = "1d")).head?

def holdingBreakdown (holding : Holding) : HoldingBreakdown :=
  let security := db.securities.find? fun security => security.id = holding.securityId
  let latest := db.latestDailyPrice holding.securityId
  let price := (holding.price.filter (· ≠ 0)).or (latest.bind SecurityPrice.priceClose)
  let marketValue := holding.marketValue.or (price.map (holding.quantity * ·))
  let unrealisedPl := holding.costBasis.bind fun costBasis => marketValue.map (· - costBasis)
  { securityId := holding.securityId
    ticker := security.bind Security.ticker
    isin := security.bind Security.isin
    securityName := (security.map Security.name).getD "Unknown"
    securityType := (security.map Security.securityType).getD "other"
    quantity := holding.quantity
    costBasis := holding.costBasis
    costBasisCurrency := holding.costBasisCurrency
    marketValue
    price
    priceCurrency :=
      (holding.priceCurrency.filter (· ≠ "")).or (latest.map SecurityPrice.currencyCode)
    currencyCode := holding.currencyCode
    unrealisedPl
    unrealisedPlPct := (holding.costBasis.filter (· ≠ 0)).bind fun costBasis =>
      unrealisedPl.map (· / costBasis * 100) }

def accountBreakdown (holdings : List Holding) (accountId : Uuid) : AccountPortfolioBreakdown :=
  let account := (db.visibleAccounts scope).find? fun account => account.id = accountId
  let breakdowns := (holdings.filter fun holding => holding.accountId = accountId).map
    db.holdingBreakdown
  { accountId
    accountName := account.map Account.name
    accountType := (account.map Account.accountType).getD "unknown"
    holdings := breakdowns
    totalValue := (breakdowns.filterMap HoldingBreakdown.marketValue).sum
    totalCostBasis := (breakdowns.filterMap HoldingBreakdown.costBasis).sum }

def getPortfolio : PortfolioResponse :=
  let holdings := db.latestHoldings scope
  let accounts := (holdings.map Holding.accountId).eraseDups.map
    (db.accountBreakdown scope holdings)
  { accounts
    totalValue := (accounts.map AccountPortfolioBreakdown.totalValue).sum
    totalCostBasis := (accounts.map AccountPortfolioBreakdown.totalCostBasis).sum }

structure HistoryQuery where
  limit : Nat := 90
  offset : Nat := 0
  dateFrom : Option Instant := none
  dateTo : Option Instant := none
  accountId : Option Uuid := none

structure PortfolioHistoryEntry where
  date : Int
  totalValue : ℚ

structure PortfolioHistoryResponse where
  items : List PortfolioHistoryEntry
  total : Nat

def getPortfolioHistory (query : HistoryQuery) : PortfolioHistoryResponse :=
  let holdings := (db.visibleHoldings scope).filter fun holding =>
    isWithin query.dateFrom query.dateTo holding.observedAt
  let days := daysOf (holdings.map Holding.observedAt)
  { items := (page query.limit query.offset days).map fun date =>
      { date
        totalValue := ((holdings.filter fun holding =>
          Instant.date holding.observedAt = date).filterMap Holding.marketValue).sum }
    total := days.length }

/-! ## Cash flow -/

/-- How the age of the data is classified. -/
def freshnessFor (asOf : Option Instant) (now : Instant) : String :=
  match asOf with
  | none => "unknown"
  | some asOf => if Instant.days 1 < now - asOf then "stale" else "fresh"

structure CashflowResponse where
  totalInflows : ℚ
  totalOutflows : ℚ
  netCashflow : ℚ
  transactionCount : Nat
  periodStart : Option Instant
  periodEnd : Option Instant
  freshness : String
  coveredAccounts : Nat

/-- The visible transactions of a cash-flow query. -/
def bookedTransactions (dateFrom dateTo : Option Instant) (accountId : Option Uuid) :
    List Transaction :=
  (db.visibleTransactions scope).filter fun transaction =>
    transaction.status = .booked && isWithin dateFrom dateTo transaction.occurredAt &&
      accountId.all (· = transaction.accountId)

def inflows (transactions : List Transaction) : ℚ :=
  ((transactions.map Transaction.amount).filter (0 < ·)).sum

def outflows (transactions : List Transaction) : ℚ :=
  (((transactions.map Transaction.amount).filter (· < 0)).map (- ·)).sum

def coveredAccounts (transactions : List Transaction) : Nat :=
  (transactions.map Transaction.accountId).eraseDups.length

def getCashflow (dateFrom dateTo : Option Instant) (accountId : Option Uuid) (now : Instant) :
    CashflowResponse :=
  let transactions := db.bookedTransactions scope dateFrom dateTo accountId
  let instants := transactions.map Transaction.occurredAt
  { totalInflows := inflows transactions
    totalOutflows := outflows transactions
    netCashflow := inflows transactions - outflows transactions
    transactionCount := transactions.length
    periodStart := instants.min?
    periodEnd := instants.max?
    freshness := freshnessFor instants.max? now
    coveredAccounts := coveredAccounts transactions }

structure CashflowHistoryEntry where
  date : Int
  inflows : ℚ
  outflows : ℚ
  net : ℚ
  transactionCount : Nat

structure CashflowHistoryResponse where
  items : List CashflowHistoryEntry
  total : Nat
  periodStart : Option Int
  periodEnd : Option Int
  freshness : String
  coveredAccounts : Nat

def getCashflowHistory (query : HistoryQuery) (now : Instant) : CashflowHistoryResponse :=
  let transactions :=
    db.bookedTransactions scope query.dateFrom query.dateTo query.accountId
  let days := daysOf (transactions.map Transaction.occurredAt)
  let shown := page query.limit query.offset days
  { items := shown.map fun date =>
      let ofDay := transactions.filter fun transaction =>
        Instant.date transaction.occurredAt = date
      { date
        inflows := inflows ofDay
        outflows := outflows ofDay
        net := (ofDay.map Transaction.amount).sum
        transactionCount := ofDay.length }
    total := days.length
    periodStart := shown.min?
    periodEnd := shown.max?
    freshness := freshnessFor (shown.max?.map Instant.days) now
    coveredAccounts := coveredAccounts transactions }

/-! ## Net worth and accounts -/

structure NetWorthResponse where
  totalAssets : ℚ
  totalLiabilities : ℚ
  netWorth : ℚ
  currencyCode : String
  accounts : List Account

def getNetWorth : NetWorthResponse :=
  let accounts := (db.visibleAccounts scope).filter Account.isActive
  let balances := accounts.filterMap fun account =>
    account.netAssetValue.or account.currentBalance
  let totalAssets := (balances.filter (0 ≤ ·)).sum
  let totalLiabilities := ((balances.filter (· < 0)).map (|·|)).sum
  { totalAssets
    totalLiabilities
    netWorth := totalAssets - totalLiabilities
    currencyCode := "EUR"
    accounts }

structure AccountList where
  items : List Account
  total : Nat

/-- `list_accounts`, sorted by name. -/
def listAccounts (limit : Nat) : AccountList :=
  let accounts := db.visibleAccounts scope
  { items := page limit 0 ((OrderBy.stable fun account => account.name).sort accounts)
    total := accounts.length }

/-- `list_account_transactions`, the latest first. -/
def listAccountTransactions (accountId : Uuid) (limit : Nat) (dateFrom : Instant) :
    List Transaction :=
  page limit 0
    ((OrderBy.stable fun transaction => toDual transaction.occurredAt).sort
      ((db.visibleTransactions scope).filter fun transaction =>
        transaction.accountId = accountId && dateFrom ≤ transaction.occurredAt))

end Database

end FinanceSync.Visibility
