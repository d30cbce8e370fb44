import FinanceSync.TaxLots.Service
import FinanceSync.Wealthfolio.TransactionMapper

/-!
# Holdings and tax lots as exported rows

A holding becomes a row of the current positions, the rows become the snapshot
that is sent as manual holdings, and a tax lot becomes a row of the sidecar file.
Prices that the connector derives stay numbers; `str` and `Decimal` carry them
through the payload.
-/

namespace FinanceSync.Wealthfolio

/-! ## Holdings -/

/-- A canonical position at one moment. -/
structure Holding where
  id : String
  accountId : String
  securityId : String
  observedAt : Instant
  quantity : ℚ
  costBasis : Option ℚ
  marketValue : Option ℚ
  currencyCode : String
  price : Option ℚ

/-- A row of the current positions. -/
structure HoldingRow where
  date : Int
  symbol : String
  isin : String
  quantity : String
  avgCost : String
  currency : String
  snapshotPrice : Option ℚ := none
  snapshotCurrency : Option String := none
deriving DecidableEq

/-- Resolve symbol for a holding row. -/
def resolveHoldingSymbol (security : Option Security) : Except MappingError String :=
  let symbol := orText (security.bind Security.ticker) (security.bind Security.isin)
  if symbol = "" then .error (.unresolvedSecurity "Holding wacht op security-resolutie.")
  else .ok symbol

/-- The cost of one unit. -/
def averageCost (holding : Holding) : Option ℚ :=
  if holding.quantity = 0 then none else holding.costBasis.map (· / holding.quantity)

/-- Convert a canonical holding into a Wealthfolio holdings row. -/
def mapHoldingToWfRow (defaultCurrency : String) (security : Option Security)
    (holding : Holding) : Except MappingError HoldingRow := do
  let symbol ← resolveHoldingSymbol security
  return {
    date := Instant.date holding.observedAt
    symbol
    isin := (security.bind Security.isin).getD ""
    quantity := ← fmtDecimal (some holding.quantity)
    avgCost := ← fmtDecimal (averageCost holding)
    currency := orText (some holding.currencyCode) (some defaultCurrency) }

/-- The price at which a holding is valued, and the currency of that price where
it is not the one of the row. -/
def snapshotPrice (accountCurrency : String) (holding : Holding) : Option ℚ × Option String :=
  match holding.marketValue with
  | some marketValue =>
      if holding.quantity = 0 then (holding.price, none)
      else (some (marketValue / holding.quantity), some accountCurrency)
  | none => (holding.price, none)

/-- A row of the current positions with its fallback cost and its valuation.
`openCostBasis` has the text of the cost of one unit in the open lots of a
security. -/
def sourceRow (defaultCurrency accountCurrency : String)
    (openCostBasis : String → Option String) (security : Option Security) (holding : Holding) :
    Except MappingError HoldingRow := do
  let row ← mapHoldingToWfRow defaultCurrency security holding
  let (price, currency) := snapshotPrice accountCurrency holding
  return { row with
    avgCost := if row.avgCost = "" then (openCostBasis holding.securityId).getD "" else row.avgCost
    snapshotPrice := price
    snapshotCurrency := currency }

/-! ## The snapshot -/

inductive QuoteMode
  | manual
  | market
deriving DecidableEq, Repr

/-- A position of Wealthfolio's holdings snapshot. -/
structure Position where
  symbol : String
  isin : String
  quantity : String
  avgCost : Option String
  currency : String
  quoteMode : QuoteMode
  price : Option ℚ

/-- A position of Wealthfolio's live holdings.  A unit price is absent where its
text is no number. -/
structure ManualHolding where
  symbol : String
  securityIsin : String
  quantity : String
  averageCost : Option String
  unitPrice : Option ℚ
  sourceValue : Option ℚ
  currency : String
  quoteMode : QuoteMode

/-- `Decimal(str(text or 0))` -/
def quantityOf (text : String) : ℚ := (readNumber text).getD 0

/-- The positions of the snapshot; closed ones are left out. -/
def snapshotPositions (rows : List HoldingRow) : List Position :=
  (rows.filter fun row => quantityOf row.quantity ≠ 0).map fun row =>
    { symbol := row.symbol
      isin := row.isin
      quantity := row.quantity
      avgCost := if row.avgCost = "" then none else some row.avgCost
      currency := orText row.snapshotCurrency (some row.currency)
      quoteMode := if row.snapshotPrice.isSome then .manual else .market
      price := row.snapshotPrice }

/-- Convert a snapshot to Wealthfolio's live holdings shape.  The unit price is
taken for the quantity in two decimals. -/
def manualHoldingsPayload (positions : List Position) : List ManualHolding :=
  positions.map fun position =>
    { symbol := position.symbol
      securityIsin := position.isin
      quantity := position.quantity
      averageCost := position.avgCost
      unitPrice :=
        match position.price with
        | some price =>
            some (price * quantityOf position.quantity /
              ((cents (quantityOf position.quantity) : ℚ) / 100))
        | none => position.avgCost.bind readNumber
      sourceValue := position.price.map (· * quantityOf position.quantity)
      currency := position.currency
      quoteMode := .manual }

/-- The value that manual holdings have in the destination. -/
def exportedValue (holdings : List ManualHolding) : ℚ :=
  (holdings.map fun holding => quantityOf holding.quantity * holding.unitPrice.getD 0).sum

/-! ## Tax lots -/

/-- A row of the tax-lot sidecar. -/
structure TaxLotRow where
  lotId : String
  accountId : String
  symbol : String
  isin : String
  purchaseTransactionId : String
  saleTransactionId : String
  acquiredAt : Instant
  closedAt : Option Instant
  quantity : String
  remainingQuantity : String
  costBasisTotal : String
  costBasisPerUnit : String
  currency : String
  costBasisMethod : String
  realizedPL : String
  realizedPLCurrency : String
  washSaleAdjusted : Bool
  disallowedLoss : String
  sourceSystem : String
  sourceRecordId : String
  idempotencyKey : String
deriving DecidableEq

def costBasisMethodText : TaxLots.CostBasisMethod → String
  | .fifo => "fifo"
  | .lifo => "lifo"
  | .specificId => "specific_id"

/-- Map a canonical tax lot to a Wealthfolio sidecar row. -/
def mapTaxLotToWfRow (sha256 : String → String) (uuidText : Uuid → String)
    (security : Option Security) (lot : TaxLots.TaxLot) : Except MappingError TaxLotRow := do
  return {
    lotId := uuidText lot.id
    accountId := uuidText lot.accountId
    symbol := orText (security.bind Security.ticker) (security.bind Security.isin)
    isin := (security.bind Security.isin).getD ""
    purchaseTransactionId := (lot.purchaseTransactionId.map uuidText).getD ""
    saleTransactionId := (lot.saleTransactionId.map uuidText).getD ""
    acquiredAt := lot.acquiredAt
    closedAt := lot.closedAt
    quantity := ← fmtDecimal (some lot.quantity)
    remainingQuantity := ← fmtDecimal (some lot.remainingQuantity)
    costBasisTotal := ← fmtDecimal (some lot.costBasisTotal)
    costBasisPerUnit := ← fmtDecimal (some lot.costBasisPerUnit)
    currency := lot.currencyCode
    costBasisMethod := costBasisMethodText lot.costBasisMethod
    realizedPL := ← fmtDecimal lot.realizedPl
    realizedPLCurrency := orText lot.realizedPlCurrency (some lot.currencyCode)
    washSaleAdjusted := lot.hasWashSaleAdjustment
    disallowedLoss := ← fmtDecimal lot.disallowedLoss
    sourceSystem := "FINANCE_SYNC"
    sourceRecordId := uuidText lot.id
    idempotencyKey := sha256 ("finance-sync:tax-lot:" ++ uuidText lot.id) }

end FinanceSync.Wealthfolio
