import FinanceSync.Data.Enums
import FinanceSync.Data.Values
import FinanceSync.Lib.FirstByKey
import Mathlib.Data.List.Sort
import Mathlib.Data.List.Infix

/-!
# Trading212 connector

The orders, the cash transactions and the portfolio of Trading212's API and what the
connector makes of them.  Numbers of the API are taken as the numbers they denote.
-/

namespace FinanceSync.Trading212

/-! ## What the API returns -/

structure OrderData where
  id : String
  ticker : String := ""
  side : String := ""
  type : String := ""
  status : String := ""
  total : ℚ := 0
  currencyCode : Option String := none
  filledTime : Option String := none
  creationTime : Option String := none
  filledPrice : Option ℚ := none
  filledQuantity : Option ℚ := none
  quantity : Option ℚ := none
  tax : Option ℚ := none
  stampDuty : Option ℚ := none
  executionVenue : Option String := none
  frontend : String := ""
deriving DecidableEq

structure CashData where
  id : String := ""
  reference : String := ""
  type : String := ""
  amountText : String := "0"
  amount : ℚ := 0
  currencyCode : Option String := none
  dateTime : Option String := none
  ticker : String := ""

structure PortfolioItem where
  ticker : String := ""
  quantity : Option ℚ := none
  averagePrice : Option ℚ := none
  currentPrice : Option ℚ := none
  initialFillDate : Option String := none
  currencyCode : Option String := none
  frontend : String := ""
  name : Option String := none

/-- An entry of the instrument master with its texts. -/
abbrev Instrument := List (String × String)

/-- What the provider answers to the requests of one call.  The pages of a history
are those that are linked by `nextPagePath`. -/
structure Answers where
  orderPages : List (List OrderData)
  cashPages : List (List CashData)
  portfolio : List PortfolioItem
  instruments : List Instrument

/-- What the connector takes from the Python runtime. -/
structure Runtime where
  upper : String → String
  /-- `datetime.strptime(text, format)` -/
  strptime : String → String → Option Instant

structure Session where
  accountId : String
  accountCurrency : String

/-! ## What the connector makes of it -/

structure SecurityReference where
  externalId : Option String
  ticker : Option String
  name : Option String
  isin : Option String := none
  venue : Option String := none
  currencyCode : Option String
  securityType : Option String := none
deriving DecidableEq

structure RawTransaction where
  externalTransactionId : String
  externalAccountId : String
  amount : ℚ
  currencyCode : String
  occurredAt : Instant
  bookedAt : Instant
  transactionType : TransactionType
  status : TransactionStatus
  quantity : Option ℚ := none
  unitPrice : Option ℚ := none
  feeAmount : Option ℚ := none
  feeCurrencyCode : Option String := none
  securityReference : Option SecurityReference := none
deriving DecidableEq

structure RawHolding where
  externalAccountId : String
  observedAt : Instant
  quantity : ℚ
  securityReference : SecurityReference
  costBasis : Option ℚ
  marketValue : Option ℚ
  currencyCode : String
  price : Option ℚ
  initialFillDate : Option String

variable (runtime : Runtime) (session : Session)

/-- `value or None` -/
def nonEmpty (text : String) : Option String := if text = "" then none else some text

/-- Return the first non-empty provider metadata value as text. -/
def metadataValue (item : Instrument) (keys : List String) : Option String :=
  keys.findSome? fun key =>
    ((item.lookup key).filter (· ≠ "")).map fun value => String.ofList (strip value.toList)

/-- Parse an ISO-8601 timestamp; any other text is the epoch. -/
def parseDatetime (raw : Option String) : Instant :=
  let cleaned := String.ofList (((raw.getD "").toList.reverse.dropWhile (· = 'Z')).reverse)
  if cleaned = "" then 0
  else
    ((runtime.strptime cleaned "%Y-%m-%dT%H:%M:%S.%f").or
      (runtime.strptime cleaned "%Y-%m-%dT%H:%M:%S")).getD 0

def mapOrderSide (side : String) : TransactionType :=
  if runtime.upper side = "BUY" then .purchase
  else if runtime.upper side = "SELL" then .sale
  else .other

def mapOrderStatus (status : String) : TransactionStatus :=
  if runtime.upper status = "FILLED" then .booked
  else if runtime.upper status ∈ ["CANCELLED", "REJECTED"] then .cancelled
  else .pending

def transactionTypeMap : List (String × TransactionType) :=
  [("DIVIDEND", .dividend), ("DEPOSIT", .deposit), ("WITHDRAWAL", .withdrawal),
    ("INTEREST", .interest), ("FEE", .fee), ("TAX", .tax), ("CASHBACK", .deposit),
    ("LOYALTY_BONUS", .interest), ("SPLIT", .corporateAction),
    ("STOCK_SPLIT", .corporateAction), ("CORPORATE_ACTION", .corporateAction),
    ("CORPORATE-ACTION", .corporateAction)]

def mapTransactionType (type : String) : TransactionType :=
  (transactionTypeMap.lookup (runtime.upper type)).getD .other

/-- `Decimal(str(quantity)) if quantity else None` of the filled quantity or, without
one, of the ordered quantity. -/
def OrderData.units (data : OrderData) : Option ℚ :=
  ((data.filledQuantity.filter (· ≠ 0)).or data.quantity).filter (· ≠ 0)

def OrderData.externalId (data : OrderData) : String := "order_" ++ data.id

/-- The time an order was filled or, as long as it is not, created. -/
def OrderData.occurredAt (data : OrderData) : Instant :=
  if (data.filledTime.filter (· ≠ "")).isSome then parseDatetime runtime data.filledTime
  else parseDatetime runtime data.creationTime

/-- Map a Trading212 order to a raw transaction. -/
def parseOrder (data : OrderData) : RawTransaction :=
  let currency := data.currencyCode.getD "EUR"
  let feeTotal := data.tax.getD 0 + data.stampDuty.getD 0
  { externalTransactionId := data.externalId
    externalAccountId := session.accountId
    amount := if runtime.upper data.side = "BUY" then -data.total else data.total
    currencyCode := currency
    occurredAt := data.occurredAt runtime
    bookedAt := data.occurredAt runtime
    transactionType := mapOrderSide runtime data.side
    status := mapOrderStatus runtime data.status
    quantity := data.units
    unitPrice := data.filledPrice
    feeAmount := if feeTotal = 0 then none else some feeTotal
    feeCurrencyCode := if feeTotal = 0 then none else some currency
    securityReference := (nonEmpty data.ticker).map fun ticker =>
      { externalId := some ticker
        ticker := some ticker
        name := some ticker
        venue := data.executionVenue
        currencyCode := some currency
        securityType := some (if runtime.upper data.frontend = "ETF" then "etf" else "stock") } }

def cashId (data : CashData) : String :=
  if data.id ≠ "" then data.id
  else if data.reference ≠ "" then data.reference
  else "|".intercalate [data.type, data.dateTime.getD "", data.amountText,
    data.currencyCode.getD "", data.ticker]

/-- Map a Trading212 cash transaction to a raw transaction. -/
def parseCashTransaction (data : CashData) : RawTransaction :=
  let canonicalType := mapTransactionType runtime data.type
  let currency := data.currencyCode.getD "EUR"
  let isFee := canonicalType ∈ [.fee, .tax]
  { externalTransactionId := "txn_" ++ cashId data
    externalAccountId := session.accountId
    amount := if canonicalType ∈ [.withdrawal, .fee, .tax] then -|data.amount| else |data.amount|
    currencyCode := currency
    occurredAt := parseDatetime runtime data.dateTime
    bookedAt := parseDatetime runtime data.dateTime
    transactionType := canonicalType
    status := .booked
    feeAmount := if isFee then some |data.amount| else none
    feeCurrencyCode := if isFee then some currency else none
    securityReference := (nonEmpty data.ticker).map fun ticker =>
      { externalId := some ticker
        ticker := some ticker
        name := some ticker
        currencyCode := some currency } }

/-! ## Histories -/

/-- The loop over the pages of a history.  It ends at the limit and after a page
that reaches back before `since`. -/
def fetchHistory {Item : Type} (parse : Item → RawTransaction) (since : Instant)
    (limit : Option Nat) : List RawTransaction → List (List Item) → List RawTransaction
  | items, [] => items
  | items, page :: rest =>
      let parsed := page.map parse
      let items := items ++ parsed.filter fun txn => since ≤ txn.occurredAt
      match limit.filter (fun limit => limit ≠ 0 ∧ limit ≤ items.length) with
      | some limit => items.take limit
      | none =>
          if parsed.any fun txn => txn.occurredAt < since then items
          else fetchHistory parse since limit items rest

/-! ## Holdings -/

/-- The readable ticker, the name and the venue of an instrument. -/
def normaliseInstrument (ticker : String) : String × String × Option String :=
  let key := runtime.upper ticker
  if key = "BESIA_EQ" then ("BESI:XAMS", "BE Semiconductor Industries", some "XAMS")
  else if "A_EQ".toList <:+ key.toList ∧ 4 < key.toList.length then
    (String.ofList (key.toList.take (key.toList.length - 4)) ++ ":XAMS", ticker, some "XAMS")
  else (ticker, ticker, none)

/-- London instruments are quoted in pence. -/
def priceScale (ticker : String) : ℚ :=
  if "L_EQ".toList <:+ (runtime.upper ticker).toList then 1 / 100 else 1

/-- The instrument master by ticker; of several entries the last one counts. -/
def instrumentOf (instruments : List Instrument) (ticker : String) : Instrument :=
  (instruments.reverse.find? fun item =>
    runtime.upper (((item.lookup "ticker").filter (· ≠ "")).getD
      ((item.lookup "symbol").getD "")) = runtime.upper ticker).getD []

def fetchInstruments (instruments : List Instrument) : Except String (List Instrument) :=
  if instruments = [] then .error "Trading212 instrument metadata is empty or invalid"
  else .ok instruments

/-- Map an item of the portfolio to a holding. -/
def parseHolding (instruments : List Instrument) (observedAt : Instant) (item : PortfolioItem) :
    RawHolding :=
  let ticker := String.ofList (strip item.ticker.toList)
  let instrument := instrumentOf runtime instruments ticker
  let (publicTicker, displayName, venue) := normaliseInstrument runtime ticker
  let quantity := item.quantity.getD 0
  let averagePrice := item.averagePrice.map (· * priceScale runtime ticker)
  let currentPrice := item.currentPrice.map (· * priceScale runtime ticker)
  let currency :=
    (((item.currencyCode.filter (· ≠ "")).or
      ((instrument.lookup "currencyCode").filter (· ≠ ""))).or
      ((instrument.lookup "currency").filter (· ≠ ""))).getD session.accountCurrency
  { externalAccountId := session.accountId
    observedAt
    quantity
    securityReference :=
      { externalId := nonEmpty ticker
        ticker := (((metadataValue instrument ["ticker", "symbol"]).filter (· ≠ "")).or
          (nonEmpty publicTicker)).or (nonEmpty ticker)
        name := ((metadataValue instrument ["name", "shortName"]).filter (· ≠ "")).or
          (some (if displayName ≠ ticker then displayName
            else ((item.name.filter (· ≠ "")).or (nonEmpty displayName)).getD "None"))
        isin := metadataValue instrument ["isin", "ISIN"]
        venue := ((metadataValue instrument ["exchange", "exchangeCode", "venue"]).filter
          (· ≠ "")).or venue
        currencyCode := some currency
        securityType :=
          some (if runtime.upper item.frontend = "ETF" then "etf" else "stock") }
    costBasis := averagePrice.map (· * quantity)
    marketValue := currentPrice.map (· * quantity)
    currencyCode := currency
    price := currentPrice
    initialFillDate := item.initialFillDate }

def fetchHoldings (answers : Answers) (now : Instant) : Except String (List RawHolding) := do
  let instruments ← fetchInstruments answers.instruments
  .ok (answers.portfolio.map (parseHolding runtime session instruments now))

/-! ## `fetch_transactions` -/

/-- The opening purchase of a holding with a quantity and a cost basis. -/
def openingTransaction (holding : RawHolding) : Option RawTransaction :=
  match holding.costBasis with
  | none => none
  | some costBasis =>
      if holding.quantity ≤ 0 then none
      else
        let occurredAt :=
          if (holding.initialFillDate.filter (· ≠ "")).isSome then
            parseDatetime runtime holding.initialFillDate
          else holding.observedAt
        let ticker :=
          (holding.securityReference.ticker.or holding.securityReference.externalId).getD "holding"
        let safeTicker := String.ofList (ticker.toList.map fun char =>
          if char = '/' then '_' else char)
        some
          { externalTransactionId := "opening_" ++ safeTicker
            externalAccountId := holding.externalAccountId
            amount := -costBasis
            currencyCode := holding.currencyCode
            occurredAt
            bookedAt := occurredAt
            transactionType := .purchase
            status := .booked
            quantity := some holding.quantity
            unitPrice := some (costBasis / holding.quantity)
            securityReference := some holding.securityReference }

/-- Add the identifiers of the instrument master to a transaction. -/
def enrichTransactionSecurity (instruments : List Instrument) (txn : RawTransaction) :
    RawTransaction :=
  match txn.securityReference with
  | none => txn
  | some reference =>
      match reference.ticker.filter (· ≠ "") with
      | none => txn
      | some ticker =>
          let item := instrumentOf runtime instruments ticker
          let orKept (keys : List String) (kept : Option String) : Option String :=
            ((metadataValue item keys).filter (· ≠ "")).or kept
          { txn with
            securityReference := some
              { reference with
                isin := orKept ["isin", "ISIN"] reference.isin
                name := orKept ["name", "shortName"] reference.name
                venue := orKept ["exchange", "exchangeCode", "venue"] reference.venue
                currencyCode := orKept ["currencyCode", "currency"] reference.currencyCode } }

/-- The most recent transaction first. -/
def sortChronologically (txns : List RawTransaction) : List RawTransaction :=
  txns.insertionSort fun first second => second.occurredAt ≤ first.occurredAt

def fetchTransactions (answers : Answers) (now since : Instant) (accountId : Option String)
    (limit : Option Nat) (upTo : Option Instant) : Except String (List RawTransaction) :=
  if accountId.any (· ≠ session.accountId) then .ok []
  else if upTo.any (· ≤ since) then
    .error "Trading212 date range invalid: 'to' must be after 'since'"
  else do
    let orderTxns := fetchHistory (parseOrder runtime session) since limit [] answers.orderPages
    let cashTxns :=
      fetchHistory (parseCashTransaction runtime session) since limit [] answers.cashPages
    let openingTxns ←
      if orderTxns = [] ∧ upTo.all (now ≤ ·) then do
        let holdings ← fetchHoldings runtime session answers now
        .ok (holdings.filterMap (openingTransaction runtime))
      else .ok []
    let instruments ← fetchInstruments answers.instruments
    let allTxns := (orderTxns ++ openingTxns ++ cashTxns).map
      (enrichTransactionSecurity runtime instruments)
    let sorted := sortChronologically (Lib.firsts RawTransaction.externalTransactionId allTxns)
    .ok (match limit.filter fun limit => limit ≠ 0 ∧ limit < sorted.length with
      | some limit => sorted.take limit
      | none => sorted)

end FinanceSync.Trading212
