import FinanceSync.Data.Enums
import FinanceSync.Wealthfolio.Formatting

/-!
# Canonical transactions as Wealthfolio activities

A canonical transaction becomes one row of Wealthfolio's activity format.  The
row has no sign: what is an inflow and what an outflow is left to the type of the
activity.
-/

namespace FinanceSync.Wealthfolio

/-! ## Canonical records -/

/-- A canonical transaction, restricted to the columns the exporter reads. -/
structure Transaction where
  id : String
  tenantId : String
  providerKey : String
  connectionId : Option String := none
  externalTransactionId : String
  accountId : String
  securityId : Option String := none
  amount : ℚ
  currencyCode : String
  amountInBase : Option ℚ := none
  baseCurrencyCode : Option String := none
  fxRate : Option ℚ := none
  providerMetadata : Option (List (String × Json)) := none
  quantity : Option ℚ := none
  unitPrice : Option ℚ := none
  feeAmount : Option ℚ := none
  feeCurrencyCode : Option String := none
  occurredAt : Instant
  bookedAt : Option Instant := none
  transactionType : TransactionType
  description : Option String := none
  status : TransactionStatus := .pending
  exportStatus : String := "active"
  providerMetadataContract : Option Json := none
  counterpartyAccountReference : Option String := none

/-- A canonical financial instrument. -/
structure Security where
  id : String
  isin : Option String
  ticker : Option String
  name : String
  securityType : String

/-- Wealthfolio's closed set of activity types. -/
inductive ActivityType
  | buy
  | sell
  | deposit
  | withdrawal
  | dividend
  | interest
  | fee
  | tax
  | transferIn
  | transferOut
  | split
  | credit
  | adjustment
  | unknown
deriving DecidableEq, Repr

/-- Overrides of the instrument types, the currencies and the run of an export. -/
structure MappingOptions where
  instrumentTypeMap : List (String × String) := []
  defaultCurrency : String := "EUR"
  accountCurrency : Option String := none
  allowMultiCurrencyCash : Bool := false
  importRunId : Option String := none

/-- A row of the activity format. -/
structure WfRow where
  date : Int
  symbol : String
  instrumentType : String
  quantity : String
  activityType : ActivityType
  unitPrice : String
  currency : String
  fee : String
  amount : String
  fxRate : String
  settlementDate : Option Instant
  status : String
  needsReview : Bool
  tax : String
  sourceType : String
  subtype : String
  grossAmount : String
  netAmount : String
  sourceSystem : String
  sourceRecordId : String
  sourceGroupId : String
  idempotencyKey : String
  importRunId : String
  comment : String
  isin : String
deriving DecidableEq

/-- `first or second or ""` -/
def orText (first second : Option String) : String :=
  match first with
  | some "" | none => second.getD ""
  | some text => text

/-! ## Types -/

def defaultInstrumentTypeMap : List (String × String) :=
  [("stock", "EQUITY"), ("etf", "ETF"), ("mutual_fund", "MUTUAL_FUND"), ("bond", "BOND"),
    ("crypto", "CRYPTO"), ("currency", "CURRENCY"), ("option", "OPTION"), ("other", "OTHER"),
    ("index", "EQUITY"), ("benchmark", "EQUITY")]

def transactionTypeMap : List (String × ActivityType) :=
  [("purchase", .buy), ("sale", .sell), ("deposit", .deposit), ("withdrawal", .withdrawal),
    ("dividend", .dividend), ("interest", .interest), ("fee", .fee), ("tax", .tax),
    ("payment", .fee), ("card_payment", .fee), ("scheduled_payment", .fee), ("split", .split),
    ("corporate_action", .adjustment), ("merger", .adjustment), ("spin_off", .adjustment),
    ("return_of_capital", .adjustment), ("ticker_change", .adjustment),
    ("isin_change", .adjustment), ("adjustment", .adjustment), ("other", .credit),
    ("transfer", .transferIn)]

/-- Map canonical transaction type to Wealthfolio activity type.  Only `other`
and `transfer` look at the sign of the amount. -/
def resolveActivityType (txn : Transaction) : ActivityType :=
  let baseType := (transactionTypeMap.lookup (StrEnum.value txn.transactionType)).getD .unknown
  if txn.transactionType = .other then
    if 0 ≤ txn.amount then .deposit else .withdrawal
  else if txn.transactionType = .transfer then
    if 0 ≤ txn.amount then .transferIn else .transferOut
  else if txn.transactionType = .fee then .fee
  else baseType

/-- The symbol and the instrument type of the row; both are blank for cash. -/
def resolveSecurityInfo (security : Option Security) (activityType : ActivityType)
    (instrMap : List (String × String)) : Except MappingError (String × String) :=
  if activityType ∈ [.deposit, .withdrawal, .tax, .credit, .unknown] then .ok ("", "")
  else if activityType = .fee ∧ security.isNone then .ok ("", "")
  else if activityType ∈ [.interest, .transferIn, .transferOut] ∧ security.isNone then
    .ok ("", "")
  else
    match security with
    | some security =>
        let symbol := orText security.ticker security.isin
        if symbol = "" then
          .error (.unresolvedSecurity "Security heeft geen opgeloste ISIN of ticker.")
        else .ok (symbol, (instrMap.lookup security.securityType).getD "OTHER")
    | none =>
        .error (.unresolvedSecurity "Beleggingstransactie wacht op security-resolutie.")

/-! ## Numbers -/

/-- `abs(number or Decimal(1))` -/
def absOrOne (number : Option ℚ) : ℚ :=
  match number with
  | some number => if number = 0 then 1 else |number|
  | none => 1

/-- The quantity and the unit price of the row. -/
def resolveQuantityPrice (txn : Transaction) (activityType : ActivityType)
    (security : Option Security) : Except MappingError (ℚ × ℚ) :=
  if activityType ∈ [.deposit, .withdrawal, .tax, .credit] then .ok (1, 1)
  else if activityType = .interest ∧ security.isNone then .ok (1, 1)
  else if activityType = .fee ∧ security.isNone then .ok (1, 1)
  else if activityType ∈ [.transferIn, .transferOut] ∧ security.isNone then .ok (1, 1)
  else if activityType ∈ [.buy, .sell] then
    match txn.quantity with
    | none => .error (.valueError "Trade heeft geen geldige quantity.")
    | some quantity =>
        if quantity = 0 then .error (.valueError "Trade heeft geen geldige quantity.")
        else
          let unitPrice :=
            match txn.unitPrice with
            | some price => if price ≤ 0 then |txn.amount| / |quantity| else price
            | none => |txn.amount| / |quantity|
          if unitPrice ≤ 0 then .error (.valueError "Trade heeft geen geldige unit price.")
          else .ok (|quantity|, |unitPrice|)
  else if activityType = .split then .ok (1, 1)
  else if activityType = .adjustment then .ok (absOrOne txn.quantity, absOrOne txn.unitPrice)
  else if activityType = .dividend then .ok (absOrOne txn.quantity, |txn.amount|)
  else .ok (1, |txn.amount|)

/-- The cash amount; a trade has none. -/
def resolveAmount (txn : Transaction) (activityType : ActivityType) : Option ℚ :=
  if activityType ∈ [.dividend, .interest, .deposit, .withdrawal, .fee, .tax, .credit, .unknown,
      .split, .adjustment] then
    some |txn.amount|
  else if activityType ∈ [.transferIn, .transferOut] then some |txn.amount|
  else none

/-- The activity types that move cash of the account. -/
def cashActivityTypes : List ActivityType :=
  [.dividend, .interest, .deposit, .withdrawal, .fee, .tax, .credit, .unknown, .split,
    .adjustment, .transferIn, .transferOut]

/-- `(txn.currency_code or default_currency).upper()` -/
def sourceCurrency (txn : Transaction) (options : MappingOptions) : String :=
  (orText (some txn.currencyCode) (some options.defaultCurrency)).toUpper

/-- `(account_currency or source_currency).upper()` -/
def destinationCurrency (txn : Transaction) (options : MappingOptions) : String :=
  (orText options.accountCurrency (some (sourceCurrency txn options))).toUpper

structure CashProjection where
  currency : String
  amount : Option ℚ
  fxRate : Option ℚ

/-- Destination currency, amount and optional projection FX rate.  An amount in
another currency is never taken over at par. -/
def resolveCashProjection (txn : Transaction) (activityType : ActivityType)
    (options : MappingOptions) : Except MappingError CashProjection :=
  let source := sourceCurrency txn options
  let destination := destinationCurrency txn options
  let unprojected : CashProjection := ⟨source, resolveAmount txn activityType, none⟩
  if activityType ∉ cashActivityTypes ∨ options.accountCurrency.getD "" = "" then .ok unprojected
  else if source = destination ∨ options.allowMultiCurrencyCash then .ok unprojected
  else
    match txn.amountInBase with
    | some amountInBase =>
        if (txn.baseCurrencyCode.getD "").toUpper = destination then
          .ok ⟨destination, some |amountInBase|, none⟩
        else withRate source destination
    | none => withRate source destination
where
  withRate (source destination : String) : Except MappingError CashProjection :=
    match txn.fxRate with
    | some rate =>
        if rate = 0 then .error (missing source destination)
        else .ok ⟨destination, some (|txn.amount| / |rate|), some rate⟩
    | none => .error (missing source destination)
  missing (source destination : String) : MappingError :=
    .unresolvedCashCurrency ("Geen " ++ destination ++ "-waarde of FX-koers voor " ++ source ++
      "-cashactiviteit " ++ txn.externalTransactionId ++ ".")

/-- The fee that is attached to a trade, in the currency of the trade. -/
def resolveFee (txn : Transaction) : ℚ :=
  if txn.transactionType = .purchase ∨ txn.transactionType = .sale then
    let fee := |txn.feeAmount.getD 0|
    match txn.fxRate with
    | some rate =>
        if txn.feeCurrencyCode.getD "" ≠ "" ∧ txn.feeCurrencyCode ≠ some txn.currencyCode ∧
            txn.feeCurrencyCode = txn.baseCurrencyCode then
          fee * rate
        else fee
    | none => fee
  else 0

/-- Return the FX rate if multi-currency. -/
def resolveFxRate (txn : Transaction) : Option ℚ :=
  if some txn.currencyCode ≠ txn.baseCurrencyCode then txn.fxRate else none

/-- `projected_fx_rate or _resolve_fx_rate(txn)` -/
def exportedFxRate (txn : Transaction) (projection : CashProjection) : Option ℚ :=
  match projection.fxRate with
  | some rate => if rate = 0 then resolveFxRate txn else some rate
  | none => resolveFxRate txn

/-! ## Identity -/

def resolveStatus (txn : Transaction) : String × Bool :=
  match txn.status with
  | .pending => ("PENDING", true)
  | .reversed | .cancelled => ("VOID", true)
  | .booked => ("POSTED", false)

def sourceType (txn : Transaction) : String :=
  if txn.transactionType = .tax then "WITHHOLDING_TAX"
  else (StrEnum.value txn.transactionType).toUpper

def activitySubtype (txn : Transaction) : String :=
  match txn.transactionType with
  | .dividend => "CASH_DIVIDEND"
  | .tax => "WITHHOLDING_TAX"
  | .split => "SPLIT"
  | .corporateAction => (StrEnum.value txn.transactionType).toUpper
  | _ => ""

section Row

variable (sha256 : String → String)

/-- Build a stable key that survives provider revisions and re-syncs. -/
def idempotencyKey (txn : Transaction) : String :=
  sha256 ("|".intercalate [txn.tenantId, txn.providerKey, txn.connectionId.getD "", txn.accountId,
    txn.externalTransactionId])

/-- Build a comment string for Wealthfolio: the description of the provider and
the external transaction ID. -/
def buildComment (txn : Transaction) : String :=
  let description := txn.description.getD ""
  " | ".intercalate
    ((if description = "" then [] else [description]) ++
      (if txn.externalTransactionId = "" then [] else ["ID: " ++ txn.externalTransactionId]))

/-- Convert a canonical transaction into a Wealthfolio activity row. -/
def mapTransactionToWfRow (options : MappingOptions) (security : Option Security)
    (txn : Transaction) : Except MappingError WfRow := do
  let activityType := resolveActivityType txn
  let instrMap := options.instrumentTypeMap ++ defaultInstrumentTypeMap
  let (symbol, instrumentType) ← resolveSecurityInfo security activityType instrMap
  let (quantity, unitPrice) ← resolveQuantityPrice txn activityType security
  let projection ← resolveCashProjection txn activityType options
  let (status, needsReview) := resolveStatus txn
  let dividendAmount := if txn.transactionType = .dividend then some |txn.amount| else none
  return {
    date := Instant.date txn.occurredAt
    symbol
    instrumentType
    quantity := ← fmtDecimal (some quantity)
    activityType
    unitPrice := ← fmtDecimal (some unitPrice)
    currency := projection.currency
    fee := ← fmtDecimal (some (resolveFee txn))
    amount := ← fmtDecimal projection.amount
    fxRate := ← fmtDecimal (exportedFxRate txn projection)
    settlementDate := txn.bookedAt
    status
    needsReview
    tax := ← fmtDecimal (if txn.transactionType = .tax then some |txn.amount| else none)
    sourceType := sourceType txn
    subtype := activitySubtype txn
    grossAmount := ← fmtDecimal dividendAmount
    netAmount := ← fmtDecimal dividendAmount
    sourceSystem := "FINANCE_SYNC"
    sourceRecordId := txn.externalTransactionId
    sourceGroupId := txn.providerKey ++ ":" ++ txn.accountId
    idempotencyKey := idempotencyKey sha256 txn
    importRunId := options.importRunId.getD ""
    comment := buildComment txn
    isin := (security.bind Security.isin).getD "" }

/-- What is known of an exported row: the resolved numbers and their texts. -/
structure RowOf (options : MappingOptions) (security : Option Security) (txn : Transaction)
    (row : WfRow) (quantity unitPrice : ℚ) (projection : CashProjection) : Prop where
  resolved : resolveQuantityPrice txn (resolveActivityType txn) security = .ok (quantity, unitPrice)
  projected : resolveCashProjection txn (resolveActivityType txn) options = .ok projection
  activityType : row.activityType = resolveActivityType txn
  quantity : fmtDecimal (some quantity) = .ok row.quantity
  unitPrice : fmtDecimal (some unitPrice) = .ok row.unitPrice
  fee : fmtDecimal (some (resolveFee txn)) = .ok row.fee
  amount : fmtDecimal projection.amount = .ok row.amount
  fxRate : fmtDecimal (exportedFxRate txn projection) = .ok row.fxRate
  tax : fmtDecimal (if txn.transactionType = .tax then some |txn.amount| else none) = .ok row.tax
  sourceRecordId : row.sourceRecordId = txn.externalTransactionId
  idempotencyKey : row.idempotencyKey = idempotencyKey sha256 txn
  comment : row.comment = buildComment txn

theorem rowOf_of_ok {options : MappingOptions} {security : Option Security} {txn : Transaction}
    {row : WfRow} (exported : mapTransactionToWfRow sha256 options security txn = .ok row) :
    ∃ quantity unitPrice projection,
      RowOf sha256 options security txn row quantity unitPrice projection := by
  simp only [mapTransactionToWfRow, Lib.bind_eq_ok] at exported
  obtain ⟨info, -, ⟨quantity, unitPrice⟩, resolved, projection, projected, exported⟩ := exported
  obtain ⟨quantityText, isQuantity, priceText, isPrice, feeText, isFee, amountText, isAmount,
    rateText, isRate, taxText, isTax, grossText, -, netText, -, isRow⟩ := exported
  cases isRow
  exact ⟨quantity, unitPrice, projection,
    { resolved
      projected
      activityType := rfl
      quantity := isQuantity
      unitPrice := isPrice
      fee := isFee
      amount := isAmount
      fxRate := isRate
      tax := isTax
      sourceRecordId := rfl
      idempotencyKey := rfl
      comment := rfl }⟩

end Row

end FinanceSync.Wealthfolio
