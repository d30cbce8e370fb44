import FinanceSync.Data.Enums
import FinanceSync.Data.Values
import FinanceSync.Lib.FirstByKey
import FinanceSync.Lib.Table
import Mathlib.Data.Prod.Lex

/-!
# Ghostfolio exporter

The transactions and the holdings of a tenant as activities of Ghostfolio, and the
client that imports them one at a time.
-/

namespace FinanceSync.Ghostfolio

/-! ## The tenant's rows -/

structure Security where
  id : Uuid
  ticker : Option String := none
  isin : Option String := none

structure Transaction where
  id : Uuid
  accountId : Uuid
  externalTransactionId : String
  transactionType : TransactionType
  status : TransactionStatus
  /-- `export_status == "active"` -/
  exportActive : Bool := true
  occurredAt : Instant
  amount : ℚ
  currencyCode : String
  description : Option String := none
  securityId : Option Uuid := none
  quantity : Option ℚ := none
  unitPrice : Option ℚ := none
  feeAmount : Option ℚ := none

structure Holding where
  id : Uuid
  accountId : Uuid
  securityId : Uuid
  observedAt : Instant
  quantity : ℚ
  marketValue : Option ℚ := none
  price : Option ℚ := none
  currencyCode : String
deriving DecidableEq

/-- The rows of a tenant with the keys that the database keeps unique. -/
structure TenantData where
  transactions : List Transaction
  holdings : List Holding
  securities : List Security
  transactionIds : (transactions.map Transaction.id).Nodup
  holdingIds : (holdings.map Holding.id).Nodup
  observedOnce : (holdings.map fun holding =>
    (holding.accountId, holding.securityId, holding.observedAt)).Nodup

structure Config where
  dataSource : String := "YAHOO"
  includePending : Bool := false
  syncTransactions : Bool := true

/-- `Transaction.occurred_at, Transaction.id` -/
def transactionKey (txn : Transaction) : Instant ×ₗ Uuid := toLex (txn.occurredAt, txn.id)

/-- `Holding.security_id, Holding.observed_at.desc()` -/
def holdingKey (holding : Holding) : Uuid ×ₗ Int := toLex (holding.securityId, -holding.observedAt)

/-- What the exporter takes from the Python runtime and the database. -/
structure Runtime where
  uuidText : Uuid → String
  isoformat : Instant → String
  upper : String → String
  /-- The number that JSON carries for `float(number)`. -/
  throughFloat : ℚ → ℚ
  transactionOrder : Lib.OrderBy transactionKey
  holdingOrder : Lib.OrderBy holdingKey

/-! ## Activities -/

inductive ActivityType
  | buy
  | sell
  | dividend
  | fee
  | interest
deriving DecidableEq, Inhabited

structure Activity where
  currency : String
  dataSource : String
  date : String
  fee : ℚ
  quantity : ℚ
  symbol : String
  type : ActivityType
  unitPrice : ℚ
  comment : String
  accountId : Option String := none
deriving DecidableEq, Inhabited

def typeMap : TransactionType → Option ActivityType
  | .purchase => some .buy
  | .sale => some .sell
  | .dividend => some .dividend
  | .fee | .payment | .tax => some .fee
  | .interest => some .interest
  | _ => none

/-- `(security.ticker or security.isin) if security else None` -/
def symbolOf (security : Option Security) : Option String :=
  security.bind fun security =>
    (security.ticker.filter (· ≠ "")).or (security.isin.filter (· ≠ ""))

/-- The types whose amount stands for a missing price. -/
def isCashType (type : TransactionType) : Bool :=
  type ∈ [.fee, .payment, .tax, .interest, .dividend]

variable (runtime : Runtime)

/-- `abs(Decimal(txn.quantity or 1))` -/
def Transaction.units (txn : Transaction) : ℚ := |(txn.quantity.filter (· ≠ 0)).getD 1|

def mapTransaction (txn : Transaction) (security : Option Security) (dataSource : String) :
    Except String Activity :=
  match typeMap txn.transactionType with
  | none =>
      .error ("Ghostfolio does not support transaction type " ++
        Json.quote (StrEnum.value txn.transactionType))
  | some activityType =>
      let ticker := (security.bind Security.ticker).filter (· ≠ "")
      let symbol :=
        match ticker with
        | some ticker =>
            if ':' ∈ ticker.toList ∧ runtime.upper dataSource = "YAHOO" then
              some (String.ofList (ticker.toList.takeWhile (· ≠ ':')))
            else some ticker
        | none => symbolOf security
      let symbol := symbol.filter (· ≠ "")
      let unitPrice := |txn.unitPrice.getD 0|
      .ok
        { currency := txn.currencyCode
          dataSource := if symbol.isSome then dataSource else "MANUAL"
          date := runtime.isoformat txn.occurredAt
          fee := runtime.throughFloat |txn.feeAmount.getD 0|
          quantity := runtime.throughFloat txn.units
          symbol := symbol.getD ((txn.description.filter (· ≠ "")).getD
            ("FINANCE-SYNC-" ++ txn.externalTransactionId))
          type := activityType
          unitPrice := runtime.throughFloat
            (if unitPrice = 0 ∧ isCashType txn.transactionType then |txn.amount| else unitPrice)
          comment := "finance-sync:" ++ runtime.uuidText txn.id ++ ":" ++
            txn.externalTransactionId }

/-- Map a current position to a BUY activity. -/
def mapHolding (holding : Holding) (security : Option Security) (dataSource : String)
    (ghostfolioAccountId : Option String) : Except String Activity :=
  match symbolOf security with
  | none => .error "Ghostfolio holdings require a security symbol"
  | some symbol =>
      let quantity := |holding.quantity|
      if quantity = 0 then .error "Ghostfolio holdings require a non-zero quantity"
      else
        match (holding.marketValue.map (· / quantity)).or holding.price with
        | none => .error "Ghostfolio holdings require a market price"
        | some unitPrice =>
            .ok
              { currency := holding.currencyCode
                dataSource
                date := runtime.isoformat holding.observedAt
                fee := 0
                quantity := runtime.throughFloat quantity
                symbol
                type := .buy
                unitPrice := runtime.throughFloat |unitPrice|
                comment := "finance-sync:holding:" ++ runtime.uuidText holding.id
                accountId := ghostfolioAccountId.filter (· ≠ "") }

/-! ## The client -/

/-- The account and the security of the row that an activity is made of. -/
abbrev Position := Uuid × Option Uuid

/-- An activity with its position, which Ghostfolio is not told. -/
structure Entry where
  position : Position
  activity : Activity
deriving DecidableEq, Inhabited

inductive Response
  | imported
  | duplicate
  | unauthorized
  | rejected

/-- How the server answers to an activity, given those it has. -/
abbrev Server := List Activity → Activity → Response

structure ImportResult where
  imported : Nat := 0
  skipped : Nat := 0
  failures : List Activity := []

/-- `import_activities`: the server's activities after it, and the counts unless the
server refuses the token. -/
def importActivities (server : Server) :
    List Entry → ImportResult → List Entry → List Entry × Except String ImportResult
  | stored, result, [] => (stored, .ok result)
  | stored, result, entry :: rest =>
      match server (stored.map Entry.activity) entry.activity with
      | .imported =>
          importActivities server (stored ++ [entry])
            { result with imported := result.imported + 1 } rest
      | .duplicate =>
          importActivities server stored { result with skipped := result.skipped + 1 } rest
      | .unauthorized => (stored, .error "Ghostfolio authentication failed")
      | .rejected =>
          importActivities server stored
            { result with failures := result.failures ++ [entry.activity] } rest

/-! ## `run_export` -/

/-- One run with the tenant's rows at that time. -/
structure ExportRun where
  data : TenantData
  config : Config := {}
  since : Instant
  accountIds : List Uuid := []
  maxTransactions : Nat := 0

structure Report where
  status : String
  transactionsAttempted : Nat
  holdingsAttempted : Nat
  transactions : ImportResult
  holdings : ImportResult

def ofAccounts (accountIds : List Uuid) (accountId : Uuid) : Bool :=
  accountIds = [] || accountId ∈ accountIds

/-- The transactions that are exported, in order. -/
def ExportRun.txns (run : ExportRun) : List Transaction :=
  let statuses : List TransactionStatus :=
    if run.config.includePending then [.booked, .pending] else [.booked]
  let selected := runtime.transactionOrder.sort (run.data.transactions.filter fun txn =>
    txn.status ∈ statuses && txn.exportActive && run.since ≤ txn.occurredAt &&
      ofAccounts run.accountIds txn.accountId)
  if run.maxTransactions = 0 then selected else selected.take run.maxTransactions

/-- The most recently observed holding of each security. -/
def ExportRun.holdings (run : ExportRun) : List Holding :=
  Lib.firsts Holding.securityId (runtime.holdingOrder.sort (run.data.holdings.filter fun holding =>
    ofAccounts run.accountIds holding.accountId))

/-- `securities.get(id)` -/
def ExportRun.security (run : ExportRun) (id : Option Uuid) : Option Security :=
  id.bind fun id => run.data.securities.find? fun security => security.id = id

def transactionEntry (run : ExportRun) (txn : Transaction) : Except String Entry :=
  (mapTransaction runtime txn (run.security txn.securityId) run.config.dataSource).map
    fun activity => ⟨(txn.accountId, txn.securityId), activity⟩

def holdingEntry (run : ExportRun) (holding : Holding) : Except String Entry :=
  (mapHolding runtime holding (run.security (some holding.securityId)) "MANUAL"
    (some (runtime.uuidText holding.accountId))).map
    fun activity => ⟨(holding.accountId, some holding.securityId), activity⟩

def ExportRun.exported (run : ExportRun) : List Transaction :=
  if run.config.syncTransactions then run.txns runtime else []

/-- The server's activities after a run, and the report unless the run aborts. -/
def runExport (server : Server) (stored : List Entry) (run : ExportRun) :
    List Entry × Except String Report :=
  match (run.exported runtime).mapM (transactionEntry runtime run) with
  | .error message => (stored, .error message)
  | .ok activities =>
      match importActivities server stored {} activities with
      | (stored, .error message) => (stored, .error message)
      | (stored, .ok result) =>
          match (run.holdings runtime).mapM (holdingEntry runtime run) with
          | .error message => (stored, .error message)
          | .ok holdingActivities =>
              match importActivities server stored {} holdingActivities with
              | (stored, .error message) => (stored, .error message)
              | (stored, .ok holdingResult) =>
                  (stored, .ok
                    { status :=
                        if result.failures = [] ∧ holdingResult.failures = [] then "completed"
                        else "failed"
                      transactionsAttempted := (run.txns runtime).length
                      holdingsAttempted := (run.holdings runtime).length
                      transactions := result
                      holdings := holdingResult })

end FinanceSync.Ghostfolio
