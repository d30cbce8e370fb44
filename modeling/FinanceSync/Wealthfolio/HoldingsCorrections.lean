import FinanceSync.Lib.FirstFit
import FinanceSync.Wealthfolio.HoldingRows

/-!
# Corrections of holdings

Wealthfolio derives positions from activities.  Where a position differs from the
snapshot of the broker, a purchase or a sale at price zero corrects its quantity.
Rows and positions are told apart by the symbols and ISINs they are known under.
-/

namespace FinanceSync.Wealthfolio

open Lib

/-! ## Positions of the destination -/

structure Instrument where
  id : Option String := none
  symbol : Option String := none
  isin : Option String := none
  displayCode : Option String := none
  instrumentType : Option String := none
deriving DecidableEq

/-- A row of `holdings/list`. -/
structure RemoteRow where
  symbol : Option String := none
  isin : Option String := none
  displayCode : Option String := none
  instrument : Option Instrument := none
  quantity : ℚ
  currency : Option String := none
  holdingType : Option String := none
  assetId : Option String := none
  /-- The market value in the base currency. -/
  marketValue : Option ℚ := none
deriving DecidableEq

namespace RemoteRow

/-- The instrument, where an empty dict stands for none. -/
def instrumentOf (row : RemoteRow) : Instrument := row.instrument.getD {}

/-- Return whether a Wealthfolio holding is the synthetic cash row. -/
def isCash (row : RemoteRow) : Bool :=
  (row.holdingType.getD "").toLower = "cash" ||
    "cash:".toList.isPrefixOf (row.instrumentOf.id.getD "").toList

end RemoteRow

/-- A row of the current positions with the keys of a remote row. -/
def HoldingRow.asRemote (row : HoldingRow) : RemoteRow where
  symbol := some row.symbol
  isin := some row.isin
  quantity := quantityOf row.quantity
  currency := some row.currency

/-- `{**first, **second}` -/
def RemoteRow.updated (first second : RemoteRow) : RemoteRow where
  symbol := second.symbol.or first.symbol
  isin := second.isin.or first.isin
  displayCode := second.displayCode.or first.displayCode
  instrument := second.instrument.or first.instrument
  quantity := second.quantity
  currency := second.currency.or first.currency
  holdingType := second.holdingType.or first.holdingType
  assetId := second.assetId.or first.assetId
  marketValue := second.marketValue.or first.marketValue

/-! ## Identities -/

def looksLikeIsin (value : List Char) : Bool :=
  value.length = 12 && (value.take 2).all Char.isAlpha && (value.drop 2).all Char.isAlphanum

/-- The symbol that Wealthfolio exposes: exchange-qualified tickers lose what
follows the first point, ISINs are left untouched. -/
def normaliseWealthfolioSymbol (symbol : String) : String :=
  let value := (strip symbol.toList).map Char.toUpper
  String.ofList (if looksLikeIsin value then value else value.takeWhile (· ≠ '.'))

/-- The identities among some optional texts. -/
def identitiesOf (values : List (Option String)) : List String :=
  (values.filterMap fun value => value.filter (· ≠ "")).map normaliseWealthfolioSymbol

/-- The names under which a row can be found. -/
def aliases (row : RemoteRow) : List String :=
  identitiesOf [row.symbol, row.isin, row.displayCode, row.instrumentOf.symbol,
    row.instrumentOf.isin, row.instrumentOf.displayCode]

/-- `next(iter(sorted(names)))` -/
def smallest : List String → String
  | [] => ""
  | first :: rest => rest.foldl (fun least name => if name < least then name else least) first

/-- A row with its names, its quantity in hundredths and its place in the list. -/
structure Entry where
  row : RemoteRow
  names : List String
  quantity : Int
  place : Nat
deriving DecidableEq

/-- `source_aliases & remote_aliases` -/
def shareName (source remote : Entry) : Bool := source.names.any (· ∈ remote.names)

/-- The row as an entry; rows without a name are left out. -/
def entryOf (row : RemoteRow) (place : Nat) : Option Entry :=
  if aliases row = [] then none
  else some { row, names := aliases row, quantity := cents row.quantity, place }

/-- A position as an entry; cash is left out. -/
def remoteEntry (row : RemoteRow) (place : Nat) : Option Entry :=
  if row.isCash then none else entryOf row place

def sourceEntries (sourceRows : List HoldingRow) : List Entry :=
  sourceRows.zipIdx.filterMap fun indexed => entryOf indexed.1.asRemote indexed.2

def remoteEntries (remoteRows : List RemoteRow) : List Entry :=
  remoteRows.zipIdx.filterMap fun indexed => remoteEntry indexed.1 indexed.2

/-! ## Corrections -/

/-- What a position is to be: the quantity it has and the one it should have, in
hundredths.  Without a place it is a new position. -/
structure Target where
  stableId : String
  row : RemoteRow
  target : Int
  current : Int
  place : Option Nat

/-- What a row asks of the position it is matched with. -/
def targetOf (pair : Entry × Option Entry) : Target where
  stableId := smallest pair.1.names
  row := (pair.2.map fun remote => pair.1.row.updated remote.row).getD pair.1.row
  target := pair.1.quantity
  current := (pair.2.map Entry.quantity).getD 0
  place := pair.2.map Entry.place

/-- A row is matched with the first unused position that shares a name. -/
def matchedTargets (source remote : List Entry) : List Target :=
  (FirstFit.assigned shareName remote source).map targetOf

/-- A position that is not in the snapshot is driven to zero. -/
def staleTarget (remote : Entry) : Target where
  stableId := smallest remote.names
  row := remote.row
  target := 0
  current := remote.quantity
  place := some remote.place

def staleTargets (source remote : List Entry) : List Target :=
  (FirstFit.left shareName remote source).map staleTarget

def targets (source remote : List Entry) : List Target :=
  matchedTargets source remote ++ staleTargets source remote

/-- Where a correction goes. -/
structure CorrectionContext where
  accountId : String
  accountCurrency : String
  tenantId : String
  financeSyncAccountId : String
  /-- The day of the correction. -/
  today : Int

def holdingsCorrectionCommentPrefix (context : CorrectionContext) : String :=
  "finance-sync holdings snapshot reconciliation:" ++ context.tenantId ++ ":" ++
    context.financeSyncAccountId ++ ":"

/-- A purchase or sale at price zero.  The place is that of the position it was
derived from. -/
structure Correction where
  activityType : ActivityType
  date : Int
  accountId : String
  assetId : Option String
  symbol : String
  isin : String
  instrumentType : String
  quantity : ℚ
  unitPrice : ℚ := 0
  amount : ℚ := 0
  currency : String
  quoteCcy : String
  comment : String
  sourceSystem : String := "FINANCE_SYNC"
  sourceRecordId : String
  sourceGroupId : String
  idempotencyKey : String
  status : String := "POSTED"
  needsReview : Bool := false
  place : Option Nat
deriving DecidableEq

/-- The correction of a position; none where the quantity is right. -/
def correctionOf (context : CorrectionContext) (target : Target) : Option Correction :=
  let delta := target.target - target.current
  if delta = 0 then none
  else
    let instrument := target.row.instrumentOf
    let currency := orText target.row.currency (some context.accountCurrency)
    let correctionId := holdingsCorrectionCommentPrefix context ++ target.stableId
    some
      { activityType := if 0 < delta then .buy else .sell
        date := context.today
        accountId := context.accountId
        assetId := (instrument.id.filter (· ≠ "")).or target.row.assetId
        symbol := orText target.row.symbol instrument.symbol
        isin := orText target.row.isin instrument.isin
        instrumentType := orText instrument.instrumentType (some "EQUITY")
        quantity := (|delta| : Int) / 100
        currency
        quoteCcy := currency
        comment := correctionId ++ " TARGET:" ++ (⟨target.target, -2⟩ : Decimal).str
        sourceRecordId := correctionId
        sourceGroupId := "finance-sync:holdings:" ++ context.financeSyncAccountId
        idempotencyKey := correctionId
        place := target.place }

/-- Create idempotent zero-price activities for the authoritative snapshot. -/
def holdingsQuantityCorrections (context : CorrectionContext) (sourceRows : List HoldingRow)
    (remoteRows : List RemoteRow) : List Correction :=
  (targets (sourceEntries sourceRows) (remoteEntries remoteRows)).filterMap (correctionOf context)

/-! ## The destination after the corrections -/

/-- What a correction adds to its position. -/
def Correction.signedQuantity (correction : Correction) : ℚ :=
  if correction.activityType = .buy then correction.quantity else -correction.quantity

/-- The position that a purchase without a position opens. -/
def openedRow (correction : Correction) : RemoteRow where
  instrument := some { symbol := some correction.symbol, isin := some correction.isin }
  quantity := correction.signedQuantity
  currency := some correction.currency

/-- The positions after the corrections. -/
def applyCorrections (corrections : List Correction) (remoteRows : List RemoteRow) :
    List RemoteRow :=
  (remoteRows.zipIdx.map fun (row, place) =>
    { row with
      quantity := row.quantity +
        ((corrections.filter (·.place = some place)).map Correction.signedQuantity).sum }) ++
    (corrections.filter (·.place = none)).map openedRow

end FinanceSync.Wealthfolio
