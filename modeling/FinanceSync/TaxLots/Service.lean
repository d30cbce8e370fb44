import FinanceSync.Lib.Allocation
import FinanceSync.Lib.Run
import FinanceSync.TaxLots.Transaction

/-!
# The tax-lot engine

Lots and the operations on them as `tax_lot_service` performs them: purchases
open lots, sales consume them, wash sales raise the basis of replacement lots,
quantity events rescale open lots and paired transfers move lots between
accounts.  `computeAllTaxLots` rebuilds the lots of a tenant from all its
transactions.

The loops over lots with `break` and `continue` are draws of `Lib.Allocation`:
`continue` skips the lots that are filtered out beforehand.  The engine reads
lots in the order of their acquisition; which of two lots acquired at one
instant comes first is the database's choice.
-/

namespace FinanceSync.TaxLots

open Lib

inductive CostBasisMethod
  | fifo
  | lifo
  | specificId
deriving DecidableEq, Repr

/-- A discrete block of shares acquired in a single transaction. -/
structure TaxLot where
  id : Uuid
  accountId : Uuid
  securityId : Uuid
  purchaseTransactionId : Option Uuid := none
  saleTransactionId : Option Uuid := none
  transferTransactionId : Option Uuid := none
  quantity : ℚ
  remainingQuantity : ℚ
  costBasisTotal : ℚ
  costBasisPerUnit : ℚ
  currencyCode : String
  acquiredAt : Instant
  closedAt : Option Instant := none
  realizedPl : Option ℚ := none
  realizedPlCurrency : Option String := none
  hasWashSaleAdjustment : Bool := false
  disallowedLoss : Option ℚ := none
  costBasisMethod : CostBasisMethod := .fifo

/-- Return True if this lot is still open (not fully closed). -/
def TaxLot.isOpen (lot : TaxLot) : Bool := lot.closedAt.isNone

/-- What the shares still held in a lot cost. -/
def TaxLot.carriedBasis (lot : TaxLot) : ℚ := lot.remainingQuantity * lot.costBasisPerUnit

abbrev LotTable := Table TaxLot TaxLot.id

abbrev AcquisitionOrder := OrderBy TaxLot.acquiredAt

/-! ## Records and actions -/

structure ClosureRecord where
  lotId : Option Uuid
  quantitySold : ℚ
  costBasisUsed : ℚ
  proceeds : ℚ
  realizedPl : ℚ
  unmatchedQuantity : Option ℚ := none

structure WashSaleAdjustment where
  replacementLotId : Uuid
  disallowedLoss : ℚ
  remainingLossCarriedForward : ℚ

inductive QuantityEventSkipReason
  | invalidRatioOrMissingSecurity
  | missingPositiveRatio (eventId : Uuid)

/-- What `process_transaction` reports to have done. -/
inductive Action
  | lotCreated (lotId : Uuid) (quantity : ℚ)
  | lotsMatched (lotsClosed : Nat) (totalQuantityMatched totalRealizedPl : ℚ)
  | washSaleAdjustment (adjustments : List WashSaleAdjustment)
  | quantityEventSkipped (reason : QuantityEventSkipReason)
  | quantityEventApplied (eventId : Uuid) (ratio : ℚ) (lotsAdjusted : Nat)
  | transferBasisSkipped
  | transferBasisAlreadyApplied (transferId : Uuid)
  | transferBasisGap (transferId : Uuid)
      (quantityRequested quantityMoved quantityUnmatched : ℚ) (lotsCreated : Nat)
  | transferBasisMoved (transferId : Uuid) (quantityMoved : ℚ) (lotsCreated : Nat)

/-! ## Repository queries -/

/-- The open lots of an account and a security, ordered by acquisition. -/
def findOpenLots (order : AcquisitionOrder) (lots : LotTable) (accountId securityId : Uuid) :
    List TaxLot :=
  order.sort
    (lots.rows.filter fun lot =>
      lot.accountId = accountId ∧ lot.securityId = securityId ∧ lot.isOpen)

/-- Lots linked to a transaction as its purchase or its sale. -/
def findLotsForTransaction (lots : LotTable) (transactionId : Uuid) : List TaxLot :=
  lots.rows.filter fun lot =>
    lot.purchaseTransactionId = some transactionId ∨ lot.saleTransactionId = some transactionId

/-- Lots created by one security-transfer leg. -/
def findLotsForTransfer (lots : LotTable) (transferTransactionId : Uuid) : List TaxLot :=
  lots.rows.filter fun lot => lot.transferTransactionId = some transferTransactionId

/-! ## Purchases -/

/-- The lot of a purchase: the full quantity at the total cost. -/
def purchasedLot (id : Uuid) (transaction : Transaction) (securityId : Uuid) : TaxLot :=
  let quantity := transaction.absQuantity
  let costBasisTotal := transaction.absAmount
  { id
    accountId := transaction.accountId
    securityId
    purchaseTransactionId := some transaction.id
    quantity
    remainingQuantity := quantity
    costBasisTotal
    costBasisPerUnit := if quantity ≠ 0 then costBasisTotal / quantity else 0
    currencyCode := transaction.currencyCode
    acquiredAt := transaction.occurredAt }

/-- Create a new open tax lot from a purchase transaction. -/
def createTaxLotsForPurchase (lots : LotTable) (transaction : Transaction) (securityId : Uuid) :
    LotTable × TaxLot :=
  let lot := purchasedLot lots.next transaction securityId
  (lots.insert lot rfl, lot)

/-! ## Sales -/

/-- The lot after a part of its remaining quantity is sold: only a lot that is
used up is closed and remembers the sale and its result. -/
def sellFromLot (transaction : Transaction) (proceedsPerUnit : ℚ) (lot : TaxLot)
    (qtySold : ℚ) : TaxLot :=
  let remaining := lot.remainingQuantity - qtySold
  if remaining = 0 then
    { lot with
      remainingQuantity := remaining
      closedAt := some transaction.occurredAt
      saleTransactionId := some transaction.id
      realizedPl := some (qtySold * proceedsPerUnit - qtySold * lot.costBasisPerUnit)
      realizedPlCurrency := some transaction.currencyCode }
  else { lot with remainingQuantity := remaining }

def closureRecord (proceedsPerUnit : ℚ) (lot : TaxLot) (qtySold : ℚ) : ClosureRecord :=
  let costUsed := qtySold * lot.costBasisPerUnit
  let portionProceeds := qtySold * proceedsPerUnit
  { lotId := some lot.id
    quantitySold := qtySold
    costBasisUsed := costUsed
    proceeds := portionProceeds
    realizedPl := portionProceeds - costUsed }

/-- The open lots a sale consumes, in the order it consumes them. -/
def lotsForSale (order : AcquisitionOrder) (costBasisMethod : CostBasisMethod)
    (lots : LotTable) (transaction : Transaction) (securityId : Uuid) : List TaxLot :=
  let openLots := findOpenLots order lots transaction.accountId securityId
  let openLots := if costBasisMethod = .lifo then openLots.reverse else openLots
  openLots.filter fun lot => 0 < lot.remainingQuantity

/-- What a sale takes from which lot. -/
def saleAllocations (order : AcquisitionOrder) (costBasisMethod : CostBasisMethod)
    (lots : LotTable) (transaction : Transaction) (securityId : Uuid) : List (TaxLot × ℚ) :=
  draw TaxLot.remainingQuantity transaction.absQuantity
    (lotsForSale order costBasisMethod lots transaction securityId)

/-- Match a sell transaction against open lots and close them. -/
def matchSaleToLots (order : AcquisitionOrder) (costBasisMethod : CostBasisMethod)
    (lots : LotTable) (transaction : Transaction) (securityId : Uuid) :
    LotTable × List ClosureRecord :=
  let saleQuantity := transaction.absQuantity
  if saleQuantity ≤ 0 then (lots, [])
  else
    let proceedsPerUnit := transaction.absAmount / saleQuantity
    let sold := saleAllocations order costBasisMethod lots transaction securityId
    let remainingToSell := saleQuantity - drawn sold
    let unmatched : List ClosureRecord :=
      if 0 < remainingToSell then
        [{ lotId := none
           quantitySold := saleQuantity - remainingToSell
           costBasisUsed := 0
           proceeds := 0
           realizedPl := 0
           unmatchedQuantity := some remainingToSell }]
      else []
    (lots.saveAll (sold.map fun part =>
        sellFromLot transaction proceedsPerUnit part.1 part.2),
      (sold.map fun part => closureRecord proceedsPerUnit part.1 part.2) ++ unmatched)

/-! ## Wash sales -/

def washSaleLookbackDays : Int := 30

/-- Add a disallowed loss to the basis of a replacement lot. -/
def adjustReplacement (replacement : TaxLot) (disallowed : ℚ) : TaxLot :=
  let costBasisTotal := replacement.costBasisTotal + disallowed
  { replacement with
    costBasisTotal
    costBasisPerUnit :=
      if 0 < replacement.quantity then costBasisTotal / replacement.quantity else 0
    hasWashSaleAdjustment := true
    disallowedLoss := some disallowed }

/-- The adjustment records of a draw, with the loss still to be carried. -/
def adjustmentRecords : ℚ → List (TaxLot × ℚ) → List WashSaleAdjustment
  | _, [] => []
  | remainingLoss, (replacement, disallowed) :: rest =>
      { replacementLotId := replacement.id
        disallowedLoss := disallowed
        remainingLossCarriedForward := remainingLoss - disallowed } ::
        adjustmentRecords (remainingLoss - disallowed) rest

/-- The loss of the lots that the sale closed. -/
def closedLoss (lots : LotTable) (transaction : Transaction) : ℚ :=
  ((findLotsForTransaction lots transaction.id).map fun lot =>
    match lot.realizedPl with
    | some realizedPl => if realizedPl < 0 then |realizedPl| else 0
    | none => 0).sum

/-- The open lots of the security acquired within the window around the sale. -/
def replacementLots (order : AcquisitionOrder) (lots : LotTable) (transaction : Transaction)
    (securityId : Uuid) : List TaxLot :=
  let windowStart := transaction.occurredAt - Instant.days washSaleLookbackDays
  let windowEnd := transaction.occurredAt + Instant.days washSaleLookbackDays
  let allLots := order.sort
    (lots.rows.filter fun lot =>
      lot.accountId = transaction.accountId ∧ lot.securityId = securityId ∧
        windowStart ≤ lot.acquiredAt ∧ lot.acquiredAt ≤ windowEnd)
  allLots.filter fun lot =>
    lot.isOpen ∧ lot.purchaseTransactionId ≠ some transaction.id

/-- How much of the loss is added to the basis of which replacement lot. -/
def disallowedLosses (order : AcquisitionOrder) (lots : LotTable) (transaction : Transaction)
    (securityId : Uuid) : List (TaxLot × ℚ) :=
  draw TaxLot.costBasisTotal (closedLoss lots transaction)
    (replacementLots order lots transaction securityId)

/-- Detect wash sales around a realised loss transaction. -/
def detectAndAdjustWashSales (order : AcquisitionOrder) (lots : LotTable)
    (transaction : Transaction) (securityId : Uuid) : LotTable × List WashSaleAdjustment :=
  if transaction.absQuantity ≤ 0 then (lots, [])
  else
    let adjusted := disallowedLosses order lots transaction securityId
    (lots.saveAll (adjusted.map fun part => adjustReplacement part.1 part.2),
      adjustmentRecords (closedLoss lots transaction) adjusted)

/-! ## Quantity events -/

/-- The lot in new units. -/
def rescaleLot (ratio : ℚ) (lot : TaxLot) : TaxLot :=
  { lot with
    quantity := lot.quantity * ratio
    remainingQuantity := lot.remainingQuantity * ratio
    costBasisPerUnit := lot.costBasisPerUnit / ratio }

/-- Apply a provider-confirmed quantity ratio to open tax lots. -/
def applyQuantityEventToLots (order : AcquisitionOrder) (lots : LotTable)
    (transaction : Transaction) (ratio : ℚ) : LotTable × Action :=
  match transaction.securityId with
  | none => (lots, .quantityEventSkipped .invalidRatioOrMissingSecurity)
  | some securityId =>
      if ratio ≤ 0 then (lots, .quantityEventSkipped .invalidRatioOrMissingSecurity)
      else
        let openLots := findOpenLots order lots transaction.accountId securityId
        (lots.saveAll (openLots.map (rescaleLot ratio)),
          .quantityEventApplied transaction.id ratio openLots.length)

/-- A split, an adjustment or another corporate action. -/
def processQuantityEvent (order : AcquisitionOrder) (lots : LotTable)
    (transaction : Transaction) : LotTable × Action :=
  match quantityEventRatio transaction.providerMetadataContract with
  | none => (lots, .quantityEventSkipped (.missingPositiveRatio transaction.id))
  | some ratio => applyQuantityEventToLots order lots transaction ratio

/-! ## Transfers -/

/-- The source lot after a part of it is moved away. -/
def moveFromLot (transaction : Transaction) (lot : TaxLot) (movedQuantity : ℚ) : TaxLot :=
  let remaining := lot.remainingQuantity - movedQuantity
  if remaining = 0 then
    { lot with remainingQuantity := remaining, closedAt := some transaction.occurredAt }
  else { lot with remainingQuantity := remaining }

/-- The lot that receives a part of a moved lot. -/
def receivedLot (id : Uuid) (destination : Transaction) (securityId : Uuid) (lot : TaxLot)
    (movedQuantity : ℚ) : TaxLot :=
  { id
    accountId := destination.accountId
    securityId
    transferTransactionId := some destination.id
    quantity := movedQuantity
    remainingQuantity := movedQuantity
    costBasisTotal := movedQuantity * lot.costBasisPerUnit
    costBasisPerUnit := lot.costBasisPerUnit
    currencyCode := lot.currencyCode
    acquiredAt := lot.acquiredAt
    costBasisMethod := lot.costBasisMethod }

/-- What an outbound transfer takes from which lot. -/
def transferAllocations (order : AcquisitionOrder) (lots : LotTable)
    (transaction : Transaction) (securityId : Uuid) : List (TaxLot × ℚ) :=
  draw TaxLot.remainingQuantity transaction.absQuantity
    ((findOpenLots order lots transaction.accountId securityId).filter fun lot =>
      0 < lot.remainingQuantity)

/-- One allocation of a transfer: the source lot is saved, the new lot added. -/
def moveLot (transaction destination : Transaction) (securityId : Uuid) (lots : LotTable)
    (allocation : TaxLot × ℚ) : LotTable :=
  let saved := lots.save (moveFromLot transaction allocation.1 allocation.2)
  saved.insert (receivedLot saved.next destination securityId allocation.1 allocation.2) rfl

/-- Move FIFO lot basis across a paired security transfer. -/
def transferLotsToDestination (order : AcquisitionOrder) (lots : LotTable)
    (transaction destination : Transaction) (securityId destinationSecurityId : Uuid) :
    LotTable × Action :=
  let quantity := transaction.absQuantity
  if quantity ≤ 0 ∨ 0 ≤ transaction.amount.value then (lots, .transferBasisSkipped)
  else if findLotsForTransfer lots destination.id ≠ [] then
    (lots, .transferBasisAlreadyApplied destination.id)
  else
    let allocations := transferAllocations order lots transaction securityId
    let moved := drawn allocations
    let remaining := quantity - moved
    if 0 < remaining then
      (lots, .transferBasisGap destination.id quantity moved remaining allocations.length)
    else
      (allocations.foldl (moveLot transaction destination destinationSecurityId) lots,
        .transferBasisMoved destination.id moved allocations.length)

/-! ## Processing a transaction -/

/-- A sale is matched and then looks for wash sales. -/
def processSale (order : AcquisitionOrder) (costBasisMethod : CostBasisMethod)
    (lots : LotTable) (transaction : Transaction) (securityId : Uuid) :
    LotTable × List Action :=
  let (lots, closures) := matchSaleToLots order costBasisMethod lots transaction securityId
  let matchedQty := (closures.map ClosureRecord.quantitySold).sum
  let totalPl := (closures.map ClosureRecord.realizedPl).sum
  let (lots, washAdjustments) := detectAndAdjustWashSales order lots transaction securityId
  let matchedAction := Action.lotsMatched closures.length matchedQty totalPl
  (lots,
    if washAdjustments.isEmpty then [matchedAction]
    else [matchedAction, .washSaleAdjustment washAdjustments])

/-- Process a single transaction and update tax lots accordingly. -/
def processTransaction (order : AcquisitionOrder) (costBasisMethod : CostBasisMethod)
    (pairedTransfer : Option Transaction) (lots : LotTable) (transaction : Transaction) :
    LotTable × List Action :=
  match transaction.transactionType, transaction.securityId with
  | .purchase, some securityId =>
      let (lots, lot) := createTaxLotsForPurchase lots transaction securityId
      (lots, [.lotCreated lot.id lot.quantity])
  | .sale, some securityId =>
      processSale order costBasisMethod lots transaction securityId
  | .transfer, some securityId =>
      match pairedTransfer with
      | none => (lots, [])
      | some destination =>
          -- Both legs of a pair carry one security.
          let (lots, action) := transferLotsToDestination order lots transaction destination
            securityId (destination.securityId.getD securityId)
          (lots, [action])
  | .split, _ | .adjustment, _ | .corporateAction, _ =>
      let (lots, action) := processQuantityEvent order lots transaction
      (lots, [action])
  | _, _ => (lots, [])

/-! ## Statistics and summary -/

structure Stats where
  transactionsProcessed : Nat := 0
  lotsCreated : Nat := 0
  lotsClosed : Nat := 0
  washSaleAdjustments : Nat := 0
  quantityEventsProcessed : Nat := 0
  quantityLotsAdjusted : Nat := 0
  quantityEventsSkipped : Nat := 0
  transferEventsProcessed : Nat := 0
  transferLotsMoved : Nat := 0
  transferBasisGaps : Nat := 0
  transferEventsSkipped : Nat := 0
  totalRealizedPl : ℚ := 0

/-- Count one action. -/
def Stats.count (stats : Stats) : Action → Stats
  | .lotCreated _ _ => { stats with lotsCreated := stats.lotsCreated + 1 }
  | .lotsMatched lotsClosed _ totalRealizedPl =>
      { stats with
        lotsClosed := stats.lotsClosed + lotsClosed
        totalRealizedPl := stats.totalRealizedPl + totalRealizedPl }
  | .washSaleAdjustment _ =>
      { stats with washSaleAdjustments := stats.washSaleAdjustments + 1 }
  | .quantityEventApplied _ _ lotsAdjusted =>
      { stats with
        quantityEventsProcessed := stats.quantityEventsProcessed + 1
        quantityLotsAdjusted := stats.quantityLotsAdjusted + lotsAdjusted }
  | .quantityEventSkipped _ =>
      { stats with quantityEventsSkipped := stats.quantityEventsSkipped + 1 }
  | .transferBasisMoved _ _ lotsCreated =>
      { stats with
        transferEventsProcessed := stats.transferEventsProcessed + 1
        transferLotsMoved := stats.transferLotsMoved + lotsCreated }
  | .transferBasisGap _ _ _ _ _ =>
      { stats with
        transferEventsProcessed := stats.transferEventsProcessed + 1
        transferBasisGaps := stats.transferBasisGaps + 1 }
  | .transferBasisSkipped | .transferBasisAlreadyApplied _ =>
      { stats with transferEventsSkipped := stats.transferEventsSkipped + 1 }

structure Summary where
  totalLots : Nat
  openLots : Nat
  closedLots : Nat
  openCostBasis : ℚ
  totalRealizedPl : ℚ
  washSaleAdjustedLots : Nat

/-- Get a summary of the tax lots that meet the account and security filters. -/
def getTaxLotSummary (lots : LotTable) (includeClosed : Bool)
    (accountId securityId : Option Uuid) : Summary :=
  let selected := lots.rows.filter fun lot =>
    (accountId = none ∨ accountId = some lot.accountId) ∧
      (securityId = none ∨ securityId = some lot.securityId)
  let openLots := selected.filter TaxLot.isOpen
  let closedLots := if includeClosed then selected.filter (fun lot => !lot.isOpen) else []
  { totalLots := selected.length
    openLots := openLots.length
    closedLots := closedLots.length
    openCostBasis := (openLots.map TaxLot.carriedBasis).sum
    totalRealizedPl := (closedLots.map fun lot => lot.realizedPl.getD 0).sum
    washSaleAdjustedLots := (selected.filter TaxLot.hasWashSaleAdjustment).length }

/-! ## The full rebuild -/

/-- The state of the loop of `compute_all_tax_lots`: the lots, the statistics
and the actions reported so far. -/
structure Rebuild where
  lots : LotTable
  stats : Stats
  actions : List Action

/-- One iteration of the loop. -/
def rebuildStep (order : AcquisitionOrder) (costBasisMethod : CostBasisMethod)
    (pairs : TransferPairs) (state : Rebuild) (transaction : Transaction) : Rebuild :=
  let (lots, actions) := processTransaction order costBasisMethod
    (pairs.lookup transaction.id) state.lots transaction
  let stats :=
    { state.stats with transactionsProcessed := state.stats.transactionsProcessed + 1 }
  { lots
    stats := actions.foldl Stats.count stats
    actions := state.actions ++ actions }

/-- The state before the first transaction: all lots of the tenant are deleted. -/
def emptyRebuild : Rebuild := { lots := .empty, stats := {}, actions := [] }

/-- The loop body of a rebuild over the stored transactions. -/
def replayStep (order : AcquisitionOrder) (costBasisMethod : CostBasisMethod)
    (stored : List Transaction) : Rebuild → Transaction → Rebuild :=
  rebuildStep order costBasisMethod (pairSecurityTransferLegs (replayedTransactions stored))

/-- Recompute all tax lots of a tenant from its stored transactions. -/
def computeAllTaxLots (order : AcquisitionOrder) (costBasisMethod : CostBasisMethod)
    (stored : List Transaction) : Rebuild :=
  runAll (replayStep order costBasisMethod stored) emptyRebuild (replayedTransactions stored)

end FinanceSync.TaxLots
