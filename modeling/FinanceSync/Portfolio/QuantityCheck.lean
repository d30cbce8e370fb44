import FinanceSync.Data.QuantityEvent
import FinanceSync.Portfolio.Snapshots

/-!
# The portfolio quantity check

The health check that compares the quantities that follow from trades, transfers
and quantity events with the latest holding snapshots.
-/

namespace FinanceSync.Portfolio

open Lib

/-- An account and a security. -/
abbrev Position := Uuid × Uuid

/-- A finding of the check. -/
inductive QuantityIssue
  | unmodeledEvents (events : List (Uuid × TransactionType))
  | mismatch (accountId securityId : Uuid) (expectedQuantity actualQuantity difference : ℚ)
      (percentageDifference : Option ℚ) (lastActivityAt : Option Instant) (observedAt : Instant)

/-! ## Transactions -/

def quantityTypes : List TransactionType :=
  [.purchase, .sale, .transfer, .split, .adjustment, .corporateAction]

/-- `ORDER BY account_id, security_id, occurred_at`; the order of rows that agree
in all three is the database's. -/
abbrev ActivityOrder := OrderBy fun row : Position × Transaction =>
  (toLex (row.1.1, toLex (row.1.2, row.2.occurredAt)) : Uuid ×ₗ Uuid ×ₗ Instant)

/-- The transactions of the tenant that move or rescale a position. -/
def positionRows (tenantId : Uuid) (transactions : List Transaction) :
    List (Position × Transaction) :=
  transactions.filterMap fun transaction =>
    match transaction.securityId with
    | none => none
    | some securityId =>
        if transaction.tenantId = tenantId ∧ transaction.transactionType ∈ quantityTypes then
          some ((transaction.accountId, securityId), transaction)
        else none

/-- The quantity that a trade or a transfer adds; a transfer takes its direction
from its amount and is left out without one. -/
def signedQuantity (transaction : Transaction) : Option ℚ :=
  match transaction.quantity with
  | none => none
  | some quantity =>
      match transaction.transactionType with
      | .sale => some (-|quantity|)
      | .purchase => some |quantity|
      | _ =>
          if transaction.amount = 0 then none
          else some (if 0 < transaction.amount then |quantity| else -|quantity|)

/-- The dictionaries of the loop over the transactions. -/
structure Expectation where
  expected : Position → Option ℚ := fun _ => none
  lastActivityAt : Position → Option Instant := fun _ => none
  unmodeledEvents : List (Uuid × TransactionType) := []
  unmodeledKeys : List Position := []

/-- One iteration.  A split or an adjustment has invalid semantics exactly if its
metadata states no ratio. -/
def expectStep (state : Expectation) (row : Position × Transaction) : Expectation :=
  let (key, transaction) := row
  let state := { state with
    lastActivityAt := Function.update state.lastActivityAt key (some transaction.occurredAt) }
  match transaction.transactionType with
  | .corporateAction => { state with unmodeledKeys := key :: state.unmodeledKeys }
  | .split | .adjustment =>
      match quantityEventRatio transaction.providerMetadataContract, state.expected key with
      | some ratio, some quantity =>
          { state with expected := Function.update state.expected key (some (quantity * ratio)) }
      | _, _ =>
          { state with
            unmodeledEvents :=
              state.unmodeledEvents ++ [(transaction.id, transaction.transactionType)]
            unmodeledKeys := key :: state.unmodeledKeys }
  | _ =>
      match signedQuantity transaction with
      | none => state
      | some quantity =>
          { state with
            expected := Function.update state.expected key
              (some ((state.expected key).getD 0 + quantity)) }

/-- The loop over the transactions. -/
def expectation (order : ActivityOrder) (tenantId : Uuid) (transactions : List Transaction) :
    Expectation :=
  (order.sort (positionRows tenantId transactions)).foldl expectStep {}

/-! ## Snapshots -/

/-- `MAX(observed_at)` of the snapshots of a position with a quantity. -/
def latestObservedAt (holdings : List Holding) (key : Position) : Option Instant :=
  ((holdings.filter fun holding => holding.position = key ∧ holding.quantity ≠ 0).map
    Holding.observedAt).max?

/-- The snapshots that are compared: those of the latest moment at which the
position had a quantity. -/
def comparedHoldings (holdings : List Holding) : List Holding :=
  holdings.filter fun holding =>
    latestObservedAt holdings holding.position = some holding.observedAt

/-! ## The check -/

def quantityTolerance : ℚ := 1 / 100000000

/-- The finding on one snapshot. -/
def holdingIssue (state : Expectation) (holding : Holding) : Option QuantityIssue :=
  match state.expected holding.position with
  | none => none
  | some expectedQuantity =>
      if holding.position ∈ state.unmodeledKeys then none
      else
        let difference := holding.quantity - expectedQuantity
        if |difference| ≤ quantityTolerance then none
        else
          some (.mismatch holding.accountId holding.securityId expectedQuantity holding.quantity
            difference
            (if expectedQuantity ≠ 0 then some (|difference| / |expectedQuantity| * 100)
              else none)
            (state.lastActivityAt holding.position) holding.observedAt)

/-- The `portfolio_quantity_mismatch` findings. -/
def quantityMismatches (order : ActivityOrder) (tenantId : Uuid)
    (transactions : List Transaction) (holdings : List Holding) : List QuantityIssue :=
  (comparedHoldings holdings).filterMap (holdingIssue (expectation order tenantId transactions))

/-- Compare trade/transfer-derived quantities with holding snapshots. -/
def portfolioQuantityIssues (order : ActivityOrder) (tenantId : Uuid)
    (transactions : List Transaction) (holdings : List Holding) : List QuantityIssue :=
  let events := (expectation order tenantId transactions).unmodeledEvents
  (if events ≠ [] then [.unmodeledEvents events] else []) ++
    quantityMismatches order tenantId transactions holdings

end FinanceSync.Portfolio
