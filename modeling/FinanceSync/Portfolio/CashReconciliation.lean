import FinanceSync.Portfolio.Snapshots
import FinanceSync.Visibility.ReadScope
import Mathlib.Data.List.MinMax
import Mathlib.Order.OrderDual

/-!
# Cash reconciliation

The health check that compares the cash of an account with its latest balance
snapshot, and the snapshots with the transactions between them.
-/

namespace FinanceSync.Portfolio

open Lib OrderDual

abbrev Account := Visibility.Account

/-- A finding of the check. -/
inductive CashIssue
  | insufficientEvidence (accountId : Uuid) (currency : String) (accountBalance : Option ℚ)
  | balanceMismatch (accountId : Uuid) (accountBalance snapshotBalance difference : ℚ)
      (currency : String) (observedAt : Instant)
  | flowMismatch (accountId : Uuid)
      (openingBalance expectedBalance snapshotBalance difference : ℚ) (currency : String)
      (openingObservedAt observedAt : Instant) (transactionCount : Nat)

namespace CashIssue

def accountId : CashIssue → Uuid
  | insufficientEvidence accountId _ _ => accountId
  | balanceMismatch accountId _ _ _ _ _ => accountId
  | flowMismatch accountId _ _ _ _ _ _ _ _ => accountId

/-- Missing evidence is a warning that does not block. -/
def blocking : CashIssue → Bool
  | insufficientEvidence _ _ _ => false
  | balanceMismatch _ _ _ _ _ _ => true
  | flowMismatch _ _ _ _ _ _ _ _ _ => true

end CashIssue

/-! ## The rows that are compared -/

/-- The order of moments without the suprema that the whole library adds to it:
these do not compute. -/
local instance (priority := 2000) momentOrder : Preorder Instant :=
  Int.instLinearOrder.toPreorder

/-- The active accounts of the tenant with a balance. -/
def reconciledAccounts (tenantId : Uuid) (accounts : List Account) : List Account :=
  accounts.filter fun account =>
    account.tenantId = tenantId ∧ account.isActive ∧ account.currentBalance.isSome

/-- `ORDER BY observed_at DESC`; the order within one moment is the database's. -/
abbrev NewestFirst := OrderBy fun balance : Balance => toDual balance.observedAt

/-- The balance snapshots that the check reads. -/
def balanceRows (order : NewestFirst) (tenantId : Uuid) (balances : List Balance) :
    List Balance :=
  order.sort (balances.filter fun balance =>
    balance.tenantId = tenantId ∧
      balance.balanceKind ∈ [BalanceKind.current, .cash, .available, .booked])

/-- The snapshots of an account in its currency. -/
def accountBalances (rows : List Balance) (account : Account) : List Balance :=
  rows.filter fun balance =>
    balance.accountId = account.id ∧
      balance.currencyCode.toUpper = account.currencyCode.toUpper

def priority : BalanceKind → Int
  | .current => 0
  | .cash => 1
  | .available => 2
  | .booked => 3
  | .limit => 99

/-- `(observed_at, -priority)` -/
def recency (balance : Balance) : Instant ×ₗ Int :=
  toLex (balance.observedAt, -priority balance.balanceKind)

/-- The latest snapshot; of two snapshots that are equally recent the first one
that the query returns. -/
def latestBalance (rows : List Balance) (account : Account) : Option Balance :=
  (accountBalances rows account).argmax recency

/-- The first element of the snapshots sorted by `observed_at`. -/
def openingBalance (rows : List Balance) (account : Account) : Option Balance :=
  (accountBalances rows account).argmin Balance.observedAt

/-- The field of the account that a snapshot is compared with. -/
def comparedBalance (account : Account) (balance : Balance) : ℚ :=
  if balance.balanceKind ∈ [BalanceKind.available, .cash] ∧ account.availableBalance.isSome then
    account.availableBalance.getD 0
  else account.currentBalance.getD 0

/-! ## Cash flows -/

def cashTypes : List TransactionType :=
  [.deposit, .withdrawal, .dividend, .interest, .fee, .tax, .transfer]

/-- What a transaction adds to the expected balance. -/
def cashAmount (transaction : Transaction) : ℚ :=
  if transaction.transactionType ∈ [TransactionType.withdrawal, .fee, .tax] then
    -|transaction.amount|
  else transaction.amount

/-- The transactions that are counted between two snapshots of an account. -/
def countedTransactions (tenantId : Uuid) (transactions : List Transaction) (account : Account)
    (opening closing : Balance) : List Transaction :=
  transactions.filter fun transaction =>
    transaction.tenantId = tenantId ∧ transaction.accountId = account.id ∧
      transaction.currencyCode.toUpper = account.currencyCode.toUpper ∧
      transaction.transactionType ∈ cashTypes ∧
      opening.observedAt < transaction.occurredAt ∧
      transaction.occurredAt ≤ closing.observedAt

/-! ## The check -/

def tolerance : ℚ := 1 / 100

/-- The finding on the account's own balance. -/
def balanceIssues (account : Account) (balance : Balance) : List CashIssue :=
  let accountValue := comparedBalance account balance
  let difference := balance.amount - accountValue
  if tolerance < |difference| then
    [.balanceMismatch account.id accountValue balance.amount difference
      account.currencyCode.toUpper balance.observedAt]
  else []

/-- The finding on the flows between the opening snapshot and the latest one. -/
def flowIssues (tenantId : Uuid) (transactions : List Transaction) (account : Account)
    (opening balance : Balance) : List CashIssue :=
  if opening.id = balance.id then []
  else
    let counted := countedTransactions tenantId transactions account opening balance
    let expected := opening.amount + (counted.map cashAmount).sum
    let difference := balance.amount - expected
    if |difference| ≤ tolerance then []
    else
      [.flowMismatch account.id opening.amount expected balance.amount difference
        account.currencyCode.toUpper opening.observedAt balance.observedAt counted.length]

/-- The findings on one account. -/
def accountIssues (tenantId : Uuid) (transactions : List Transaction) (rows : List Balance)
    (account : Account) : List CashIssue :=
  match latestBalance rows account with
  | none =>
      [.insufficientEvidence account.id account.currencyCode.toUpper account.currentBalance]
  | some balance =>
      balanceIssues account balance ++
        match openingBalance rows account with
        | none => []
        | some opening => flowIssues tenantId transactions account opening balance

/-- Compare account cash with the latest provider balance snapshot. -/
def cashReconciliationIssues (order : NewestFirst) (tenantId : Uuid) (accounts : List Account)
    (balances : List Balance) (transactions : List Transaction) : List CashIssue :=
  (reconciledAccounts tenantId accounts).flatMap
    (accountIssues tenantId transactions (balanceRows order tenantId balances))

end FinanceSync.Portfolio
