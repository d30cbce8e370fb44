import FinanceSync.Data.Enums
import FinanceSync.Data.QuantityEvent
import FinanceSync.Lib.Table
import Mathlib.Data.List.AList
import Mathlib.Data.Prod.Lex
import Mathlib.Order.Lattice

/-!
# Transactions as the tax-lot engine reads them

The canonical transaction, restricted to the columns the engine looks at, the
replay order, and the pairing of the two legs of a security transfer.
-/

namespace FinanceSync

open Lib

structure Transaction where
  id : Uuid
  accountId : Uuid
  securityId : Option Uuid
  transactionType : TransactionType
  amount : Decimal
  currencyCode : String
  quantity : Option Decimal
  occurredAt : Instant
  counterpartyAccountReference : Option String := none
  providerMetadataContract : Option Json := none

namespace Transaction

/-- `abs(transaction.quantity) if transaction.quantity else 0` -/
def absQuantity (transaction : Transaction) : ℚ :=
  match transaction.quantity with
  | some quantity => |quantity.value|
  | none => 0

/-- `abs(transaction.amount)` -/
def absAmount (transaction : Transaction) : ℚ := |transaction.amount.value|

theorem absQuantity_nonneg (transaction : Transaction) : 0 ≤ transaction.absQuantity := by
  unfold absQuantity
  split
  · exact abs_nonneg _
  · exact le_rfl

theorem absAmount_nonneg (transaction : Transaction) : 0 ≤ transaction.absAmount :=
  abs_nonneg _

end Transaction

/-! ## Replay order -/

/-- The types that `compute_all_tax_lots` selects. -/
def replayedTypes : List TransactionType :=
  [.purchase, .sale, .split, .adjustment, .corporateAction, .transfer]

/-- `order_by(occurred_at, id)` -/
def replayKey (transaction : Transaction) : Instant ×ₗ Uuid :=
  toLex (transaction.occurredAt, transaction.id)

/-- The transactions that `compute_all_tax_lots` replays, in replay order. -/
def replayedTransactions (stored : List Transaction) : List Transaction :=
  (OrderBy.stable replayKey).sort
    (stored.filter fun transaction =>
      transaction.transactionType ∈ replayedTypes ∧ transaction.securityId.isSome)

/-! ## Pairing security transfers -/

def transferReferenceKeys : List String :=
  ["transfer_id", "transferId", "transfer_reference", "transferReference"]

/-- `text or None` -/
def nonEmpty (text : Option String) : Option String := text.filter (· ≠ "")

/-- Read the allowlisted provider transfer reference from canonical data. -/
def transferReference (transaction : Transaction) : Option String :=
  match transaction.providerMetadataContract.bind Json.asDict with
  | none => nonEmpty transaction.counterpartyAccountReference
  | some metadata =>
      let candidates := metadata :: ((dictGet metadata "fields").bind Json.asDict).toList
      let found := candidates.findSome? fun candidate =>
        transferReferenceKeys.findSome? fun key =>
          match dictGet candidate key with
          | some (.string "") => none
          | value => value
      match found with
      | some value => nonEmpty (some (String.ofList (strip value.str.toList)))
      | none => nonEmpty transaction.counterpartyAccountReference

/-- What the two legs of one transfer have in common.  The quantity takes part
as text. -/
structure TransferKey where
  securityId : Uuid
  currencyCode : String
  date : Int
  quantityText : Int × Int
  reference : String
deriving DecidableEq

/-- The group a transaction belongs to, if it is a transfer that can be paired. -/
def transferKey (transaction : Transaction) : Option TransferKey :=
  if transaction.transactionType ≠ .transfer then none
  else
    match transaction.securityId, transferReference transaction, transaction.quantity with
    | some securityId, some reference, some quantity =>
        if quantity.abs.value ≤ 0 ∨ transaction.amount.value = 0 then none
        else
          some
            { securityId
              currencyCode := transaction.currencyCode.toUpper
              date := Instant.date transaction.occurredAt
              quantityText := quantity.abs.text
              reference }
    | _, _, _ => none

/-- `groups`: the pairable transfers by key, each group in the given order. -/
def transferGroups (transactions : List Transaction) :
    AList fun _ : TransferKey => List Transaction :=
  transactions.foldl
    (fun groups transaction =>
      match transferKey transaction with
      | none => groups
      | some key =>
          groups.insert key ((groups.lookup key).getD [] ++ [transaction]))
    ∅

/-- The legs of one group that are matched: outbound and inbound legs in the
order of their ids, unless both are on one account. -/
def matchedLegs (rows : List Transaction) : List (Transaction × Transaction) :=
  let byId := OrderBy.stable Transaction.id
  let outbound := byId.sort (rows.filter fun row => row.amount.value < 0)
  let inbound := byId.sort (rows.filter fun row => 0 < row.amount.value)
  (outbound.zip inbound).filter fun pair => pair.1.accountId ≠ pair.2.accountId

/-- The other leg of each paired transfer, by transaction id. -/
abbrev TransferPairs := AList fun _ : Uuid => Transaction

/-- Pair security-transfer legs without guessing unidentifiable matches. -/
def pairSecurityTransferLegs (transactions : List Transaction) : TransferPairs :=
  let groups := (transferGroups transactions).entries.map Sigma.snd
  (groups.flatMap matchedLegs).foldl
    (fun pairs (source, destination) =>
      (pairs.insert source.id destination).insert destination.id source)
    ∅

end FinanceSync
