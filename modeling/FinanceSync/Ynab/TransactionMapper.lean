import FinanceSync.Data.Enums
import FinanceSync.Data.Rounding

/-!
# Canonical transactions as YNAB transactions

The payload of YNAB's bulk endpoint for a canonical transaction.  The sign of the
amount is kept.
-/

namespace FinanceSync.Ynab

structure TransactionSplit where
  amount : ℚ
  destination : Option String := none
  provenance : Option String := none

/-- A canonical transaction, restricted to what the exporter reads. -/
structure Transaction where
  providerKey : String
  externalTransactionId : String
  amount : ℚ
  occurredAt : Instant
  merchantName : Option String := none
  description : Option String := none
  transactionType : TransactionType
  status : TransactionStatus := .pending
  splits : List TransactionSplit := []

structure Subtransaction where
  amount : Int
  categoryId : Option String
  memo : Option String

structure Payload where
  accountId : String
  date : Int
  amount : Int
  payeeName : String
  memo : Option String
  cleared : String
  approved : Bool
  importId : String
  categoryId : Option String
  transferAccountId : Option String
  subtransactions : List Subtransaction

/-- `int((amount * 1000).quantize(1))` -/
def milliunits (amount : ℚ) : Int := roundHalfEven (amount * 1000)

def mapSplit (split : TransactionSplit) : Subtransaction where
  amount := milliunits split.amount
  categoryId := split.destination
  memo := split.provenance

/-- Build a YNAB API transaction. -/
def mapTransaction (transaction : Transaction) (accountId : String)
    (categoryId transferAccountId : Option String) : Payload :=
  let transferAccountId := transferAccountId.filter (· ≠ "")
  let isTransfer := transferAccountId.isSome ∨ transaction.transactionType = .transfer
  { accountId
    date := Instant.date transaction.occurredAt
    amount := milliunits transaction.amount
    payeeName := ((transaction.merchantName.filter (· ≠ "")).or
      (transaction.description.filter (· ≠ ""))).getD
        (StrEnum.value transaction.transactionType)
    memo := transaction.description
    cleared := if transaction.status = .booked then "cleared" else "uncleared"
    approved := false
    importId := "finance-sync:" ++ transaction.providerKey ++ ":" ++
      transaction.externalTransactionId
    categoryId := if isTransfer then none else categoryId.filter (· ≠ "")
    transferAccountId
    subtransactions := transaction.splits.map mapSplit }

end FinanceSync.Ynab
