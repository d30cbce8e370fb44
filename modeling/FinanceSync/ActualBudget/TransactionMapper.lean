import FinanceSync.Visibility.Spending
import FinanceSync.Wealthfolio.Formatting

/-!
# Canonical transactions as Actual Budget payloads

A canonical transaction becomes the payload that is imported into Actual Budget.
The amount of the payload is in major units where the transaction has a category,
and in cents where it has none.
-/

namespace FinanceSync.ActualBudget

open Visibility (truthy)
open Wealthfolio (cents)

/-! ## Canonical records -/

/-- A part of a transaction with a category of its own. -/
structure TransactionSplit where
  amount : ℚ
  categorySuggestion : Option Json := none
  destination : Option String := none

/-- A canonical transaction, restricted to what the exporter reads. -/
structure Transaction where
  id : String
  accountId : String
  providerKey : String
  externalTransactionId : String
  securityId : Option String := none
  amount : Decimal
  currencyCode : String
  amountInBase : Option Decimal := none
  baseCurrencyCode : Option String := none
  fxRate : Option Decimal := none
  providerMetadata : Option (List (String × Json)) := none
  occurredAt : Instant
  transactionType : TransactionType
  description : Option String := none
  status : TransactionStatus := .pending
  exportStatus : String := "active"
  providerFingerprint : Option String := none
  merchantName : Option String := none
  merchantCategoryCode : Option String := none
  originalType : Option String := none
  counterpartyAccountReference : Option String := none
  cashflowBucket : Option String := none
  cashflowSuggestion : Option Json := none
  classificationOverride : Option String := none
  splits : List TransactionSplit := []

structure SplitPayload where
  amount : ℚ
  category : Option String
  notes : Option String

/-- What is imported for a transaction. -/
structure Payload where
  date : Int
  account : String
  payee : String
  notes : Option String
  amount : ℚ
  importedId : String
  cleared : Bool
  importedPayee : Option String
  category : Option String
  splits : List SplitPayload

/-! ## Texts -/

/-- A text that is there and not empty. -/
def present (text : Option String) : Option String := text.filter (· ≠ "")

/-- `suggestion.get("value") or suggestion.get("category")` of a dict, and any other
value as it is. -/
def suggestedValue (suggestion : Option Json) : Option Json := do
  let suggestion ← suggestion
  match suggestion.asDict with
  | some mapping => ((dictGet mapping "value").filter truthy).or (dictGet mapping "category")
  | none => some suggestion

/-- `str(value) if value else None` of what is suggested. -/
def suggestedText (suggestion : Option Json) : Option String :=
  ((suggestedValue suggestion).filter truthy).map Json.str

def splitCategory (split : TransactionSplit) : Option String :=
  suggestedText split.categorySuggestion

/-- The effective category of a transaction. -/
def categoryName (transaction : Transaction) : Option String :=
  (present transaction.classificationOverride).or
    ((suggestedText transaction.cashflowSuggestion).or (present transaction.cashflowBucket))

def typeLabels : List (String × String) :=
  [("purchase", "Purchase"), ("sale", "Sale"), ("payment", "Payment"),
    ("withdrawal", "Withdrawal"), ("deposit", "Deposit"), ("fee", "Bank Fee"),
    ("tax", "Tax Withholding"), ("interest", "Interest Payment"), ("dividend", "Dividend"),
    ("transfer", "Transfer")]

/-- Derive a payee name from the transaction. -/
def buildPayee (txn : Transaction) (fallback : String) : String :=
  ((present txn.merchantName).or (present txn.description)).getD
    ((typeLabels.lookup (StrEnum.value txn.transactionType)).getD fallback)

/-- The original amount and what it was converted to. -/
def fxInfo (txn : Transaction) : Option String := do
  let amountInBase ← txn.amountInBase
  let baseCurrencyCode ← present txn.baseCurrencyCode
  let rate := (txn.fxRate.map fun rate => " @ " ++ rate.str).getD ""
  return "FX: " ++ txn.amount.str ++ " " ++ txn.currencyCode ++ " → " ++ amountInBase.str ++
    " " ++ baseCurrencyCode ++ rate

/-- Assemble human-readable notes for the transaction. -/
def buildNotes (txn : Transaction) : Option String :=
  let investmentType :=
    if txn.transactionType ∈ [.sale, .dividend, .fee, .tax] ∧ (present txn.securityId).isSome then
      some ("Type: " ++ StrEnum.value txn.transactionType)
    else none
  let parts :=
    [present txn.description,
      (present txn.merchantCategoryCode).map ("MCC: " ++ ·),
      (present txn.originalType).map ("Provider type: " ++ ·),
      fxInfo txn,
      investmentType,
      (present txn.providerFingerprint).map ("Ref: " ++ ·)].filterMap id
  if parts = [] then none else some ("\n".intercalate parts)

/-- Deterministic external ID that Actual Budget can use for dedup. -/
def buildImportedId (txn : Transaction) : String := "fs_" ++ txn.externalTransactionId

/-! ## Payloads -/

/-- `_amount`, a major-unit amount. -/
def majorAmount (amount : ℚ) : ℚ := cents amount / 100

/-- The amount of a payload: `_amount` with a category and `_cents` without. -/
def payloadAmount (categoryName : Option String) (amount : ℚ) : ℚ :=
  if categoryName.isSome then majorAmount amount else cents amount

def mapSplit (categoryName : Option String) (split : TransactionSplit) : SplitPayload where
  amount := payloadAmount categoryName split.amount
  category := splitCategory split
  notes := split.destination

/-- Convert a canonical transaction into what actualpy imports. -/
def mapTransaction (txn : Transaction) (abAccountName : String) (categoryName : Option String) :
    Payload where
  date := Instant.date txn.occurredAt
  account := abAccountName
  payee := buildPayee txn "Imported transaction"
  notes := buildNotes txn
  amount := payloadAmount categoryName txn.amount.value
  importedId := buildImportedId txn
  cleared := txn.status = .booked
  importedPayee := txn.description
  category := if txn.transactionType = .transfer then none else present categoryName
  splits := txn.splits.map (mapSplit categoryName)

end FinanceSync.ActualBudget
