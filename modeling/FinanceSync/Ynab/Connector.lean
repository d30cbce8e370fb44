import FinanceSync.Data.Dates
import Mathlib.Data.List.Infix

/-!
# YNAB connector

The accounts and transactions of YNAB's API as the connector reads them.  Amounts
are milliunits, a thousand to one unit of the currency.
-/

namespace FinanceSync.Ynab

/-! ## What the API returns -/

structure AccountData where
  id : Option String := none
  name : Option String := none
  type : Option String := none
  onBudget : Option Bool := none
  balance : Option Int := none
  deleted : Option Bool := none
  closed : Option Bool := none

structure TransactionData where
  id : Option String := none
  accountId : Option String := none
  date : Option String := none
  amount : Option Int := none
  memo : Option String := none
  payeeName : Option String := none
  cleared : Option String := none
  approved : Option Bool := none
  transferAccountId : Option String := none
  categoryName : Option String := none
  categoryId : Option String := none
  flagColor : Option String := none
  source : Option String := none

/-! ## What the connector makes of it -/

structure AccountMetadata where
  ynabType : String
  onBudget : Bool
  budgetId : String
  deleted : Bool
  closed : Bool

structure RawAccount where
  externalAccountId : String
  name : String
  accountType : String
  accountSubtype : String
  currencyCode : String
  currentBalance : ℚ
  providerMetadata : AccountMetadata

structure TransactionMetadata where
  budgetId : String
  categoryName : Option String
  categoryId : Option String
  approved : Bool
  cleared : String
  flagColor : Option String
  isTransfer : Bool
  transferAccountId : Option String
  payeeName : Option String
  source : String

structure RawTransaction where
  externalTransactionId : String
  externalAccountId : String
  amount : ℚ
  currencyCode : String
  occurredAt : Instant
  bookedAt : Instant
  description : String
  transactionType : String
  status : String
  providerMetadata : TransactionMetadata

def accountTypeMap : List (String × String) :=
  [("checking", "checking"), ("savings", "savings"), ("creditCard", "credit"),
    ("cash", "checking"), ("lineOfCredit", "credit"), ("investmentAccount", "investment"),
    ("mortgage", "loan"), ("payPal", "checking"), ("otherAsset", "other"),
    ("otherLiability", "loan")]

/-- Map a YNAB account to a raw account.  The balance loses its sign. -/
def parseAccount (budgetCurrency : String) (data : AccountData) (budgetId : String) : RawAccount :=
  let ynabType := data.type.getD "checking"
  let currentBalance : ℚ := (data.balance.getD 0 : Int) / 1000
  { externalAccountId := data.id.getD ""
    name := data.name.getD ""
    accountType := (accountTypeMap.lookup ynabType).getD "checking"
    accountSubtype := ynabType
    currencyCode := budgetCurrency
    currentBalance := |currentBalance|
    providerMetadata :=
      { ynabType
        onBudget := data.onBudget.getD true
        budgetId
        deleted := data.deleted.getD false
        closed := data.closed.getD false } }

/-- Parse a YNAB date to midnight UTC; any other text is the epoch. -/
def parseYnabDate (raw : String) : Instant := Instant.days ((parseIsoDate raw).getD 0)

def interestKeywords : List String := ["interest", "dividend"]

def incomeKeywords : List String :=
  ["income", "salary", "paycheck", "wage", "bonus", "reimbursement", "refund", "cashback"]

def feeKeywords : List String := ["fee", "charge", "service charge", "late fee"]

/-- `keyword in text` for one of the keywords. -/
def containsAny (keywords : List String) (text : String) : Bool :=
  keywords.any fun keyword => keyword.toList <:+: text.toList

/-- Map a YNAB category name to a canonical transaction type. -/
def mapCategoryToType (category : Option String) (isTransfer : Bool) : String :=
  let lower := (category.getD "").toLower
  if isTransfer then "transfer"
  else if category.getD "" = "" then "other"
  else if containsAny interestKeywords lower then "interest"
  else if containsAny incomeKeywords lower then "deposit"
  else if containsAny feeKeywords lower then "fee"
  else if containsAny ["investment"] lower then "interest"
  else "payment"

/-- Map a YNAB transaction to a raw transaction.  A positive amount is taken as an
outflow, so the sign is inverted. -/
def parseTransaction (budgetCurrency : String) (data : TransactionData) (budgetId : String) :
    RawTransaction :=
  let txnId := data.id.getD ""
  let amount : ℚ := (data.amount.getD 0 : Int) / 1000
  let memo := data.memo.filter (· ≠ "")
  let payee := data.payeeName.filter (· ≠ "")
  let description :=
    match payee, memo with
    | some payee, some memo => payee ++ " — " ++ memo
    | payee, memo => (payee.or memo).getD ("YNAB transaction " ++ txnId)
  let cleared := data.cleared.getD "uncleared"
  let isTransfer := data.transferAccountId.isSome
  { externalTransactionId := budgetId ++ "_" ++ txnId
    externalAccountId := data.accountId.getD ""
    amount := -amount
    currencyCode := budgetCurrency
    occurredAt := parseYnabDate (data.date.getD "")
    bookedAt := parseYnabDate (data.date.getD "")
    description
    transactionType := mapCategoryToType data.categoryName isTransfer
    status := if cleared = "cleared" ∨ cleared = "reconciled" then "booked" else "pending"
    providerMetadata :=
      { budgetId
        categoryName := data.categoryName
        categoryId := data.categoryId
        approved := data.approved.getD false
        cleared
        flagColor := data.flagColor
        isTransfer
        transferAccountId := data.transferAccountId
        payeeName := payee
        source := data.source.getD "" } }

end FinanceSync.Ynab
