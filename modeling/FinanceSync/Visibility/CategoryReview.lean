import FinanceSync.Visibility.Spending
import Mathlib.Order.OrderDual

/-!
# The review queue for unclassified bank transactions

Bunq transactions whose effective category is `other_expenses` are listed, the
largest first, and a user assigns or confirms a category.
-/

namespace FinanceSync.Visibility

open Lib Auth OrderDual

/-! ## Categories -/

def transactionCategoryValues : List String :=
  ["employment", "housing", "groceries", "food_and_dining", "transportation", "shopping",
    "entertainment", "health_wellness", "bills_and_utilities", "personal_care", "education",
    "travel", "gifts_and_donations", "fees_and_charges", "finance", "other_expenses"]

def categoryAliases : List (String × String) :=
  [("health", "health_wellness"), ("software", "bills_and_utilities"),
    ("utilities", "bills_and_utilities"), ("other", "other_expenses"),
    ("other_expense", "other_expenses"), ("health_and_wellness", "health_wellness"),
    ("bills_utilities", "bills_and_utilities"), ("fees", "fees_and_charges"),
    ("gift_and_donations", "gifts_and_donations")]

/-- `casefold` of a character.  Besides the ASCII letters these are the characters
that fold to ASCII, and a text with any other is no category. -/
def casefold (char : Char) : List Char :=
  match char.toNat with
  | 0xDF | 0x1E9E => ['s', 's']
  | 0x17F => ['s']
  | 0x212A => ['k']
  | 0xFB00 => ['f', 'f']
  | 0xFB01 => ['f', 'i']
  | 0xFB02 => ['f', 'l']
  | 0xFB03 => ['f', 'f', 'i']
  | 0xFB04 => ['f', 'f', 'l']
  | 0xFB05 | 0xFB06 => ['s', 't']
  | _ => [char.toLower]

/-- `"_".join(value.strip().casefold().replace("&", "and").split())` -/
def normalized (value : String) : String :=
  let folded := ((strip value.toList).flatMap casefold).flatMap fun char =>
    if char = '&' then ['a', 'n', 'd'] else [char]
  "_".intercalate (splitWords (String.ofList folded))

def canonicalizeCategory (value : String) : Option String :=
  if value = "" then none
  else if normalized value ∈ transactionCategoryValues then some (normalized value)
  else categoryAliases.lookup (normalized value)

/-- `_nested_category` -/
def nestedCategory (value : Option Json) : Option String := do
  let fields ← value.bind Json.asDict
  let category ← ((dictGet fields "category").filter truthy).or
    ((dictGet fields "value").filter truthy)
  return category.str

/-- `canonicalize_category(category) or category` -/
def canonicalOr (category : String) : String := (canonicalizeCategory category).getD category

/-- A category that says something. -/
def informative (category : Option String) : Option String :=
  category.filter fun category => category ≠ "" && category.toLower ≠ "other"

def stripped (value : String) : String := String.ofList (strip value.toList)

/-- `transaction_category` -/
def transactionCategory (transaction : Transaction) (accountFallback : Option String) : String :=
  let provided := nestedCategory transaction.providerMetadata
  let structured := nestedCategory
    ((transaction.providerMetadataContract.bind Json.asDict).bind fun contract =>
      dictGet contract "fields")
  let suggested := nestedCategory transaction.cashflowSuggestion
  let candidates : List (Option String) :=
    [transaction.classificationOverride.filter (· ≠ ""), informative provided,
      informative structured, informative suggested,
      (accountFallback.map stripped).filter (· ≠ ""),
      provided.filter (· ≠ ""), structured.filter (· ≠ ""), suggested.filter (· ≠ ""),
      if transaction.providerKey = "bunq" then some "other_expenses" else none,
      transaction.cashflowBucket.filter (· ≠ "")]
  canonicalOr ((candidates.findSome? id).getD "other_expenses")

/-- What `account_category_fallbacks` has for an account. -/
def Database.accountCategoryFallback (db : Database) (tenantId accountId : Uuid) :
    Option String := do
  let account ← db.accounts.rows.find? fun account =>
    account.id = accountId && account.tenantId = tenantId && account.providerKey = "bunq"
  let connectionId ← account.connectionId
  let credential ← db.credentials.find? fun credential => credential.id = connectionId
  let configuration ← credential.description.bind Json.asDict
  let fallbacks ← (dictGet configuration "account_category_fallbacks").bind Json.asDict
  let value ← (dictGet fallbacks account.externalAccountId).filter truthy
  return stripped value.str

/-! ## The queue -/

/-- The account of a transaction, if it is a bunq bank account. -/
def Database.bankAccount (db : Database) (transaction : Transaction) : Option Account :=
  db.accounts.rows.find? fun account =>
    account.id = transaction.accountId && account.providerKey = "bunq" &&
      account.accountType ∉ ["investment", "brokerage"]

/-- What the two queries on bunq bank transactions have in common. -/
def Database.isBankTransaction (db : Database) (tenantId : Uuid) (transaction : Transaction) :
    Bool :=
  transaction.tenantId = tenantId && transaction.providerKey = "bunq" &&
    (db.bankAccount transaction).isSome && transaction.transactionType ≠ .transfer

structure ReviewItem where
  id : Uuid
  occurredAt : Instant
  account : String
  payee : Option String
  description : Option String
  amount : ℚ
  currencyCode : String
  category : String

def reviewItem (transaction : Transaction) (accountName : String) : ReviewItem where
  id := transaction.id
  occurredAt := transaction.occurredAt
  account := accountName
  payee := (transaction.merchantName.filter (· ≠ "")).or transaction.counterpartyName
  description := transaction.description
  amount := transaction.amount
  currencyCode := transaction.currencyCode
  category := "other"

/-- `order_by(abs(amount).desc(), occurred_at.desc())` -/
def reviewKey (transaction : Transaction) : (ℚ ×ₗ Instant)ᵒᵈ :=
  toDual (toLex (|transaction.amount|, transaction.occurredAt))

/-- The rows that the queue looks at. -/
def Database.reviewRows (db : Database) (tenantId : Uuid) (limit : Nat) : List Transaction :=
  ((OrderBy.stable reviewKey).sort
    (db.transactions.rows.filter fun transaction =>
      db.isBankTransaction tenantId transaction && transaction.classificationOverride.isNone &&
        transaction.tombstonedAt.isNone)).take (limit * 10)

/-- The item of a row whose effective category is other. -/
def Database.otherItem (db : Database) (tenantId : Uuid) (transaction : Transaction) :
    Option ReviewItem := do
  let account ← db.bankAccount transaction
  let category := transactionCategory transaction
    (db.accountCategoryFallback tenantId transaction.accountId)
  if canonicalizeCategory category = some "other_expenses" then
    return reviewItem transaction account.name
  else none

def Database.listBunqOtherTransactions (db : Database) (tenantId : Uuid) (limit : Nat) :
    List ReviewItem :=
  ((db.reviewRows tenantId limit).filterMap (db.otherItem tenantId)).take limit

/-! ## Classifying -/

def unknownCategory : RequestError :=
  .http 422 "Choose one of the available transaction categories."

def Database.findBankTransaction (db : Database) (tenantId transactionId : Uuid) :
    Option Transaction :=
  db.transactions.rows.find? fun transaction =>
    transaction.id = transactionId && db.isBankTransaction tenantId transaction

/-- What `classify_bunq_other_transaction` does with the transaction it found. -/
def classifyBunqOther (writer : Writer) (category : String) : Handler :=
  fun transaction attached => do
    let revision := transaction.revision + 1
    let idempotencyKey := s!"bunq-category-review:{transaction.id}:{revision}"
    checkEventKey attached idempotencyKey
    return {
      changed := { transaction with
        classificationOverride := some category
        classificationSource := some "user_category_review"
        revision }
      rows :=
        [overrideRow writer 0 "classification_override" (.string category),
          eventRow writer 1 "update" idempotencyKey
            (.object [("classification_override", .string category)]) transaction.revision]
      reply := .classified transaction.id category }

end FinanceSync.Visibility
