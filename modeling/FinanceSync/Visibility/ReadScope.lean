import FinanceSync.Auth.ApiKeys
import FinanceSync.TaxLots.Service

/-!
# Accounts, what is attached to them, and who may read it

The tables behind the read endpoints, and the scope of a principal: the owner of a
tenant reads all its accounts, an API key those of its `account_scope` if it has
one.
-/

namespace FinanceSync.Visibility

open Lib

/-! ## Rows -/

structure Account where
  id : Uuid
  tenantId : Uuid
  providerKey : String
  connectionId : Option Uuid := none
  externalAccountId : String
  name : String
  accountType : String
  accountSubtype : Option String := none
  currencyCode : String := "EUR"
  currentBalance : Option ℚ := none
  availableBalance : Option ℚ := none
  netAssetValue : Option ℚ := none
  isActive : Bool := true

structure Transaction where
  id : Uuid
  tenantId : Uuid
  accountId : Uuid
  providerKey : String
  externalTransactionId : String
  amount : ℚ
  currencyCode : String
  occurredAt : Instant
  transactionType : TransactionType
  status : TransactionStatus := .booked
  description : Option String := none
  unitPrice : Option ℚ := none
  merchantName : Option String := none
  counterpartyName : Option String := none
  providerMetadata : Option Json := none
  providerMetadataContract : Option Json := none
  cashflowBucket : Option String := none
  cashflowSuggestion : Option Json := none
  classificationSource : Option String := none
  classificationOverride : Option String := none
  tombstonedAt : Option Instant := none
  revision : Nat := 1

/-- The tables whose rows belong to a transaction. -/
inductive AttachedTable
  | sourceReference
  | split
  | annotationRow
  | override
  | lifecycleEvent
  | destinationReference
deriving DecidableEq

/-- A value of a column. -/
inductive Cell
  | uuid (value : Uuid)
  | instant (value : Instant)
  | decimal (value : ℚ)
  | json (value : Json)

/-- A row that belongs to a transaction, with the columns that are not null. -/
structure Attached where
  id : Uuid
  tenantId : Uuid
  transactionId : Option Uuid
  columns : List (String × Cell)

/-- A point-in-time snapshot of a position in one security. -/
structure Holding where
  tenantId : Uuid
  accountId : Uuid
  securityId : Uuid
  observedAt : Instant
  quantity : ℚ
  costBasis : Option ℚ := none
  costBasisCurrency : Option String := none
  marketValue : Option ℚ := none
  price : Option ℚ := none
  priceCurrency : Option String := none
  currencyCode : String

structure Security where
  id : Uuid
  ticker : Option String
  isin : Option String
  name : String
  securityType : String

structure SecurityPrice where
  securityId : Uuid
  timestamp : Instant
  interval : String
  priceClose : Option ℚ
  currencyCode : String

/-- A connection.  Its description is configuration; there is none here where the
text is no JSON. -/
structure Credential where
  id : Uuid
  description : Option Json

structure Database where
  accounts : Table Account Account.id
  transactions : Table Transaction Transaction.id
  attached : AttachedTable → List Attached
  holdings : List Holding
  /-- The tax lots of each tenant. -/
  taxLots : Uuid → TaxLots.LotTable
  securities : List Security
  prices : List SecurityPrice
  credentials : List Credential

/-! ## Principals -/

/-- A user, or an API key with its `account_scope`. -/
inductive Principal
  | user (owner : Auth.User)
  | apiKey (row : Auth.ApiKey) (accountScope : Option (List Uuid))
deriving DecidableEq

def Principal.auth : Principal → Auth.AuthContext
  | .user owner => .user owner
  | .apiKey row _ => .apiKey row

def Principal.tenantId (principal : Principal) : Uuid := principal.auth.tenantId

/-- `str(auth.user.id) if auth.user is not None else None` -/
def Principal.actor : Principal → Option Uuid
  | .user owner => some owner.id
  | .apiKey _ _ => none

/-- Which accounts a principal may read within a tenant. -/
structure ReadScope where
  tenantId : Uuid
  userId : Option Uuid := none
  isAdmin : Bool := false
  accountIds : Option (List Uuid) := none
deriving DecidableEq

namespace ReadScope

def forUser (user : Auth.User) : ReadScope where
  tenantId := user.tenantId
  userId := some user.id
  isAdmin := user.role = "admin"

def forApiKey (tenantId : Uuid) (accountScope : Option (List Uuid)) : ReadScope where
  tenantId
  accountIds := accountScope

/-- `account_visibility_where` -/
def isVisible (scope : ReadScope) (account : Account) : Bool :=
  match scope.accountIds with
  | some accountIds => account.tenantId = scope.tenantId && account.id ∈ accountIds
  | none => account.tenantId = scope.tenantId

end ReadScope

def getReadScope : Principal → ReadScope
  | .user owner => .forUser owner
  | .apiKey row accountScope => .forApiKey row.tenantId accountScope

@[simp] theorem tenantId_getReadScope (principal : Principal) :
    (getReadScope principal).tenantId = principal.tenantId := by
  cases principal <;> rfl

/-! ## Queries -/

namespace Database

variable (db : Database) (scope : ReadScope)

/-- The accounts of the tenant that pass `account_filter`. -/
def visibleAccounts : List Account := db.accounts.rows.filter scope.isVisible

/-- `account_ids_subquery` -/
def visibleAccountIds : List Uuid := (db.visibleAccounts scope).map Account.id

def isVisibleTransaction (transaction : Transaction) : Bool :=
  transaction.tenantId = scope.tenantId && transaction.accountId ∈ db.visibleAccountIds scope

/-- The transactions of the tenant on visible accounts. -/
def visibleTransactions : List Transaction :=
  db.transactions.rows.filter (db.isVisibleTransaction scope)

def visibleHoldings : List Holding :=
  db.holdings.filter fun holding =>
    holding.tenantId = scope.tenantId && holding.accountId ∈ db.visibleAccountIds scope

def visibleTaxLots : TaxLots.LotTable :=
  (db.taxLots scope.tenantId).keep fun lot => lot.accountId ∈ db.visibleAccountIds scope

/-- The rows of a table that belong to a transaction. -/
def attachedTo (transaction : Transaction) (table : AttachedTable) : List Attached :=
  (db.attached table).filter fun row =>
    row.transactionId = some transaction.id && row.tenantId = transaction.tenantId

end Database

end FinanceSync.Visibility
