import FinanceSync.Lib.Run
import FinanceSync.Persistence.Transactions

/-!
# Persistence calls over the whole database

The write paths of a sync, each with the messages it emits, and runs of them.
A call reads and writes the database as its unit of work sees it; a unit of work
that is aborted leaves what was committed before it.
-/

namespace FinanceSync.Persistence

open Lib

abbrev Accounts := Entities ProviderKey Unit

abbrev Holdings := Entities SnapshotKey Unit

abbrev ScheduledPayments := Entities ProviderKey Unit

abbrev CardTransactions := Entities ProviderKey Unit

/-- The tables that the persistence layer writes. -/
structure Database where
  accounts : Accounts
  holdings : Holdings
  scheduledPayments : ScheduledPayments
  cardTransactions : CardTransactions
  transactions : Transactions
  outbox : Outbox

namespace Database

/-- The id that the next row of the type gets. -/
def nextId (db : Database) : EntityType → Nat
  | .account => db.accounts.next
  | .holding => db.holdings.next
  | .scheduledPayment => db.scheduledPayments.next
  | .cardTransaction => db.cardTransactions.next
  | .transaction => db.transactions.next

def empty : Database :=
  ⟨.empty, .empty, .empty, .empty, .empty, .empty⟩

/-- The database as another session sees it. -/
def reload (db : Database) : Database where
  accounts := Persistence.reload db.accounts
  holdings := Persistence.reload db.holdings
  scheduledPayments := Persistence.reload db.scheduledPayments
  cardTransactions := Persistence.reload db.cardTransactions
  transactions := Persistence.reload db.transactions
  outbox := db.outbox

end Database

/-! ## Accounts -/

/-- The fields that `persist_account` compares. -/
def accountFields : List Field :=
  [.name, .accountType, .accountSubtype, .currencyCode, .currentBalance, .availableBalance,
    .netAssetValue, .isoCurrencyCode, .providerMetadata, .capabilities, .isActive]

/-- The account that a canonical account is written to, and the rows with the
broker id of an adopted account.  Older Trading212 responses fell back to the
literal id `trading212`; that row is adopted once the real id is known. -/
def findAccount (limitOne : LimitOne) (accounts : Accounts) (key : ProviderKey) :
    Accounts × Option (Entity ProviderKey Unit) :=
  match getByExternalId limitOne accounts key with
  | some existing => (accounts, some existing)
  | none =>
      if key.providerKey = "trading212" ∧ key.externalId ≠ "trading212" then
        match limitOne.pick (accounts.rows.filter fun account =>
            account.key = { key with externalId := "trading212" }) with
        | some legacy =>
            let adopted :=
              { legacy with key := { legacy.key with externalId := key.externalId } }
            (accounts.save adopted, some adopted)
        | none => (accounts, none)
      else (accounts, none)

def accountKey (tenantId : Uuid) (connectionId : Option Uuid)
    (account : CanonicalAccountData) : ProviderKey :=
  ⟨tenantId, account.providerKey, connectionId, account.externalAccountId⟩

def persistAccount (limitOne : LimitOne) (accounts : Accounts) (tenantId : Uuid)
    (account : CanonicalAccountData) (connectionId : Option Uuid) : Accounts × Outcome :=
  let key := accountKey tenantId connectionId account
  let (accounts, existing) := findAccount limitOne accounts key
  persistEntity accounts existing (changedFields accountFields account.getattr) account.getattr
    key account.getattr ()

/-! ## Holdings -/

def holdingFields : List Field :=
  [.quantity, .costBasis, .costBasisCurrency, .marketValue, .currencyCode, .price,
    .priceCurrency]

def holdingKey (tenantId accountId securityId : Uuid) (holding : CanonicalHoldingData) :
    SnapshotKey :=
  ⟨tenantId, accountId, securityId, holding.observedAt.instant,
    StrEnum.coerce holding.source HoldingSource.providerSync⟩

/-- The values of a holding that differ; here `None` replaces what is stored. -/
def changedHoldingFields (new existing : Attributes) : List Field :=
  holdingFields.filter fun field => valuesDiffer (new field) (existing field)

def persistHolding (limitOne : LimitOne) (holdings : Holdings) (tenantId : Uuid)
    (holding : CanonicalHoldingData) (accountId securityId : Uuid) : Holdings × Outcome :=
  let key := holdingKey tenantId accountId securityId holding
  persistEntity holdings (getBySnapshot limitOne holdings key)
    (changedHoldingFields holding.getattr) holding.getattr key holding.getattr ()

def holdingUpsert : UpsertStatement Unit := ⟨holdingFields, (), id⟩

/-- The row dicts of a batch of holdings with their securities. -/
def holdingRows (tenantId accountId : Uuid) (batch : List (CanonicalHoldingData × Uuid)) :
    List (SnapshotKey × Attributes) :=
  batch.map fun (holding, securityId) =>
    (holdingKey tenantId accountId securityId holding, holding.getattr)

/-- `bulk_upsert_holdings` on PostgreSQL: all holdings in one statement. -/
def persistHoldingsBatch (holdings : Holdings) (tenantId accountId : Uuid)
    (batch : List (CanonicalHoldingData × Uuid)) :
    Except PersistError (Holdings × List Outcome) :=
  upsertRows holdingUpsert holdings (holdingRows tenantId accountId batch)

/-! ## Scheduled payments and card transactions -/

/-- The fields that `persist_scheduled_payment` compares.  A canonical scheduled
payment lacks the last ten, so they never change. -/
def scheduledPaymentFields : List Field :=
  [.amount, .currencyCode, .frequency, .interval, .nextExecutionDate, .endDate, .maxExecutions,
    .executionCount, .counterpartyName, .counterpartyIban, .description, .status,
    .providerMetadata, .providerMetadataContract, .merchantId, .merchantCategoryCode,
    .originalStatus, .authorizationStatus, .settlementStatus, .sourceRecordHash, .refundAmount,
    .refundCurrencyCode]

def scheduledPaymentKey (tenantId : Uuid) (connectionId : Option Uuid)
    (csp : CanonicalScheduledPaymentData) : ProviderKey :=
  ⟨tenantId, csp.providerKey, connectionId, csp.externalScheduleId⟩

/-- The values of a new scheduled payment. -/
def scheduledPaymentRow (csp : CanonicalScheduledPaymentData) : Attributes
  | .frequency =>
      some (.text (StrEnum.value (StrEnum.coerce csp.frequency ScheduleFrequency.custom)))
  | .status => some (.text (StrEnum.value (StrEnum.coerce csp.status ScheduleStatus.active)))
  | field => csp.getattr field

def persistScheduledPayment (limitOne : LimitOne) (scheduledPayments : ScheduledPayments)
    (tenantId : Uuid) (csp : CanonicalScheduledPaymentData) (connectionId : Option Uuid) :
    ScheduledPayments × Outcome :=
  let key := scheduledPaymentKey tenantId connectionId csp
  persistEntity scheduledPayments (getByExternalId limitOne scheduledPayments key)
    (changedFields scheduledPaymentFields csp.getattr) csp.getattr key
    (scheduledPaymentRow csp) ()

/-- The fields that `persist_card_transaction` compares. -/
def cardTransactionFields : List Field :=
  [.amount, .currencyCode, .merchantName, .merchantCity, .merchantCountry, .mcc, .cardId,
    .cardType, .cardLastFour, .occurredAt, .bookedAt, .authorizationType, .description, .status,
    .providerMetadata, .providerMetadataContract, .merchantId, .merchantCategoryCode,
    .originalStatus, .authorizationStatus, .settlementStatus, .sourceRecordHash, .refundAmount,
    .refundCurrencyCode]

def cardTransactionKey (tenantId : Uuid) (connectionId : Option Uuid)
    (cct : CanonicalCardTransactionData) : ProviderKey :=
  ⟨tenantId, cct.providerKey, connectionId, cct.externalCardTransactionId⟩

/-- The values that are compared and written: models are dumped first. -/
def incomingCardTransaction (cct : CanonicalCardTransactionData) : Attributes :=
  fun field => (cct.getattr field).map PyValue.dumped

/-- The values of a new card transaction. -/
def cardTransactionRow (cct : CanonicalCardTransactionData) : Attributes
  | .authorizationType =>
      some (.text (StrEnum.value (StrEnum.coerce cct.authorizationType
        CardAuthorizationType.other)))
  | .status =>
      some (.text (StrEnum.value (StrEnum.coerce cct.status TransactionStatus.pending)))
  | field => incomingCardTransaction cct field

def persistCardTransaction (limitOne : LimitOne) (cardTransactions : CardTransactions)
    (tenantId : Uuid) (cct : CanonicalCardTransactionData) (connectionId : Option Uuid) :
    CardTransactions × Outcome :=
  let key := cardTransactionKey tenantId connectionId cct
  persistEntity cardTransactions (getByExternalId limitOne cardTransactions key)
    (changedFields cardTransactionFields (incomingCardTransaction cct))
    (incomingCardTransaction cct) key (cardTransactionRow cct) ()

/-! ## Calls -/

/-- A call of the persistence layer. -/
inductive Call
  | persistAccount (tenantId : Uuid) (account : CanonicalAccountData)
      (connectionId : Option Uuid)
  | persistHolding (tenantId : Uuid) (holding : CanonicalHoldingData)
      (accountId securityId : Uuid)
  | persistHoldingsBatch (tenantId accountId : Uuid)
      (batch : List (CanonicalHoldingData × Uuid))
  | persistScheduledPayment (tenantId : Uuid) (csp : CanonicalScheduledPaymentData)
      (connectionId : Option Uuid)
  | persistCardTransaction (tenantId : Uuid) (cct : CanonicalCardTransactionData)
      (connectionId : Option Uuid)
  | persistTransaction (tenantId : Uuid) (transaction : CanonicalTransactionData)
      (securityId connectionId : Option Uuid)
  | persistTransactionsBatch (tenantId : Uuid) (connectionId : Option Uuid)
      (batch : List BatchElement)

/-- The type of the entities that the call writes. -/
def Call.entityType : Call → EntityType
  | persistAccount .. => .account
  | persistHolding .. => .holding
  | persistHoldingsBatch .. => .holding
  | persistScheduledPayment .. => .scheduledPayment
  | persistCardTransaction .. => .cardTransaction
  | persistTransaction .. => .transaction
  | persistTransactionsBatch .. => .transaction

/-- The flag with which the call emits `updated` messages. -/
def Call.deduplicate : Call → Bool
  | persistAccount .. => true
  | persistTransaction .. => true
  | persistTransactionsBatch .. => true
  | _ => false

/-- The writes of a call, before its messages, and what it did to each row. -/
def Call.write (limitOne : LimitOne) (db : Database) :
    Call → Except PersistError (Database × List Outcome)
  | persistAccount tenantId account connectionId =>
      let (accounts, outcome) :=
        Persistence.persistAccount limitOne db.accounts tenantId account connectionId
      .ok ({ db with accounts }, [outcome])
  | persistHolding tenantId holding accountId securityId =>
      let (holdings, outcome) :=
        Persistence.persistHolding limitOne db.holdings tenantId holding accountId securityId
      .ok ({ db with holdings }, [outcome])
  | persistHoldingsBatch tenantId accountId batch => do
      let (holdings, outcomes) ←
        Persistence.persistHoldingsBatch db.holdings tenantId accountId batch
      return ({ db with holdings }, outcomes)
  | persistScheduledPayment tenantId csp connectionId =>
      let (scheduledPayments, outcome) :=
        Persistence.persistScheduledPayment limitOne db.scheduledPayments tenantId csp
          connectionId
      .ok ({ db with scheduledPayments }, [outcome])
  | persistCardTransaction tenantId cct connectionId =>
      let (cardTransactions, outcome) :=
        Persistence.persistCardTransaction limitOne db.cardTransactions tenantId cct
          connectionId
      .ok ({ db with cardTransactions }, [outcome])
  | persistTransaction tenantId transaction securityId connectionId => do
      let (transactions, outcome) ←
        Persistence.persistTransaction limitOne db.transactions tenantId transaction securityId
          connectionId
      return ({ db with transactions }, [outcome])
  | persistTransactionsBatch tenantId connectionId batch => do
      let (transactions, outcomes) ←
        Persistence.persistTransactionsBatch db.transactions tenantId connectionId batch
      return ({ db with transactions }, outcomes)

/-- The order in which a call emits: first about the rows that it created. -/
def emissions (outcomes : List Outcome) : List Outcome :=
  (insertedIds outcomes).map .created ++ (updatedIds outcomes).map .updated

/-- A call with its messages. -/
def Call.run (limitOne : LimitOne) (db : Database) (call : Call) :
    Except PersistError Database := do
  let (written, outcomes) ← call.write limitOne db
  let outbox ← (emissions outcomes).foldlM (emit call.entityType call.deduplicate) db.outbox
  return { written with outbox }

/-! ## Runs -/

/-- What was committed, and the database as the unit of work in progress sees
it. -/
structure Session where
  committed : Database
  current : Database

namespace Session

/-- Nothing stored. -/
def fresh : Session := ⟨.empty, .empty⟩

/-- What the rest of the program may do to the rows: it adds, changes and deletes
some, and it emits no messages about them. -/
structure Edit where
  apply : Database → Database
  nextId : ∀ db entityType, db.nextId entityType ≤ (apply db).nextId entityType
  outbox : ∀ db, (apply db).outbox = db.outbox

inductive Step
  | call (call : Call)
  /-- The unit of work does something else. -/
  | edit (edit : Edit)
  /-- The unit of work ends and another one begins. -/
  | commit
  /-- A publisher works on the messages that were committed. -/
  | publish (step : PublisherStep)

/-- A step of a publisher, which sees the messages with an id below `bound`. -/
def publish (bound : Uuid) (step : PublisherStep) (db : Database) : Database :=
  { db with
    outbox := db.outbox.update
      (fun message => if message.id < bound then step.apply message else message)
      (by
        intro message
        split
        · exact step.apply_id message
        · rfl) }

def step (limitOne : LimitOne) (session : Session) : Step → Session
  | .call call =>
      match call.run limitOne session.current with
      | .ok current => { session with current }
      | .error _ => ⟨session.committed, session.committed⟩
  | .edit edit => { session with current := edit.apply session.current }
  | .commit => ⟨session.current.reload, session.current.reload⟩
  | .publish step =>
      let bound := session.committed.outbox.next
      ⟨publish bound step session.committed, publish bound step session.current⟩

/-- The step is a call that the unique constraint on the idempotency key aborts. -/
def abortedByKey (limitOne : LimitOne) (session : Session) : Step → Bool
  | .call call =>
      match call.run limitOne session.current with
      | .error .duplicateKey => true
      | _ => false
  | _ => false

end Session

end FinanceSync.Persistence
