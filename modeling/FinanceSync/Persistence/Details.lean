import FinanceSync.Persistence.Transactions

/-!
# The details of transactions

Beside its row a transaction has source references, splits and annotations, which
are stored when it is created, and lifecycle events, one for each write of
`persist_transaction`.  A write takes the stored tables and returns them as they
are after it.
-/

namespace FinanceSync.Persistence

open Lib

/-! ## Rows -/

structure TransactionSourceReference where
  tenantId : Uuid
  transactionId : Uuid
  objectType : String
  externalIds : List String
  providerRevisions : List String

structure TransactionSplit where
  tenantId : Uuid
  transactionId : Uuid
  amount : Decimal
  currencyCode : String
  percentage : Option Decimal
  categorySuggestion : Option Dict
  destination : Option String
  provenance : String

structure TransactionAnnotation where
  tenantId : Uuid
  transactionId : Uuid
  annotationType : String
  contentHash : Option String
  mimeType : Option String
  safeReference : Option String
  owner : Option String
  retentionUntil : Option AwareDatetime
  destinationReference : Option String

inductive EventPayload
  | changedFields (names : List String)
  | created (externalTransactionId : String) (amount : PyText) (currencyCode : String)
deriving DecidableEq

/-- Append-only lifecycle events for canonical transactions. -/
structure TransactionLifecycleEvent where
  tenantId : Uuid
  transactionId : Uuid
  eventType : String
  idempotencyKey : String
  payload : EventPayload
  actor : Option String := none
  provenance : String := "provider_sync"
  sourceRevision : Nat
deriving DecidableEq

/-- `uq_transaction_event_idempotency` -/
def TransactionLifecycleEvent.clashes (event other : TransactionLifecycleEvent) : Bool :=
  event.tenantId = other.tenantId && event.transactionId = other.transactionId &&
    event.idempotencyKey = other.idempotencyKey

/-- The tables that depend on the transactions. -/
structure Details where
  references : List TransactionSourceReference := []
  splits : List TransactionSplit := []
  annotations : List TransactionAnnotation := []
  events : List TransactionLifecycleEvent := []

structure DetailedTransactions where
  transactions : Transactions
  details : Details

namespace Details

/-- The rows about a transaction. -/
def about (details : Details) (transactionId : Uuid) : Details where
  references := details.references.filter fun row => row.transactionId = transactionId
  splits := details.splits.filter fun row => row.transactionId = transactionId
  annotations := details.annotations.filter fun row => row.transactionId = transactionId
  events := details.events.filter fun row => row.transactionId = transactionId

/-! ## Events -/

def addEvent (details : Details) (event : TransactionLifecycleEvent) : Details :=
  { details with events := details.events ++ [event] }

/-- Add an event where the database has none with its key. -/
def flushEvent (details : Details) (event : TransactionLifecycleEvent) :
    Except PersistError Details :=
  if details.events.any event.clashes then .error .duplicateKey else .ok (details.addEvent event)

end Details

/-- The event of `_add_lifecycle_event`. -/
def lifecycleEvent (tenantId : Uuid) (transaction : TransactionEntity) (eventType : String)
    (payload : EventPayload) (provenance : String) : TransactionLifecycleEvent where
  tenantId := tenantId
  transactionId := transaction.id
  eventType := eventType
  idempotencyKey :=
    transaction.key.providerKey ++ ":" ++ transaction.key.externalId ++ ":" ++ eventType ++ ":" ++
      toString transaction.rest.revision
  payload := payload
  provenance := provenance
  sourceRevision := transaction.rest.revision

/-- The event of a transaction that `persist_transaction` changed. -/
def changeEvent (tenantId : Uuid) (transaction : CanonicalTransactionData)
    (existing : TransactionEntity) (changed : List Field) : TransactionLifecycleEvent :=
  let eventType :=
    if transaction.refundAmount.isSome then "refund"
    else if transaction.status = "reversed" then "reverse"
    else "update"
  lifecycleEvent tenantId { existing with rest := existing.rest.bump } eventType
    (.changedFields ((changed.map Field.attributeName).insertionSort (· ≤ ·)))
    (if .sourceRecordHash ∈ changed then "source_correction" else "provider_sync")

/-- The event of a transaction that `persist_transaction` created. -/
def createEvent (transaction : CanonicalTransactionData) (entity : TransactionEntity) :
    TransactionLifecycleEvent :=
  lifecycleEvent entity.key.tenantId entity "create"
    (.created transaction.externalTransactionId (str (some (.decimal transaction.amount)))
      transaction.currencyCode)
    "provider_sync"

/-! ## Details of a new transaction -/

def SourceReference.row (entity : TransactionEntity) (reference : SourceReference) :
    TransactionSourceReference where
  tenantId := entity.key.tenantId
  transactionId := entity.id
  objectType := reference.objectType
  externalIds := reference.externalIds
  providerRevisions := reference.providerRevisions

def TransactionSplitData.row (entity : TransactionEntity) (split : TransactionSplitData) :
    TransactionSplit where
  tenantId := entity.key.tenantId
  transactionId := entity.id
  amount := split.amount
  currencyCode := split.currencyCode
  percentage := split.percentage
  categorySuggestion := split.categorySuggestion.map CategorySuggestion.modelDump
  destination := split.destination
  provenance := split.provenance

def TransactionAnnotationData.row (entity : TransactionEntity)
    (source : TransactionAnnotationData) : TransactionAnnotation where
  tenantId := entity.key.tenantId
  transactionId := entity.id
  annotationType := source.annotationType
  contentHash := source.contentHash
  mimeType := source.mimeType
  safeReference := source.safeReference
  owner := source.owner
  retentionUntil := source.retentionUntil
  destinationReference := source.destinationReference

/-- Persist non-destructive source relations and annotations on create. -/
def addTransactionDetails (details : Details) (entity : TransactionEntity)
    (source : CanonicalTransactionData) : Details :=
  { details with
    references := details.references ++ source.sourceReferences.map (SourceReference.row entity)
    splits := details.splits ++ source.splits.map (TransactionSplitData.row entity)
    annotations := details.annotations ++
      source.annotations.map (TransactionAnnotationData.row entity) }

/-! ## Writes -/

/-- The row that `persist_transaction` adds. -/
def newTransaction (transactions : Transactions) (tenantId : Uuid)
    (transaction : CanonicalTransactionData) (securityId connectionId : Option Uuid) :
    TransactionEntity :=
  ⟨transactions.next, transactionKey tenantId connectionId transaction,
    transactionRow transaction securityId, {}⟩

/-- The details of a transaction that was created, with its event. -/
def recordCreate (details : Details) (entity : TransactionEntity)
    (transaction : CanonicalTransactionData) : Details :=
  -- The id was generated just now, so that no event can have the key.
  addTransactionDetails (details.addEvent (createEvent transaction entity)) entity transaction

/-- What `persist_transaction` adds to the details. -/
def recordTransaction (limitOne : LimitOne) (stored : DetailedTransactions) (tenantId : Uuid)
    (transaction : CanonicalTransactionData) (securityId connectionId : Option Uuid) :
    Except PersistError Details :=
  match getByExternalId limitOne stored.transactions
      (transactionKey tenantId connectionId transaction) with
  | some existing =>
      let changed := changedTransactionFields (incomingTransaction transaction securityId)
        existing.attributes
      if changed = [] then .ok stored.details
      else stored.details.flushEvent (changeEvent tenantId transaction existing changed)
  | none =>
      .ok (recordCreate stored.details
        (newTransaction stored.transactions tenantId transaction securityId connectionId)
        transaction)

/-- `persist_transaction` with all that it writes. -/
def persistDetailedTransaction (limitOne : LimitOne) (stored : DetailedTransactions)
    (tenantId : Uuid) (transaction : CanonicalTransactionData)
    (securityId connectionId : Option Uuid) :
    Except PersistError (DetailedTransactions × Outcome) := do
  let (transactions, outcome) ← persistTransaction limitOne stored.transactions tenantId
    transaction securityId connectionId
  let details ← recordTransaction limitOne stored tenantId transaction securityId connectionId
  return (⟨transactions, details⟩, outcome)

/-- `persist_transaction` for each element in order. -/
def persistDetailedPerRow (limitOne : LimitOne) (stored : DetailedTransactions)
    (tenantId : Uuid) (connectionId : Option Uuid) (batch : List BatchElement) :
    Except PersistError (DetailedTransactions × List Outcome) :=
  collect (fun stored element => persistDetailedTransaction limitOne stored tenantId
    element.transaction element.securityId connectionId) stored batch

/-- `persist_transactions_batch` on PostgreSQL, which writes transactions and
messages of the outbox only. -/
def persistDetailedBatch (stored : DetailedTransactions) (tenantId : Uuid)
    (connectionId : Option Uuid) (batch : List BatchElement) :
    Except PersistError (DetailedTransactions × List Outcome) := do
  let (transactions, outcomes) ←
    persistTransactionsBatch stored.transactions tenantId connectionId batch
  return ({ stored with transactions }, outcomes)

end FinanceSync.Persistence
