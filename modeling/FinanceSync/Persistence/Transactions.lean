import FinanceSync.Persistence.Outbox
import FinanceSync.Persistence.Upserts

/-!
# Writing transactions

`TransactionPersistence`: the per-row upsert, the bulk upsert of PostgreSQL, the
enrichment by a destination and the soft delete.  Each takes the stored rows and
returns them as they are after the write, with what was done to each row; the
messages that follow from that are emitted by `emit`.
-/

namespace FinanceSync.Persistence

open Lib

/-- What a transaction has besides the attributes that a sync writes. -/
structure TransactionState where
  revision : Nat := 1
  tombstonedAt : Option Instant := none
deriving DecidableEq

abbrev TransactionEntity := Entity ProviderKey TransactionState

abbrev Transactions := Entities ProviderKey TransactionState

def TransactionState.bump (state : TransactionState) : TransactionState :=
  { state with revision := state.revision + 1 }

/-! ## The values of a new row -/

/-- The fields of `_transaction_extension_values`. -/
def extensionFields : List Field :=
  [.providerMetadata, .providerMetadataContract, .merchantName, .merchantId, .merchantCity,
    .merchantCountry, .counterpartyName, .counterpartyAccountReference, .merchantCategoryCode,
    .originalType, .originalStatus, .authorizationStatus, .settlementStatus, .sourceRecordHash,
    .cashflowBucket, .classificationSource, .classificationOverride, .grossAmount,
    .grossCurrencyCode, .netAmount, .netCurrencyCode, .taxAmount, .taxCurrencyCode,
    .refundAmount, .refundCurrencyCode, .cashflowSuggestion]

/-- `value.model_dump(mode="json")` where the value is a pydantic model. -/
def PyValue.dumped : PyValue → PyValue
  | .model dump => .dict dump
  | value => value

/-- Derive the canonical downstream-export decision at ingestion time. -/
def transactionExportStatus (transaction : CanonicalTransactionData) : String :=
  match transaction.providerMetadata.bind (dictGet · "internal_transfer_detection") with
  | some detection =>
      if "bunq_easy_budgeting".toList.isPrefixOf detection.str.toList then "excluded"
      else "active"
  | none => "active"

/-- The values of a row for a transaction that is not stored yet. -/
def transactionRow (transaction : CanonicalTransactionData) (securityId : Option Uuid) :
    Attributes
  | .transactionType =>
      some (.text (StrEnum.value (StrEnum.coerce transaction.transactionType
        TransactionType.other)))
  | .status =>
      some (.text (StrEnum.value (StrEnum.coerce transaction.status TransactionStatus.pending)))
  | .exportStatus => some (.text (transactionExportStatus transaction))
  | .securityId => securityId.map .uuid
  | field => (transaction.getattr field).map PyValue.dumped

def transactionKey (tenantId : Uuid) (connectionId : Option Uuid)
    (transaction : CanonicalTransactionData) : ProviderKey :=
  ⟨tenantId, transaction.providerKey, connectionId, transaction.externalTransactionId⟩

/-! ## `persist_transaction` -/

/-- The fields that `persist_transaction` compares, in its order. -/
def transactionFields : List Field :=
  [.providerMetadata, .amount, .currencyCode, .occurredAt, .bookedAt, .transactionType,
    .description, .quantity, .unitPrice, .feeAmount, .feeCurrencyCode, .status, .exportStatus,
    .amountInBase, .baseCurrencyCode, .fxRate, .providerFingerprint, .providerMetadataContract,
    .merchantName, .merchantId, .merchantCity, .merchantCountry, .counterpartyName,
    .counterpartyAccountReference, .merchantCategoryCode, .originalType, .originalStatus,
    .authorizationStatus, .settlementStatus, .sourceRecordHash, .cashflowBucket,
    .cashflowSuggestion, .classificationSource, .classificationOverride, .grossAmount,
    .grossCurrencyCode, .netAmount, .netCurrencyCode, .taxAmount, .taxCurrencyCode,
    .refundAmount, .refundCurrencyCode]

/-- The values that `persist_transaction` compares with the stored ones: the
canonical record as it is, and the security that was resolved for it. -/
def incomingTransaction (transaction : CanonicalTransactionData) (securityId : Option Uuid) :
    Attributes
  | .securityId => securityId.map .uuid
  | field => transaction.getattr field

/-- The keys of `changed`.  A user classification is authoritative: an override
that is stored is not compared. -/
def changedTransactionFields (new existing : Attributes) : List Field :=
  (changedFields (transactionFields ++ [.securityId]) new existing).filter fun field =>
    !(field = .classificationOverride && (existing .classificationOverride).isSome)

/-- Some value that is to be flushed has no JSON form. -/
def anyUnserializable (fields : List Field) (new : Attributes) : Bool :=
  fields.any fun field => (new field).any fun value => !value.serializable

/-- Update the stored row of a transaction. -/
def refreshTransaction (transactions : Transactions) (existing : TransactionEntity)
    (new : Attributes) : Except PersistError (Transactions × Outcome) :=
  let changed := changedTransactionFields new existing.attributes
  if changed = [] then .ok (transactions, .unchanged existing.id)
  else if anyUnserializable changed new then .error .notSerializable
  else
    .ok (transactions.save { existing with
          attributes := setFields changed new existing.attributes
          rest := existing.rest.bump },
        .updated existing.id)

def persistTransaction (limitOne : LimitOne) (transactions : Transactions) (tenantId : Uuid)
    (transaction : CanonicalTransactionData) (securityId connectionId : Option Uuid) :
    Except PersistError (Transactions × Outcome) :=
  let key := transactionKey tenantId connectionId transaction
  match getByExternalId limitOne transactions key with
  | some existing =>
      refreshTransaction transactions existing (incomingTransaction transaction securityId)
  | none => .ok (create transactions key (transactionRow transaction securityId) {})

/-! ## `persist_transactions_batch` -/

/-- The columns that the bulk upsert updates. -/
def transactionUpdateColumns : List Field :=
  [.securityId, .amount, .currencyCode, .amountInBase, .baseCurrencyCode, .fxRate, .occurredAt,
    .bookedAt, .transactionType, .description, .quantity, .unitPrice, .feeAmount,
    .feeCurrencyCode, .status, .exportStatus, .providerFingerprint, .providerMetadata,
    .providerMetadataContract, .merchantName, .merchantId, .merchantCity, .merchantCountry,
    .counterpartyName, .counterpartyAccountReference, .merchantCategoryCode, .originalType,
    .originalStatus, .authorizationStatus, .settlementStatus, .sourceRecordHash,
    .cashflowBucket, .cashflowSuggestion, .classificationSource, .classificationOverride,
    .grossAmount, .grossCurrencyCode, .netAmount, .netCurrencyCode, .taxAmount,
    .taxCurrencyCode, .refundAmount, .refundCurrencyCode]

def transactionUpsert : UpsertStatement TransactionState :=
  ⟨transactionUpdateColumns, {}, TransactionState.bump⟩

/-- A transaction of a batch and the security that was resolved for it. -/
structure BatchElement where
  transaction : CanonicalTransactionData
  securityId : Option Uuid

/-- The extension fields that a row dict of the batch has. -/
def namedExtensions (values : Attributes) : List Field :=
  extensionFields.filter fun field => (values field).isSome

/-- A row dict without the extension fields that are not named. -/
def sentValues (named : List Field) (values : Attributes) : Attributes :=
  fun field => if field ∈ extensionFields ∧ field ∉ named then none else values field

/-- One `VALUES` list for several row dicts.  The columns are those of the first
dict: a later dict must have them all, and what else it has is not sent. -/
def multiValues (rows : List (ProviderKey × Attributes)) :
    Except PersistError (List (ProviderKey × Attributes)) :=
  match rows with
  | [] => .ok []
  | first :: rest =>
      if rest.all fun row => (namedExtensions first.2).all fun field => (row.2 field).isSome then
        .ok ((first :: rest).map fun row =>
          (row.1, sentValues (namedExtensions first.2) row.2))
      else .error .unevenValues

def chunkSize : Nat := 500

/-- The slices `rows[offset : offset + chunk_size]`. -/
def chunks {Row : Type} (rows : List Row) : List (List Row) :=
  (List.range ((rows.length + chunkSize - 1) / chunkSize)).map fun index =>
    (rows.drop (chunkSize * index)).take chunkSize

/-- One `INSERT ... ON CONFLICT DO UPDATE` for a chunk. -/
def upsertChunk (transactions : Transactions) (chunk : List (ProviderKey × Attributes)) :
    Except PersistError (Transactions × List Outcome) := do
  let rows ← multiValues chunk
  upsertRows transactionUpsert transactions rows

/-- `bulk_upsert_transactions` on PostgreSQL, for the rows of a batch. -/
def persistTransactionsBatch (transactions : Transactions) (tenantId : Uuid)
    (connectionId : Option Uuid) (batch : List BatchElement) :
    Except PersistError (Transactions × List Outcome) := do
  let rows := batch.map fun element =>
    (transactionKey tenantId connectionId element.transaction,
      transactionRow element.transaction element.securityId)
  let (transactions, outcomes) ← collect upsertChunk transactions (chunks rows)
  return (transactions, outcomes.flatten)

/-- The loop that runs on other databases. -/
def persistTransactionsPerRow (limitOne : LimitOne) (transactions : Transactions)
    (tenantId : Uuid) (connectionId : Option Uuid) (batch : List BatchElement) :
    Except PersistError (Transactions × List Outcome) :=
  collect (fun transactions element => persistTransaction limitOne transactions tenantId
    element.transaction element.securityId connectionId) transactions batch

/-! ## Writes that are not syncs -/

/-- Soft-delete a transaction while retaining its source history. -/
def tombstoneTransaction (transactions : Transactions) (tenantId id : Uuid) (now : Instant) :
    Transactions :=
  match transactions.rows.find? fun entity => entity.id = id with
  | none => transactions
  | some entity =>
      if entity.key.tenantId ≠ tenantId ∨ entity.rest.tombstonedAt.isSome then transactions
      else
        transactions.save { entity with
          attributes := fun field =>
            if field = .status then some (.text (StrEnum.value TransactionStatus.cancelled))
            else entity.attributes field
          rest := { entity.rest.bump with tombstonedAt := some now } }

/-- An item of an enrichment.  The names that are protected besides
`classification_override`, and those that a transaction does not have, are
skipped. -/
inductive EnrichmentItem
  | column (field : Field) (value : Option PyValue)
  | tombstonedAt (value : Option Instant)
  | skipped (name : String)

/-- One turn of the loop of `apply_destination_enrichment`; the flag says
whether an attribute was set. -/
def enrichItem (state : TransactionEntity × Bool) (item : EnrichmentItem) :
    Except PersistError (TransactionEntity × Bool) :=
  let entity := state.1
  match item with
  | .column field (some value) =>
      if field = .classificationOverride ∨ field ∉ transactionUpdateColumns ∨
          valuesDiffer (some value) (entity.attributes field) = false then .ok state
      else if value.serializable then
        .ok ({ entity with
              attributes := fun other =>
                if other = field then some value else entity.attributes other },
          true)
      else .error .notSerializable
  | .tombstonedAt (some value) =>
      if entity.rest.tombstonedAt = some value then .ok state
      else .ok ({ entity with rest := { entity.rest with tombstonedAt := some value } }, true)
  | _ => .ok state

/-- Apply destination-owned enrichment without replacing user state. -/
def applyDestinationEnrichment (transactions : Transactions) (tenantId id : Uuid)
    (enrichment : List EnrichmentItem) : Except PersistError Transactions :=
  match transactions.rows.find? fun entity => entity.id = id with
  | none => .ok transactions
  | some entity =>
      if entity.key.tenantId ≠ tenantId then .ok transactions
      else do
        let (enriched, changed) ← enrichment.foldlM enrichItem (entity, false)
        if changed then
          return transactions.save { enriched with rest := enriched.rest.bump }
        else return transactions

end FinanceSync.Persistence
