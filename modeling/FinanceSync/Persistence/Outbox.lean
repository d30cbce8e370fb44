import FinanceSync.Persistence.Entities

/-!
# The transactional outbox

A write to an entity and the message about it are stored in one transaction.
A publisher later claims stored messages, hands them to the handlers and marks
them `sent` or `failed`.  The idempotency key of a message names the entity and
the event only, so every update of one entity has the same key, and the column
is unique.
-/

namespace FinanceSync.Persistence

open Lib

/-- The entity types that a sync emits messages about. -/
inductive EntityType
  | account
  | holding
  | scheduledPayment
  | cardTransaction
  | transaction
deriving DecidableEq

inductive EntityEvent
  | created
  | updated
deriving DecidableEq

/-- The key `{entity_type}:{entity_id}:{event}`. -/
structure IdempotencyKey where
  entityType : EntityType
  entityId : Uuid
  event : EntityEvent
deriving DecidableEq

/-- A message as it is added to a session. -/
structure OutboxDraft where
  aggregateId : Uuid
  aggregateType : EntityType
  eventType : EntityEvent
  idempotencyKey : Option IdempotencyKey
deriving DecidableEq

/-- A message in the transactional outbox. -/
structure OutboxMessage extends OutboxDraft where
  id : Uuid
  status : OutboxMessageStatus := .pending
  claimedAt : Option Instant := none
  publishedAt : Option Instant := none
  errorMessage : Option String := none
deriving DecidableEq

/-! ## Emitting -/

/-- Some message has the key. -/
def HasKey (messages : List OutboxMessage) (key : IdempotencyKey) : Prop :=
  ∃ message ∈ messages, message.idempotencyKey = some key

instance (messages : List OutboxMessage) (key : IdempotencyKey) :
    Decidable (HasKey messages key) :=
  inferInstanceAs (Decidable (∃ message ∈ messages, _))

/-- Emit an outbox message for `{entity_type}.created`. -/
def outboxEntityCreated (entityType : EntityType) (entityId : Uuid) : OutboxDraft :=
  ⟨entityId, entityType, .created, some ⟨entityType, entityId, .created⟩⟩

/-- Emit an outbox message for `{entity_type}.updated`; `none` where the message
that is already stored is returned in its place. -/
def outboxEntityUpdated (visible : List OutboxMessage) (entityType : EntityType)
    (entityId : Uuid) (deduplicate : Bool) : Option OutboxDraft :=
  if deduplicate ∧ HasKey visible ⟨entityType, entityId, .updated⟩ then none
  else some ⟨entityId, entityType, .updated, some ⟨entityType, entityId, .updated⟩⟩

/-- The stored messages. -/
abbrev Outbox := Table OutboxMessage OutboxMessage.id

/-- Store a message, which the unique constraint admits if its key is new. -/
def flushMessage (outbox : Outbox) (draft : OutboxDraft) : Except PersistError Outbox :=
  if ∃ stored ∈ outbox.rows,
      stored.idempotencyKey.isSome ∧ stored.idempotencyKey = draft.idempotencyKey then
    .error .duplicateKey
  else .ok (outbox.insert { draft with id := outbox.next } rfl)

/-- The messages that follow from what was done with one row. -/
def emit (entityType : EntityType) (deduplicate : Bool) (outbox : Outbox) (outcome : Outcome) :
    Except PersistError Outbox :=
  match outcome with
  | .created id => flushMessage outbox (outboxEntityCreated entityType id)
  | .updated id =>
      match outboxEntityUpdated outbox.rows entityType id deduplicate with
      | some draft => flushMessage outbox draft
      | none => .ok outbox
  | .unchanged _ => .ok outbox

/-! ## The publisher -/

/-- Claims older than this may be taken over by another publisher. -/
def claimTimeout : Int := 5 * 60 * 1000000

/-- The filter of `_fetch_pending`. -/
def OutboxMessage.claimable (now : Instant) (message : OutboxMessage) : Bool :=
  message.status = .pending ||
    (message.status = .processing &&
      match message.claimedAt with
      | none => true
      | some claimedAt => claimedAt < now - claimTimeout)

def OutboxMessage.claim (now : Instant) (message : OutboxMessage) : OutboxMessage :=
  { message with status := .processing, claimedAt := some now }

/-- The update at the end of `_dispatch`: `errors` are the tracebacks of the
handlers that failed.  Without handlers the message is sent. -/
def OutboxMessage.dispatch (now : Instant) (errors : List String) (message : OutboxMessage) :
    OutboxMessage :=
  if errors = [] then
    { message with status := .sent, publishedAt := some now, claimedAt := none }
  else
    { message with
      status := .failed
      errorMessage := some (("; ".intercalate errors).take 2048).toString
      claimedAt := none }

/-- What a publisher does to the stored messages. -/
inductive PublisherStep
  /-- Claim messages of one tick.  Which of the claimable ones these are (the
  oldest, no more than the batch size, none that is locked) is left open. -/
  | claim (now : Instant) (ids : List Uuid)
  | dispatch (now : Instant) (id : Uuid) (errors : List String)

/-- What a step of a publisher does to one message. -/
def PublisherStep.apply (step : PublisherStep) (message : OutboxMessage) : OutboxMessage :=
  match step with
  | .claim now ids =>
      if message.id ∈ ids ∧ message.claimable now then message.claim now else message
  | .dispatch now id errors => if message.id = id then message.dispatch now errors else message

@[simp] theorem PublisherStep.apply_id (step : PublisherStep) (message : OutboxMessage) :
    (step.apply message).id = message.id := by
  cases step with
  | claim now ids =>
      rw [PublisherStep.apply]
      split
      · rfl
      · rfl
  | dispatch now id errors =>
      rw [PublisherStep.apply]
      split
      · rw [OutboxMessage.dispatch]
        split
        · rfl
        · rfl
      · rfl

/-- A publisher never touches the keys. -/
@[simp] theorem PublisherStep.apply_idempotencyKey (step : PublisherStep)
    (message : OutboxMessage) :
    (step.apply message).idempotencyKey = message.idempotencyKey := by
  cases step with
  | claim now ids =>
      rw [PublisherStep.apply]
      split
      · rfl
      · rfl
  | dispatch now id errors =>
      rw [PublisherStep.apply]
      split
      · rw [OutboxMessage.dispatch]
        split
        · rfl
        · rfl
      · rfl

end FinanceSync.Persistence
