import FinanceSync.Lib.Run
import FinanceSync.Persistence.BulkStatements

/-!
# State that belongs to the user

A user may override the category of a transaction and may tombstone it.  Runs of
syncs, tombstones and enrichments are to leave the override and the cancelled
status of a tombstoned transaction alone.  The per-row sync guards the override;
no path looks at the tombstone.
-/

namespace FinanceSync.Persistence

open Lib

/-! ## Runs -/

/-- A call that writes transactions. -/
inductive Write
  | persistTransaction (tenantId : Uuid) (transaction : CanonicalTransactionData)
      (securityId connectionId : Option Uuid)
  /-- The path of PostgreSQL. -/
  | persistTransactionsBatch (tenantId : Uuid) (connectionId : Option Uuid)
      (batch : List BatchElement)
  | tombstoneTransaction (tenantId id : Uuid) (now : Instant)
  | applyDestinationEnrichment (tenantId id : Uuid) (enrichment : List EnrichmentItem)
  /-- The writes so far are committed and another session loads the rows. -/
  | reload

namespace Write

/-- The call is a provider sync. -/
def isSync : Write → Bool
  | persistTransaction .. => true
  | persistTransactionsBatch .. => true
  | _ => false

def run (limitOne : LimitOne) (transactions : Transactions) :
    Write → Except PersistError Transactions
  | persistTransaction tenantId transaction securityId connectionId => do
      let (transactions, _) ← Persistence.persistTransaction limitOne transactions tenantId
        transaction securityId connectionId
      return transactions
  | persistTransactionsBatch tenantId connectionId batch => do
      let (transactions, _) ← Persistence.persistTransactionsBatch transactions tenantId
        connectionId batch
      return transactions
  | tombstoneTransaction tenantId id now =>
      .ok (Persistence.tombstoneTransaction transactions tenantId id now)
  | applyDestinationEnrichment tenantId id enrichment =>
      Persistence.applyDestinationEnrichment transactions tenantId id enrichment
  | reload => .ok (Persistence.reload transactions)

/-- The rows after a call; one that is rejected is rolled back. -/
def step (limitOne : LimitOne) (transactions : Transactions) (write : Write) : Transactions :=
  match write.run limitOne transactions with
  | .ok transactions => transactions
  | .error _ => transactions

end Write

/-! ## What belongs to the user -/

/-- The status that a tombstone sets. -/
def cancelledStatus : PyValue := .text (StrEnum.value TransactionStatus.cancelled)

/-- The transaction is tombstoned and cancelled. -/
def Tombstoned (entity : TransactionEntity) : Prop :=
  entity.rest.tombstonedAt.isSome ∧
    (entity.attributes .status).map PyValue.stored = some cancelledStatus.stored

instance (entity : TransactionEntity) : Decidable (Tombstoned entity) :=
  inferInstanceAs (Decidable (_ ∧ _))

/-- A row has kept its override, if it had one and the write is a sync, and its
tombstone. -/
structure EntityKept (isSync : Bool) (old new : TransactionEntity) : Prop where
  id : new.id = old.id
  key : new.key = old.key
  override : isSync = true → (old.attributes .classificationOverride).isSome →
    (new.attributes .classificationOverride).map PyValue.stored =
      (old.attributes .classificationOverride).map PyValue.stored
  tombstone : Tombstoned old → Tombstoned new

/-- Every row is still there and has kept what belongs to the user. -/
def RowsKept (isSync : Bool) (before after : Transactions) : Prop :=
  ∀ old ∈ before.rows, ∃ new ∈ after.rows, EntityKept isSync old new

/-- The write leaves what belongs to the user. -/
def UserStateKept (limitOne : LimitOne) (transactions : Transactions) (write : Write) : Prop :=
  RowsKept write.isSync transactions (write.step limitOne transactions)

theorem EntityKept.refl (isSync : Bool) (entity : TransactionEntity) :
    EntityKept isSync entity entity :=
  ⟨rfl, rfl, fun _ _ => rfl, fun tombstoned => tombstoned⟩

theorem rowsKept_refl (isSync : Bool) (transactions : Transactions) :
    RowsKept isSync transactions transactions :=
  fun entity entityMem => ⟨entity, entityMem, .refl isSync entity⟩

/-- A new row does not touch the others. -/
theorem rowsKept_insert {isSync : Bool} {before after : Transactions} {row : TransactionEntity}
    (fresh : row.id = after.next) (kept : RowsKept isSync before after) :
    RowsKept isSync before (after.insert row fresh) := by
  intro old oldMem
  obtain ⟨new, newMem, entityKept⟩ := kept old oldMem
  exact ⟨new, List.mem_append_left _ newMem, entityKept⟩

/-- Saving a row keeps what belongs to the user if it does so for every row that
it replaces. -/
theorem rowsKept_save {isSync : Bool} {before after : Transactions}
    {existing row : TransactionEntity} (kept : RowsKept isSync before after)
    (isMem : existing ∈ after.rows) (sameId : row.id = existing.id)
    (replaces : ∀ old ∈ before.rows, EntityKept isSync old existing →
      EntityKept isSync old row) :
    RowsKept isSync before (after.save row) := by
  intro old oldMem
  obtain ⟨new, newMem, entityKept⟩ := kept old oldMem
  by_cases here : new.id = row.id
  · have isExisting : new = existing := after.eq_of_key_eq newMem isMem (here.trans sameId)
    refine ⟨row, ?_, replaces old oldMem (isExisting ▸ entityKept)⟩
    exact List.mem_map.mpr ⟨new, newMem, if_pos here⟩
  · exact ⟨new, after.mem_save_of_key_ne newMem here, entityKept⟩

theorem EntityKept.trans {isSync : Bool} {old middle new : TransactionEntity}
    (first : EntityKept isSync old middle) (second : EntityKept isSync middle new) :
    EntityKept isSync old new where
  id := second.id.trans first.id
  key := second.key.trans first.key
  override := by
    intro sync overridden
    have kept := first.override sync overridden
    have stillOverridden : (middle.attributes .classificationOverride).isSome := by
      rw [← Option.isSome_map (f := PyValue.stored), kept, Option.isSome_map]
      exact overridden
    rw [second.override sync stillOverridden, kept]
  tombstone := fun tombstoned => second.tombstone (first.tombstone tombstoned)

/-! ## Writes that are safe -/

/-- An item of an enrichment does not give another status than cancelled. -/
def EnrichmentItem.keepsCancelled : EnrichmentItem → Bool
  | .column .status (some value) => !valuesDiffer (some value) (some cancelledStatus)
  | _ => true

/-- The condition under which a write leaves what belongs to the user. -/
def Safe (limitOne : LimitOne) (transactions : Transactions) : Write → Prop
  | .persistTransaction tenantId transaction securityId connectionId =>
      ∀ found ∈ getByExternalId limitOne transactions
          (transactionKey tenantId connectionId transaction),
        Tombstoned found →
          transaction.status = StrEnum.value TransactionStatus.cancelled ∨
            anyUnserializable (changedByRow transaction securityId found.attributes)
              (incomingTransaction transaction securityId) = true
  | .persistTransactionsBatch tenantId connectionId batch =>
      EvenChunks batch → ∀ element ∈ withNames batch, ∀ stored ∈ transactions.rows,
        stored.key = transactionKey tenantId connectionId element.1.transaction →
          ((stored.attributes .classificationOverride).isSome →
            (sentRow tenantId connectionId element).2 .classificationOverride ≠ none →
              ((sentRow tenantId connectionId element).2 .classificationOverride).map
                  PyValue.stored =
                (stored.attributes .classificationOverride).map PyValue.stored) ∧
          (Tombstoned stored →
            StrEnum.coerce element.1.transaction.status TransactionStatus.pending = .cancelled)
  | .tombstoneTransaction .. => True
  | .applyDestinationEnrichment tenantId id enrichment =>
      ∀ stored ∈ transactions.rows, stored.id = id → stored.key.tenantId = tenantId →
        Tombstoned stored → ∀ item ∈ enrichment, item.keepsCancelled
  | .reload => True

instance (limitOne : LimitOne) (transactions : Transactions) (write : Write) :
    Decidable (Safe limitOne transactions write) :=
  match write with
  | .persistTransaction .. =>
      inferInstanceAs (Decidable (∀ found ∈ getByExternalId _ _ _, _ → _ ∨ _))
  | .persistTransactionsBatch .. => inferInstanceAs (Decidable (_ → ∀ element ∈ _, _))
  | .tombstoneTransaction .. => inferInstanceAs (Decidable True)
  | .applyDestinationEnrichment .. => inferInstanceAs (Decidable (∀ stored ∈ _, _))
  | .reload => inferInstanceAs (Decidable True)

/-! ## Each write keeps what belongs to the user -/

variable {limitOne : LimitOne} {transactions transactions' : Transactions}

/-- The per-row sync guards the override that is stored. -/
theorem persistTransaction_kept {tenantId : Uuid} {transaction : CanonicalTransactionData}
    {securityId connectionId : Option Uuid} {outcome : Outcome}
    (safe : Safe limitOne transactions
      (.persistTransaction tenantId transaction securityId connectionId))
    (persisted : persistTransaction limitOne transactions tenantId transaction securityId
      connectionId = .ok (transactions', outcome)) :
    RowsKept true transactions transactions' := by
  rw [persistTransaction] at persisted
  split at persisted
  · next existing found =>
      rw [refreshTransaction] at persisted
      split at persisted
      · cases persisted
        exact rowsKept_refl true transactions
      · split at persisted
        · cases persisted
        · next serializable =>
            cases persisted
            apply rowsKept_save (rowsKept_refl true transactions)
              (mem_of_getByExternalId found).1 (by rfl)
            intro old _ kept
            apply kept.trans
            refine ⟨rfl, rfl, ?_, ?_⟩
            · intro _ overridden
              dsimp only
              rw [setFields, if_neg]
              intro changed
              exact (mem_changedByRow_iff.mp changed).2.2 ⟨rfl, overridden⟩
            · intro tombstoned
              refine ⟨tombstoned.1, ?_⟩
              dsimp only
              rw [setFields]
              split
              · rcases safe existing found tombstoned with cancelled | rejected
                · exact congrArg (fun status => some (ColumnValue.text status)) cancelled
                · exact absurd rejected serializable
              · exact tombstoned.2
  · cases persisted
    exact rowsKept_insert rfl (rowsKept_refl true transactions)

/-- A row of a statement keeps what belongs to the user if it does so for the
stored row that it updates. -/
theorem upsertedRow_kept {before : Transactions} {written : List Uuid} {key : ProviderKey}
    {incoming : Attributes} {outcome : Outcome} (kept : RowsKept true before transactions)
    (upserted : UpsertedRow transactionUpsert transactions written key incoming transactions'
      outcome)
    (override : ∀ stored ∈ before.rows, stored.key = key →
      (stored.attributes .classificationOverride).isSome →
      incoming .classificationOverride ≠ none →
      (incoming .classificationOverride).map PyValue.stored =
        (stored.attributes .classificationOverride).map PyValue.stored)
    (tombstone : ∀ stored ∈ before.rows, stored.key = key → Tombstoned stored →
      incoming .status = some cancelledStatus) :
    RowsKept true before transactions' := by
  cases upserted with
  | created absent => exact rowsKept_insert rfl kept
  | unchanged existing found notWritten quiet => exact kept
  | updated existing found notWritten fires =>
      obtain ⟨existingMem, existingKey⟩ := mem_of_findByKey found
      apply rowsKept_save kept existingMem (by rfl)
      intro old oldMem entityKept
      have oldKey : old.key = key := entityKept.key.symm.trans existingKey
      refine ⟨entityKept.id, entityKept.key, ?_, ?_⟩
      · intro sync overridden
        change (coalesce (incoming .classificationOverride) _).map PyValue.stored = _
        cases sent : incoming .classificationOverride with
        | none => exact entityKept.override sync overridden
        | some value =>
            have same := override old oldMem oldKey overridden (by rw [sent]; simp)
            rwa [sent] at same
      · intro tombstoned
        refine ⟨(entityKept.tombstone tombstoned).1, ?_⟩
        change (coalesce (incoming .status) _).map PyValue.stored = _
        rw [tombstone old oldMem oldKey tombstoned]
        rfl

/-- A statement for a chunk keeps what belongs to the user. -/
theorem upsertChunk_kept {tenantId : Uuid} {connectionId : Option Uuid} {batch : List BatchElement}
    {before : Transactions} {chunk : List BatchElement} {outcomes : List Outcome}
    (safe : Safe limitOne before (.persistTransactionsBatch tenantId connectionId batch))
    (even : EvenChunks batch) (chunkMem : chunk ∈ chunks batch)
    (kept : RowsKept true before transactions)
    (upserted : upsertChunk transactions (chunk.map (elementRow tenantId connectionId)) =
      .ok (transactions', outcomes)) :
    RowsKept true before transactions' := by
  rw [upsertChunk, multiValues_chunk, if_pos (even chunk chunkMem)] at upserted
  change upsertRows transactionUpsert transactions _ = _ at upserted
  obtain ⟨⟨⟨last, written⟩, collected⟩, ok, returned⟩ := bind_eq_ok.mp upserted
  cases returned
  have step : ∀ (state : Transactions × List Uuid) (row : ProviderKey × Attributes)
      (next : Transactions × List Uuid) (outcome : Outcome),
      row ∈ chunk.map (fun element =>
        sentRow tenantId connectionId (element, chunkNames chunk)) →
      RowsKept true before state.1 →
      upsertStep transactionUpsert state row = .ok (next, outcome) →
      RowsKept true before next.1 := by
    intro state row next outcome rowMem stateKept stepped
    obtain ⟨element, elementMem, rfl⟩ := List.mem_map.mp rowMem
    have pairMem : (element, chunkNames chunk) ∈ withNames batch :=
      List.mem_flatMap.mpr ⟨chunk, chunkMem, List.mem_map_of_mem elementMem⟩
    have pairSafe := safe even (element, chunkNames chunk) pairMem
    apply upsertedRow_kept stateKept (upsertRow_cases (upsertStep_ok.mp stepped).1)
    · intro stored storedMem sameKey
      exact (pairSafe stored storedMem sameKey).1
    · intro stored storedMem sameKey tombstoned
      change some (PyValue.text (StrEnum.value (StrEnum.coerce element.transaction.status
        TransactionStatus.pending))) = _
      rw [(pairSafe stored storedMem sameKey).2 tombstoned]
      rfl
  exact collect_invariant (fun state : Transactions × List Uuid => RowsKept true before state.1)
    _ step kept ok

theorem persistTransactionsBatch_kept {tenantId : Uuid} {connectionId : Option Uuid}
    {batch : List BatchElement} {outcomes : List Outcome}
    (safe : Safe limitOne transactions (.persistTransactionsBatch tenantId connectionId batch))
    (persisted : persistTransactionsBatch transactions tenantId connectionId batch =
      .ok (transactions', outcomes)) :
    RowsKept true transactions transactions' := by
  have even : EvenChunks batch := by
    by_contra uneven
    obtain ⟨error, failed⟩ :=
      persistTransactionsBatch_uneven tenantId connectionId uneven transactions
    rw [persisted] at failed
    cases failed
  obtain ⟨⟨last, collected⟩, ok, returned⟩ := bind_eq_ok.mp persisted
  cases returned
  change collect upsertChunk transactions
    (chunks (batch.map (elementRow tenantId connectionId))) = _ at ok
  rw [chunks_map, collect_map] at ok
  refine collect_invariant (RowsKept true transactions) _ ?_ (rowsKept_refl true transactions) ok
  intro state chunk next outcome chunkMem kept upserted
  exact upsertChunk_kept safe even chunkMem kept upserted

/-- A tombstone is of the user, so only the tombstones have to be kept. -/
theorem tombstoneTransaction_kept (tenantId id : Uuid) (now : Instant) :
    RowsKept false transactions (tombstoneTransaction transactions tenantId id now) := by
  rw [tombstoneTransaction]
  split
  · exact rowsKept_refl false transactions
  · next entity found =>
      split
      · exact rowsKept_refl false transactions
      · apply rowsKept_save (rowsKept_refl false transactions)
          (List.mem_of_find?_eq_some found) (by rfl)
        intro old _ kept
        exact ⟨kept.id, kept.key, fun sync => Bool.noConfusion sync, fun _ => ⟨rfl, rfl⟩⟩

/-- An item of an enrichment stays on its row, and one that does not give another
status leaves a tombstone. -/
theorem enrichItem_kept {state next : TransactionEntity × Bool} {item : EnrichmentItem}
    (enriched : enrichItem state item = .ok next) :
    next.1.id = state.1.id ∧ next.1.key = state.1.key ∧
      (item.keepsCancelled = true → Tombstoned state.1 → Tombstoned next.1) := by
  cases item with
  | skipped name =>
      cases enriched
      exact ⟨rfl, rfl, fun _ tombstoned => tombstoned⟩
  | tombstonedAt value =>
      cases value with
      | none =>
          cases enriched
          exact ⟨rfl, rfl, fun _ tombstoned => tombstoned⟩
      | some value =>
          rw [enrichItem] at enriched
          split at enriched
          · cases enriched
            exact ⟨rfl, rfl, fun _ tombstoned => tombstoned⟩
          · cases enriched
            exact ⟨rfl, rfl, fun _ tombstoned => ⟨rfl, tombstoned.2⟩⟩
  | column field value =>
      cases value with
      | none =>
          cases enriched
          exact ⟨rfl, rfl, fun _ tombstoned => tombstoned⟩
      | some value =>
          rw [enrichItem] at enriched
          split at enriched
          · cases enriched
            exact ⟨rfl, rfl, fun _ tombstoned => tombstoned⟩
          · next sets =>
              split at enriched
              · cases enriched
                refine ⟨rfl, rfl, fun keeps tombstoned => ⟨tombstoned.1, ?_⟩⟩
                dsimp only
                split
                · next isStatus =>
                    -- The text that the item gives is the stored one, so it is not set.
                    subst isStatus
                    obtain ⟨stored, isStored, storedText⟩ :=
                      Option.map_eq_some_iff.mp tombstoned.2
                    have storedStatus : stored = cancelledStatus := by
                      cases stored <;> cases storedText
                      rfl
                    rw [EnrichmentItem.keepsCancelled, Bool.not_eq_true'] at keeps
                    apply absurd _ sets
                    rw [isStored, storedStatus]
                    exact .inr (.inr keeps)
                · exact tombstoned.2
              · cases enriched

theorem foldlM_enrichItem_kept (enrichment : List EnrichmentItem) :
    ∀ {state next : TransactionEntity × Bool},
      enrichment.foldlM enrichItem state = .ok next →
      next.1.id = state.1.id ∧ next.1.key = state.1.key ∧
        ((∀ item ∈ enrichment, item.keepsCancelled = true) → Tombstoned state.1 →
          Tombstoned next.1) := by
  induction enrichment with
  | nil =>
      intro state next enriched
      cases enriched
      exact ⟨rfl, rfl, fun _ tombstoned => tombstoned⟩
  | cons item rest ih =>
      intro state next enriched
      rw [List.foldlM_cons] at enriched
      obtain ⟨middle, head, tail⟩ := bind_eq_ok.mp enriched
      obtain ⟨headId, headKey, headTombstone⟩ := enrichItem_kept head
      obtain ⟨tailId, tailKey, tailTombstone⟩ := ih tail
      refine ⟨tailId.trans headId, tailKey.trans headKey, ?_⟩
      intro keeps tombstoned
      rw [List.forall_mem_cons] at keeps
      exact tailTombstone keeps.2 (headTombstone keeps.1 tombstoned)

theorem applyDestinationEnrichment_kept {tenantId id : Uuid} {enrichment : List EnrichmentItem}
    (safe : Safe limitOne transactions (.applyDestinationEnrichment tenantId id enrichment))
    (applied : applyDestinationEnrichment transactions tenantId id enrichment =
      .ok transactions') :
    RowsKept false transactions transactions' := by
  rw [applyDestinationEnrichment] at applied
  split at applied
  · cases applied
    exact rowsKept_refl false transactions
  · next entity found =>
      have isMem := List.mem_of_find?_eq_some found
      split at applied
      · cases applied
        exact rowsKept_refl false transactions
      · next ownTenant =>
          obtain ⟨⟨enriched, changed⟩, folded, returned⟩ := bind_eq_ok.mp applied
          obtain ⟨sameId, sameKey, tombstone⟩ := foldlM_enrichItem_kept enrichment folded
          dsimp only at returned
          split at returned
          · cases returned
            apply rowsKept_save (rowsKept_refl false transactions) isMem (by exact sameId)
            intro old _ kept
            apply kept.trans
            refine ⟨sameId, sameKey, fun sync => Bool.noConfusion sync, fun tombstoned => ?_⟩
            have isId : entity.id = id := by simpa using List.find?_some found
            exact tombstone (safe entity isMem isId (by simpa using ownTenant) tombstoned)
              tombstoned
          · cases returned
            exact rowsKept_refl false transactions

/-- A text is loaded as it was written. -/
theorem reload_kept : RowsKept false transactions (reload transactions) := by
  intro old oldMem
  refine ⟨old.reload, List.mem_map_of_mem oldMem, rfl, rfl,
    fun sync => Bool.noConfusion sync, ?_⟩
  rintro ⟨tombstonedAt, cancelled⟩
  refine ⟨tombstonedAt, ?_⟩
  obtain ⟨stored, isStored, storedText⟩ := Option.map_eq_some_iff.mp cancelled
  change ((old.attributes .status).map PyValue.reload).map PyValue.stored = _
  rw [isStored]
  cases stored <;> cases storedText
  rfl

/-! ## Runs keep what belongs to the user -/

theorem step_kept {write : Write} (safe : Safe limitOne transactions write) :
    UserStateKept limitOne transactions write := by
  rw [UserStateKept, Write.step]
  split
  · next after ran =>
      cases write with
      | persistTransaction tenantId transaction securityId connectionId =>
          obtain ⟨⟨last, outcome⟩, persisted, returned⟩ := bind_eq_ok.mp ran
          cases returned
          exact persistTransaction_kept safe persisted
      | persistTransactionsBatch tenantId connectionId batch =>
          obtain ⟨⟨last, outcomes⟩, persisted, returned⟩ := bind_eq_ok.mp ran
          cases returned
          exact persistTransactionsBatch_kept safe persisted
      | tombstoneTransaction tenantId id now =>
          cases ran
          exact tombstoneTransaction_kept tenantId id now
      | applyDestinationEnrichment tenantId id enrichment =>
          exact applyDestinationEnrichment_kept safe ran
      | reload =>
          cases ran
          exact reload_kept
  · exact rowsKept_refl _ transactions

/-- A transaction that is tombstoned is so at the end of the run. -/
theorem tombstoned_runAll (limitOne : LimitOne) (writes : List Write) :
    ∀ {transactions : Transactions},
      Along (Write.step limitOne) (UserStateKept limitOne) transactions writes →
      ∀ entity ∈ transactions.rows, Tombstoned entity →
        ∃ last ∈ (runAll (Write.step limitOne) transactions writes).rows,
          last.id = entity.id ∧ Tombstoned last := by
  induction writes with
  | nil =>
      intro transactions _ entity entityMem tombstoned
      exact ⟨entity, entityMem, rfl, tombstoned⟩
  | cons write rest ih =>
      intro transactions kept entity entityMem tombstoned
      obtain ⟨new, newMem, entityKept⟩ := kept.1 entity entityMem
      obtain ⟨last, lastMem, sameId, lastTombstoned⟩ :=
        ih kept.2 new newMem (entityKept.tombstone tombstoned)
      exact ⟨last, lastMem, sameId.trans entityKept.id, lastTombstoned⟩

/-- Along every run of safe writes, each write leaves what belongs to the user, and
what is tombstoned at some point is tombstoned and cancelled at the end. -/
theorem userState_survives (limitOne : LimitOne) (transactions : Transactions)
    (writes : List Write)
    (safe : Along (Write.step limitOne) (Safe limitOne) transactions writes) :
    Along (Write.step limitOne) (UserStateKept limitOne) transactions writes ∧
      ∀ before after, writes = before ++ after →
        ∀ entity ∈ (runAll (Write.step limitOne) transactions before).rows, Tombstoned entity →
          ∃ last ∈ (runAll (Write.step limitOne) transactions writes).rows,
            last.id = entity.id ∧ Tombstoned last := by
  have kept : Along (Write.step limitOne) (UserStateKept limitOne) transactions writes :=
    along_imp (fun _ _ => step_kept) writes safe
  refine ⟨kept, ?_⟩
  rintro before after rfl entity entityMem tombstoned
  rw [runAll_append]
  exact tombstoned_runAll limitOne after ((along_append before after transactions).mp kept).2
    entity entityMem tombstoned

/-! ## A category that a user chose -/

/-- A payment of the given category and status. -/
def paymentOf (category : Option String) (status : String) : CanonicalTransactionData :=
  { providerKey := "bunq", externalTransactionId := "7", amount := -30, occurredAt := ⟨0, 0⟩
    transactionType := "payment", status, classificationOverride := category }

/-- The payment as it is stored with the category of the user. -/
def storedPayment : Transactions :=
  (create .empty (transactionKey 0 none (paymentOf none "booked"))
    (transactionRow (paymentOf (some "groceries") "booked") none) {}).1

/-- Another category from the provider, one row at a time; the tombstone of the
user; and a sync that knows that the payment was cancelled. -/
def safeWrites : List Write :=
  [.persistTransaction 0 (paymentOf (some "travel") "booked") none none,
    .tombstoneTransaction 0 0 5, .reload,
    .persistTransactionsBatch 0 none [⟨paymentOf none "cancelled", none⟩]]

theorem userState_survives_safeWrites :
    Along (Write.step .first) (UserStateKept .first) storedPayment safeWrites ∧
      ∀ before after, safeWrites = before ++ after →
        ∀ entity ∈ (runAll (Write.step .first) storedPayment before).rows, Tombstoned entity →
          ∃ last ∈ (runAll (Write.step .first) storedPayment safeWrites).rows,
            last.id = entity.id ∧ Tombstoned last :=
  userState_survives .first storedPayment safeWrites (by decide +kernel)

/-- The bulk upsert replaces the category that the user chose. -/
theorem override_lost_in_bulk :
    ¬ ∀ limitOne transactions writes,
      Along (Write.step limitOne) (UserStateKept limitOne) transactions writes := by
  intro always
  obtain ⟨kept, -⟩ := always .first storedPayment
    [.persistTransactionsBatch 0 none [⟨paymentOf (some "travel") "booked", none⟩]]
  have override : ∀ old ∈ storedPayment.rows, ∃ new ∈ (Write.step .first storedPayment
      (.persistTransactionsBatch 0 none [⟨paymentOf (some "travel") "booked", none⟩])).rows,
      (old.attributes .classificationOverride).isSome →
        (new.attributes .classificationOverride).map PyValue.stored =
          (old.attributes .classificationOverride).map PyValue.stored := by
    intro old oldMem
    obtain ⟨new, newMem, entityKept⟩ := kept old oldMem
    exact ⟨new, newMem, entityKept.override rfl⟩
  revert override
  decide +kernel

end FinanceSync.Persistence
