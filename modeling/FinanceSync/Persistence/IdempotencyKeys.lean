import FinanceSync.Persistence.Database

/-!
# The idempotency keys of a run

Every key in the outbox names an entity that was created before, so the key of
a `created` message is always new.  The key of an `updated` message is new the
first time only.  Whether a call is aborted by the unique constraint therefore
depends on the updates it publishes without looking for the key first: those of
holdings, scheduled payments and card transactions.
-/

namespace FinanceSync.Persistence

open Lib

/-! ## Ids -/

/-- What the outcomes of a write say about ids, where `next` and `next'` are the
next free id before and after it. -/
structure Allocates (next next' : Nat) (outcomes : List Outcome) : Prop where
  le : next ≤ next'
  inserted : ∀ id : Nat, id ∈ insertedIds outcomes → next ≤ id ∧ id < next'
  nodup : (insertedIds outcomes).Nodup
  updated : ∀ id : Nat, id ∈ updatedIds outcomes → id < next'

namespace Allocates

theorem nil (next : Nat) : Allocates next next [] where
  le := Nat.le_refl next
  inserted := by simp [insertedIds]
  nodup := List.nodup_nil
  updated := by simp [updatedIds]

theorem append {next middle next' : Nat} {first second : List Outcome}
    (before : Allocates next middle first) (after : Allocates middle next' second) :
    Allocates next next' (first ++ second) where
  le := Nat.le_trans before.le after.le
  inserted := by
    intro id isMem
    rw [insertedIds, List.filterMap_append] at isMem
    rcases List.mem_append.mp isMem with early | late
    · have := before.inserted id early
      have := after.le
      omega
    · have := after.inserted id late
      have := before.le
      omega
  nodup := by
    rw [insertedIds, List.filterMap_append]
    apply List.Nodup.append before.nodup after.nodup
    intro id early late
    have := before.inserted id early
    have := after.inserted id late
    omega
  updated := by
    intro id isMem
    rw [updatedIds, List.filterMap_append] at isMem
    rcases List.mem_append.mp isMem with early | late
    · have := before.updated id early
      have := after.le
      omega
    · exact after.updated id late

theorem unchanged (next id : Nat) : Allocates next next [.unchanged id] where
  le := Nat.le_refl next
  inserted := by simp [insertedIds]
  nodup := List.nodup_nil
  updated := by simp [updatedIds]

theorem update {next id : Nat} (stored : id < next) : Allocates next next [.updated id] where
  le := Nat.le_refl next
  inserted := by simp [insertedIds]
  nodup := List.nodup_nil
  updated := by simpa [updatedIds] using stored

theorem create (next : Nat) : Allocates next (next + 1) [.created next] where
  le := Nat.le_succ next
  inserted := by simp [insertedIds]
  nodup := List.nodup_singleton next
  updated := by simp [updatedIds]

/-- What each step of a run allocates is allocated by the run. -/
theorem collect {State Input Output : Type}
    {step : State → Input → Except PersistError (State × Output)}
    (next : State → Nat) (outcomesOf : Output → List Outcome)
    (each : ∀ state input state' output, step state input = .ok (state', output) →
      Allocates (next state) (next state') (outcomesOf output))
    (inputs : List Input) :
    ∀ {state last : State} {outputs : List Output},
      Lib.collect step state inputs = .ok (last, outputs) →
        Allocates (next state) (next last) (outputs.flatMap outcomesOf) := by
  induction inputs with
  | nil =>
      intro state last outputs collected
      cases collected
      exact nil _
  | cons input rest ih =>
      intro state last outputs collected
      obtain ⟨middle, output, others, stepped, restCollected, rfl⟩ :=
        collect_cons_ok.mp collected
      rw [List.flatMap_cons]
      exact append (each _ _ _ _ stepped) (ih restCollected)

end Allocates

section Writes

variable {Key Rest : Type} {entities : Entities Key Rest}

theorem allocates_refresh {existing : Entity Key Rest} (stored : existing.id < entities.next)
    (changed : List Field) (new : Attributes) :
    Allocates entities.next (refresh entities existing changed new).1.next
      [(refresh entities existing changed new).2] := by
  rw [refresh]
  split
  · exact .unchanged _ _
  · exact .update stored

theorem allocates_create (key : Key) (attributes : Attributes) (rest : Rest) :
    Allocates entities.next (create entities key attributes rest).1.next
      [(create entities key attributes rest).2] :=
  .create entities.next

theorem allocates_persistEntity {found : Option (Entity Key Rest)}
    (stored : ∀ existing, found = some existing → existing.id < entities.next)
    (changed : Attributes → List Field) (new : Attributes) (key : Key) (fresh : Attributes)
    (rest : Rest) :
    Allocates entities.next (persistEntity entities found changed new key fresh rest).1.next
      [(persistEntity entities found changed new key fresh rest).2] := by
  cases found with
  | none => exact allocates_create _ _ _
  | some existing => exact allocates_refresh (stored existing rfl) _ _

variable [DecidableEq Key]

theorem allocates_upsertRow {statement : UpsertStatement Rest} {written : List Uuid} {key : Key}
    {incoming : Attributes} {entities' : Entities Key Rest} {outcome : Outcome}
    (did : UpsertedRow statement entities written key incoming entities' outcome) :
    Allocates entities.next entities'.next [outcome] := by
  cases did with
  | created absent => exact .create entities.next
  | updated existing found notWritten fires => exact .update (id_lt_of_findByKey found)
  | unchanged existing found notWritten quiet => exact .unchanged _ _

theorem allocates_upsertRows {statement : UpsertStatement Rest} {rows : List (Key × Attributes)}
    {entities' : Entities Key Rest} {outcomes : List Outcome}
    (upserted : upsertRows statement entities rows = .ok (entities', outcomes)) :
    Allocates entities.next entities'.next outcomes := by
  obtain ⟨⟨last, collected⟩, ok, returned⟩ := bind_eq_ok.mp upserted
  cases returned
  have allocated := Allocates.collect
    (fun state : Entities Key Rest × List Uuid => state.1.next) (fun outcome => [outcome])
    (fun state row state' outcome stepped =>
      allocates_upsertRow (upsertRow_cases (upsertStep_ok.mp stepped).1)) rows ok
  simpa using allocated

end Writes

/-! ## Emitting -/

section Emitting

variable {entityType : EntityType} {deduplicate : Bool} {outbox : Outbox}

/-- The key of the message about an outcome. -/
def Outcome.messageKey (entityType : EntityType) : Outcome → Option IdempotencyKey
  | .created id => some ⟨entityType, id, .created⟩
  | .updated id => some ⟨entityType, id, .updated⟩
  | .unchanged _ => none

/-- The key that is inserted without looking for it first. -/
def Outcome.uncheckedKey (entityType : EntityType) (deduplicate : Bool) :
    Outcome → Option IdempotencyKey
  | .created id => some ⟨entityType, id, .created⟩
  | .updated id => if deduplicate then none else some ⟨entityType, id, .updated⟩
  | .unchanged _ => none

theorem messageKey_of_uncheckedKey {outcome : Outcome} {key : IdempotencyKey}
    (unchecked : outcome.uncheckedKey entityType deduplicate = some key) :
    outcome.messageKey entityType = some key := by
  cases outcome with
  | created id => exact unchecked
  | updated id =>
      rw [Outcome.uncheckedKey] at unchecked
      split at unchecked
      · cases unchecked
      · exact unchecked
  | unchanged id => exact unchecked

/-- A key that is looked for first is never one that is inserted unchecked. -/
theorem messageKey_ne_uncheckedKey {outcome other : Outcome} {key : IdempotencyKey}
    (checked : outcome.uncheckedKey entityType deduplicate = none)
    (unchecked : other.uncheckedKey entityType deduplicate = some key) :
    outcome.messageKey entityType ≠ some key := by
  intro same
  cases outcome with
  | created id => cases checked
  | unchanged id => cases same
  | updated id =>
      cases same
      cases other with
      | created otherId => cases unchecked
      | unchanged otherId => cases unchecked
      | updated otherId =>
          rw [Outcome.uncheckedKey] at checked unchecked
          split at checked
          · next flag =>
              rw [if_pos flag] at unchecked
              cases unchecked
          · cases checked

theorem hasKey_insert {message : OutboxMessage} {fresh : message.id = outbox.next}
    {key : IdempotencyKey} :
    HasKey (outbox.insert message fresh).rows key ↔
      HasKey outbox.rows key ∨ message.idempotencyKey = some key := by
  simp [HasKey, or_and_right, exists_or]

theorem flushMessage_eq {draft : OutboxDraft} {key : IdempotencyKey}
    (keyOf : draft.idempotencyKey = some key) :
    flushMessage outbox draft =
      if HasKey outbox.rows key then .error .duplicateKey
      else .ok (outbox.insert { draft with id := outbox.next } rfl) := by
  rw [flushMessage]
  congr 1
  rw [keyOf]
  apply propext
  constructor
  · rintro ⟨stored, storedMem, -, same⟩
    exact ⟨stored, storedMem, same⟩
  · rintro ⟨stored, storedMem, same⟩
    exact ⟨stored, storedMem, by rw [same]; rfl, same⟩

/-- Storing a draft is refused if its key is stored, and stores the key
otherwise. -/
theorem flushMessage_cases (outbox : Outbox) (draft : OutboxDraft) {key : IdempotencyKey}
    (keyOf : draft.idempotencyKey = some key) :
    (HasKey outbox.rows key ∧ flushMessage outbox draft = .error .duplicateKey) ∨
      (¬ HasKey outbox.rows key ∧ ∃ outbox', flushMessage outbox draft = .ok outbox' ∧
        ∀ other, HasKey outbox'.rows other ↔ HasKey outbox.rows other ∨ some key = some other) := by
  rw [flushMessage_eq keyOf]
  by_cases stored : HasKey outbox.rows key
  · exact .inl ⟨stored, if_pos stored⟩
  · refine .inr ⟨stored, _, if_neg stored, fun other => ?_⟩
    rw [hasKey_insert, ← keyOf]

/-- Emitting about one outcome is refused if its key is inserted unchecked and
stored, and stores its key otherwise. -/
theorem emit_cases (outbox : Outbox) (outcome : Outcome) :
    ((∃ key, outcome.uncheckedKey entityType deduplicate = some key ∧ HasKey outbox.rows key) ∧
        emit entityType deduplicate outbox outcome = .error .duplicateKey) ∨
      ((∀ key, outcome.uncheckedKey entityType deduplicate = some key → ¬ HasKey outbox.rows key) ∧
        ∃ outbox', emit entityType deduplicate outbox outcome = .ok outbox' ∧
          ∀ key, HasKey outbox'.rows key ↔
            HasKey outbox.rows key ∨ outcome.messageKey entityType = some key) := by
  cases outcome with
  | unchanged id =>
      right
      refine ⟨by simp [Outcome.uncheckedKey], outbox, rfl, ?_⟩
      simp [Outcome.messageKey]
  | created id =>
      rcases flushMessage_cases outbox (outboxEntityCreated entityType id) rfl with
        ⟨stored, refused⟩ | ⟨absent, done⟩
      · exact .inl ⟨⟨_, rfl, stored⟩, refused⟩
      · exact .inr ⟨fun key same => by cases same; exact absent, done⟩
  | updated id =>
      by_cases returned : deduplicate ∧ HasKey outbox.rows ⟨entityType, id, .updated⟩
      · right
        have emitted : emit entityType deduplicate outbox (.updated id) = .ok outbox := by
          rw [emit, outboxEntityUpdated, if_pos returned]
        refine ⟨by simp [Outcome.uncheckedKey, returned.1], outbox, emitted, fun key => ?_⟩
        constructor
        · exact .inl
        · rintro (stored | same)
          · exact stored
          · cases same
            exact returned.2
      · have emitted : emit entityType deduplicate outbox (.updated id) =
            flushMessage outbox ⟨id, entityType, .updated, some ⟨entityType, id, .updated⟩⟩ := by
          rw [emit, outboxEntityUpdated, if_neg returned]
        rw [emitted]
        rcases flushMessage_cases outbox
            ⟨id, entityType, .updated, some ⟨entityType, id, .updated⟩⟩ rfl with
          ⟨stored, refused⟩ | ⟨absent, done⟩
        · have unchecked : deduplicate = false := by
            cases deduplicate with
            | false => rfl
            | true => exact absurd ⟨rfl, stored⟩ returned
          exact .inl ⟨⟨_, by simp [Outcome.uncheckedKey, unchecked], stored⟩, refused⟩
        · refine .inr ⟨fun key same => ?_, done⟩
          rw [Outcome.uncheckedKey] at same
          split at same
          · cases same
          · cases same
            exact absent

/-- Emitting about several outcomes succeeds exactly if the keys that are
inserted unchecked are new and pairwise different. -/
theorem foldlM_emit_isOk_iff (outcomes : List Outcome) :
    ∀ outbox : Outbox,
      (∃ outbox', outcomes.foldlM (emit entityType deduplicate) outbox = .ok outbox') ↔
        (outcomes.filterMap (Outcome.uncheckedKey entityType deduplicate)).Nodup ∧
        ∀ key ∈ outcomes.filterMap (Outcome.uncheckedKey entityType deduplicate),
          ¬ HasKey outbox.rows key := by
  induction outcomes with
  | nil =>
      intro outbox
      simp [pure, Except.pure]
  | cons outcome outcomes ih =>
      intro outbox
      rw [List.foldlM_cons]
      rcases emit_cases outbox outcome with
        ⟨⟨key, unchecked, stored⟩, refused⟩ | ⟨fresh, middle, done, keys⟩
      · rw [refused]
        constructor
        · rintro ⟨outbox', succeeds⟩
          cases succeeds
        · rintro ⟨-, absent⟩
          rw [List.filterMap_cons_some unchecked] at absent
          exact absurd stored (absent key List.mem_cons_self)
      · rw [done]
        change (∃ outbox', outcomes.foldlM (emit entityType deduplicate) middle = .ok outbox') ↔ _
        rw [ih middle]
        cases unchecked : outcome.uncheckedKey entityType deduplicate with
        | none =>
            rw [List.filterMap_cons_none unchecked]
            refine and_congr_right fun _ => forall₂_congr fun key isMem => ?_
            obtain ⟨other, otherMem, otherKey⟩ := List.mem_filterMap.mp isMem
            have ne := messageKey_ne_uncheckedKey unchecked otherKey
            rw [keys, or_iff_left ne]
        | some own =>
            have ownKey := messageKey_of_uncheckedKey unchecked
            rw [List.filterMap_cons_some unchecked, List.nodup_cons, List.forall_mem_cons]
            constructor
            · rintro ⟨nodup, absent⟩
              refine ⟨⟨fun again => ?_, nodup⟩, fresh own unchecked, fun key keyMem stored => ?_⟩
              · exact absent own again ((keys own).mpr (.inr ownKey))
              · exact absent key keyMem ((keys key).mpr (.inl stored))
            · rintro ⟨⟨new, nodup⟩, -, absent⟩
              refine ⟨nodup, fun key keyMem stored => ?_⟩
              rcases (keys key).mp stored with before | same
              · exact absent key keyMem before
              · rw [ownKey] at same
                cases same
                exact new keyMem

/-- Emitting is refused by the unique constraint if at all. -/
theorem foldlM_emit_error (outcomes : List Outcome) :
    ∀ {outbox : Outbox} {error : PersistError},
      outcomes.foldlM (emit entityType deduplicate) outbox = .error error →
        error = .duplicateKey := by
  induction outcomes with
  | nil =>
      intro outbox error failed
      cases failed
  | cons outcome outcomes ih =>
      intro outbox error failed
      rcases bind_eq_error.mp failed with headFailed | ⟨outbox', -, restFailed⟩
      · rcases emit_cases outbox outcome with ⟨-, refused⟩ | ⟨-, outbox', done, -⟩
        · rw [refused] at headFailed
          cases headFailed
          rfl
        · rw [done] at headFailed
          cases headFailed
      · exact ih restFailed

/-- The keys after emitting are those before and those of the messages. -/
theorem hasKey_of_foldlM_emit (outcomes : List Outcome) :
    ∀ {outbox outbox' : Outbox},
      outcomes.foldlM (emit entityType deduplicate) outbox = .ok outbox' →
        ∀ key, HasKey outbox'.rows key →
          HasKey outbox.rows key ∨
            ∃ outcome ∈ outcomes, outcome.messageKey entityType = some key := by
  induction outcomes with
  | nil =>
      intro outbox outbox' done key stored
      cases done
      exact .inl stored
  | cons outcome outcomes ih =>
      intro outbox outbox' done key stored
      obtain ⟨middle, headDone, restDone⟩ := bind_eq_ok.mp done
      have headKeys : HasKey middle.rows key →
          HasKey outbox.rows key ∨ outcome.messageKey entityType = some key := by
        rcases emit_cases outbox outcome with ⟨-, refused⟩ | ⟨-, other, ok, keys⟩
        · rw [refused] at headDone
          cases headDone
        · rw [ok] at headDone
          cases headDone
          exact (keys key).mp
      rcases ih restDone key stored with before | ⟨other, otherMem, otherKey⟩
      · rcases headKeys before with before | own
        · exact .inl before
        · exact .inr ⟨outcome, List.mem_cons_self, own⟩
      · exact .inr ⟨other, List.mem_cons_of_mem _ otherMem, otherKey⟩

theorem uncheckedKeys_emissions (outcomes : List Outcome) :
    (emissions outcomes).filterMap (Outcome.uncheckedKey entityType deduplicate) =
      ((insertedIds outcomes).map fun id => ⟨entityType, id, .created⟩) ++
        if deduplicate then []
        else (updatedIds outcomes).map fun id => ⟨entityType, id, .updated⟩ := by
  rw [emissions, List.filterMap_append, List.filterMap_map, List.filterMap_map]
  cases deduplicate with
  | true => simp [Function.comp_def, Outcome.uncheckedKey]
  | false => simp [Function.comp_def, Outcome.uncheckedKey]

/-- The messages of a call are stored exactly if the created rows are new to the
outbox and, where the updates are inserted unchecked, so are they. -/
theorem emissions_isOk_iff {outcomes : List Outcome} :
    (∃ outbox', (emissions outcomes).foldlM (emit entityType deduplicate) outbox = .ok outbox') ↔
      ((insertedIds outcomes).Nodup ∧
        ∀ id ∈ insertedIds outcomes, ¬ HasKey outbox.rows ⟨entityType, id, .created⟩) ∧
      (deduplicate = false → (updatedIds outcomes).Nodup ∧
        ∀ id ∈ updatedIds outcomes, ¬ HasKey outbox.rows ⟨entityType, id, .updated⟩) := by
  rw [foldlM_emit_isOk_iff, uncheckedKeys_emissions]
  have created : Function.Injective fun id : Uuid =>
      (⟨entityType, id, .created⟩ : IdempotencyKey) := fun first second same => by
    cases same
    rfl
  have updated : Function.Injective fun id : Uuid =>
      (⟨entityType, id, .updated⟩ : IdempotencyKey) := fun first second same => by
    cases same
    rfl
  cases deduplicate with
  | true => simp [List.nodup_map_iff created]
  | false =>
      simp only [Bool.false_eq_true, if_false, List.nodup_append, List.nodup_map_iff created,
        List.nodup_map_iff updated, List.mem_append, List.mem_map]
      constructor
      · rintro ⟨⟨createdNodup, updatedNodup, -⟩, absent⟩
        exact ⟨⟨createdNodup, fun id isMem => absent _ (.inl ⟨id, isMem, rfl⟩)⟩,
          fun _ => ⟨updatedNodup, fun id isMem => absent _ (.inr ⟨id, isMem, rfl⟩)⟩⟩
      · rintro ⟨⟨createdNodup, createdNew⟩, updates⟩
        obtain ⟨updatedNodup, updatedNew⟩ := updates trivial
        refine ⟨⟨createdNodup, updatedNodup, ?_⟩, ?_⟩
        · rintro _ ⟨id, -, rfl⟩ _ ⟨other, -, rfl⟩ same
          cases same
        · rintro key (⟨id, isMem, rfl⟩ | ⟨id, isMem, rfl⟩)
          · exact createdNew id isMem
          · exact updatedNew id isMem

end Emitting

/-! ## Calls -/

section Calls

variable {limitOne : LimitOne} {db written : Database} {outcomes : List Outcome}

theorem findAccount_spec (limitOne : LimitOne) (accounts : Accounts) (key : ProviderKey) :
    (findAccount limitOne accounts key).1.next = accounts.next ∧
      ∀ existing, (findAccount limitOne accounts key).2 = some existing →
        existing.id < accounts.next := by
  rw [findAccount]
  split
  · next existing found =>
      refine ⟨rfl, fun other same => ?_⟩
      cases same
      exact accounts.below existing (mem_of_getByExternalId found).1
  · split
    · split
      · next legacy picked =>
          refine ⟨rfl, fun other same => ?_⟩
          cases same
          exact accounts.below legacy (List.mem_filter.mp (limitOne.mem picked)).1
      · exact ⟨rfl, fun other same => by cases same⟩
    · exact ⟨rfl, fun other same => by cases same⟩

theorem allocates_persistAccount (accounts : Accounts) (tenantId : Uuid)
    (account : CanonicalAccountData) (connectionId : Option Uuid) :
    Allocates accounts.next
      (persistAccount limitOne accounts tenantId account connectionId).1.next
      [(persistAccount limitOne accounts tenantId account connectionId).2] := by
  obtain ⟨sameNext, stored⟩ :=
    findAccount_spec limitOne accounts (accountKey tenantId connectionId account)
  rw [persistAccount]
  dsimp only
  rw [← sameNext]
  apply allocates_persistEntity
  intro existing found
  rw [sameNext]
  exact stored existing found

theorem allocates_persistTransaction {transactions transactions' : Transactions}
    {tenantId : Uuid} {transaction : CanonicalTransactionData}
    {securityId connectionId : Option Uuid} {outcome : Outcome}
    (done : persistTransaction limitOne transactions tenantId transaction securityId connectionId =
      .ok (transactions', outcome)) :
    Allocates transactions.next transactions'.next [outcome] := by
  rw [persistTransaction] at done
  split at done
  · next existing found =>
      have stored := transactions.below existing (mem_of_getByExternalId found).1
      rw [refreshTransaction] at done
      split at done
      · cases done
        exact .unchanged _ _
      · split at done
        · cases done
        · cases done
          exact .update stored
  · cases done
    exact .create transactions.next

theorem allocates_persistTransactionsBatch {transactions transactions' : Transactions}
    {tenantId : Uuid} {connectionId : Option Uuid} {batch : List BatchElement}
    (done : persistTransactionsBatch transactions tenantId connectionId batch =
      .ok (transactions', outcomes)) :
    Allocates transactions.next transactions'.next outcomes := by
  obtain ⟨⟨last, collected⟩, ok, returned⟩ := bind_eq_ok.mp done
  cases returned
  have allocated := Allocates.collect (fun state : Transactions => state.next) id
    (fun state chunk state' outcomes upserted => by
      obtain ⟨rows, -, upserted⟩ := bind_eq_ok.mp upserted
      exact allocates_upsertRows upserted) _ ok
  rwa [List.flatMap_id] at allocated

/-- What the writes of a call do to the database besides the rows. -/
structure WriteSpec (db written : Database) (entityType : EntityType)
    (outcomes : List Outcome) : Prop where
  outbox : written.outbox = db.outbox
  frame : ∀ other, other ≠ entityType → written.nextId other = db.nextId other
  allocates : Allocates (db.nextId entityType) (written.nextId entityType) outcomes

theorem Call.write_spec {call : Call} (done : call.write limitOne db = .ok (written, outcomes)) :
    WriteSpec db written call.entityType outcomes := by
  cases call with
  | persistAccount tenantId account connectionId =>
      cases done
      refine ⟨rfl, ?_, allocates_persistAccount _ _ _ _⟩
      intro other ne
      cases other <;> first | rfl | exact absurd rfl ne
  | persistHolding tenantId holding accountId securityId =>
      cases done
      refine ⟨rfl, ?_, allocates_persistEntity ?_ _ _ _ _ _⟩
      · intro other ne
        cases other <;> first | rfl | exact absurd rfl ne
      · intro existing found
        exact db.holdings.below existing (mem_of_getBySnapshot found).1
  | persistHoldingsBatch tenantId accountId batch =>
      obtain ⟨⟨holdings, _⟩, upserted, returned⟩ := bind_eq_ok.mp done
      cases returned
      refine ⟨rfl, ?_, allocates_upsertRows upserted⟩
      intro other ne
      cases other <;> first | rfl | exact absurd rfl ne
  | persistScheduledPayment tenantId csp connectionId =>
      cases done
      refine ⟨rfl, ?_, allocates_persistEntity ?_ _ _ _ _ _⟩
      · intro other ne
        cases other <;> first | rfl | exact absurd rfl ne
      · intro existing found
        exact db.scheduledPayments.below existing (mem_of_getByExternalId found).1
  | persistCardTransaction tenantId cct connectionId =>
      cases done
      refine ⟨rfl, ?_, allocates_persistEntity ?_ _ _ _ _ _⟩
      · intro other ne
        cases other <;> first | rfl | exact absurd rfl ne
      · intro existing found
        exact db.cardTransactions.below existing (mem_of_getByExternalId found).1
  | persistTransaction tenantId transaction securityId connectionId =>
      obtain ⟨⟨transactions, _⟩, persisted, returned⟩ := bind_eq_ok.mp done
      cases returned
      refine ⟨rfl, ?_, allocates_persistTransaction persisted⟩
      intro other ne
      cases other <;> first | rfl | exact absurd rfl ne
  | persistTransactionsBatch tenantId connectionId batch =>
      obtain ⟨⟨transactions, _⟩, persisted, returned⟩ := bind_eq_ok.mp done
      cases returned
      refine ⟨rfl, ?_, allocates_persistTransactionsBatch persisted⟩
      intro other ne
      cases other <;> first | rfl | exact absurd rfl ne

theorem persistTransaction_error {transactions : Transactions} {tenantId : Uuid}
    {transaction : CanonicalTransactionData} {securityId connectionId : Option Uuid}
    {error : PersistError}
    (failed : persistTransaction limitOne transactions tenantId transaction securityId
      connectionId = .error error) :
    error = .notSerializable := by
  rw [persistTransaction] at failed
  split at failed
  · rw [refreshTransaction] at failed
    split at failed
    · cases failed
    · split at failed
      · cases failed
        rfl
      · cases failed
  · cases failed

theorem upsertChunk_error {transactions : Transactions}
    {chunk : List (ProviderKey × Attributes)} {error : PersistError}
    (failed : upsertChunk transactions chunk = .error error) : error ≠ .duplicateKey := by
  rcases bind_eq_error.mp failed with failed | ⟨rows, -, failed⟩
  · rw [multiValues.eq_def] at failed
    split at failed
    · cases failed
    · split at failed
      · cases failed
      · cases failed
        exact PersistError.noConfusion
  · rw [upsertRows_error failed]
    exact PersistError.noConfusion

/-- The writes of a call do not touch the outbox, so its unique constraint does
not abort them. -/
theorem Call.write_error {call : Call} {error : PersistError}
    (failed : call.write limitOne db = .error error) : error ≠ .duplicateKey := by
  cases call with
  | persistAccount tenantId account connectionId => cases failed
  | persistHolding tenantId holding accountId securityId => cases failed
  | persistScheduledPayment tenantId csp connectionId => cases failed
  | persistCardTransaction tenantId cct connectionId => cases failed
  | persistHoldingsBatch tenantId accountId batch =>
      rcases bind_eq_error.mp failed with failed | ⟨_, -, failed⟩
      · rw [upsertRows_error failed]
        exact PersistError.noConfusion
      · cases failed
  | persistTransaction tenantId transaction securityId connectionId =>
      rcases bind_eq_error.mp failed with failed | ⟨_, -, failed⟩
      · rw [persistTransaction_error failed]
        exact PersistError.noConfusion
      · cases failed
  | persistTransactionsBatch tenantId connectionId batch =>
      rcases bind_eq_error.mp failed with failed | ⟨_, -, failed⟩
      · rcases bind_eq_error.mp failed with failed | ⟨_, -, failed⟩
        · exact collect_error (fun error => error ≠ .duplicateKey)
            (fun _ _ _ => upsertChunk_error) _ failed
        · cases failed
      · cases failed

/-- Every key in the outbox names an entity that was created. -/
def Database.KeysBounded (db : Database) : Prop :=
  ∀ key : IdempotencyKey, HasKey db.outbox.rows key → key.entityId < db.nextId key.entityType

/-- A call that is not aborted keeps the keys bounded. -/
theorem Call.run_keysBounded {call : Call} {db' : Database} (bounded : db.KeysBounded)
    (done : call.run limitOne db = .ok db') : db'.KeysBounded := by
  obtain ⟨⟨written, outcomes⟩, wrote, rest⟩ := bind_eq_ok.mp done
  obtain ⟨outbox', emitted, returned⟩ := bind_eq_ok.mp rest
  cases returned
  have spec := Call.write_spec wrote
  intro key stored
  change key.entityId < written.nextId key.entityType
  rcases hasKey_of_foldlM_emit _ emitted key stored with before | ⟨outcome, outcomeMem, own⟩
  · have stillBelow := bounded key before
    by_cases same : key.entityType = call.entityType
    · rw [same] at stillBelow ⊢
      exact Nat.lt_of_lt_of_le stillBelow spec.allocates.le
    · rwa [spec.frame _ same]
  · rcases List.mem_append.mp outcomeMem with created | updated
    · obtain ⟨id, idMem, rfl⟩ := List.mem_map.mp created
      cases own
      exact (spec.allocates.inserted id idMem).2
    · obtain ⟨id, idMem, rfl⟩ := List.mem_map.mp updated
      cases own
      exact spec.allocates.updated id idMem

/-- A call is aborted by the unique constraint exactly if it writes and inserts
an update unchecked that is stored already or that it publishes twice. -/
theorem Call.run_eq_duplicateKey_iff {call : Call} (bounded : db.KeysBounded) :
    call.run limitOne db = .error .duplicateKey ↔
      ∃ written outcomes, call.write limitOne db = .ok (written, outcomes) ∧
        call.deduplicate = false ∧
        ¬ ((updatedIds outcomes).Nodup ∧
          ∀ id ∈ updatedIds outcomes, ¬ HasKey db.outbox.rows ⟨call.entityType, id, .updated⟩) := by
  have created : ∀ {written : Database} {outcomes : List Outcome},
      call.write limitOne db = .ok (written, outcomes) →
        (insertedIds outcomes).Nodup ∧ ∀ id ∈ insertedIds outcomes,
          ¬ HasKey db.outbox.rows ⟨call.entityType, id, .created⟩ := by
    intro written outcomes wrote
    have spec := Call.write_spec wrote
    refine ⟨spec.allocates.nodup, fun id isMem stored => ?_⟩
    exact Nat.lt_irrefl _
      (Nat.lt_of_lt_of_le (bounded _ stored) (spec.allocates.inserted id isMem).1)
  constructor
  · intro aborted
    rcases bind_eq_error.mp aborted with failed | ⟨⟨written, outcomes⟩, wrote, failed⟩
    · exact absurd rfl (Call.write_error failed)
    · refine ⟨written, outcomes, wrote, ?_⟩
      have refused : ¬ ∃ outbox', (emissions outcomes).foldlM
          (emit call.entityType call.deduplicate) db.outbox = .ok outbox' := by
        rintro ⟨outbox', emitted⟩
        rcases bind_eq_error.mp failed with failed | ⟨_, -, failed⟩
        · rw [emitted] at failed
          cases failed
        · cases failed
      rw [emissions_isOk_iff, and_iff_right (created wrote), Classical.not_imp] at refused
      exact refused
  · rintro ⟨written, outcomes, wrote, unchecked, clash⟩
    apply bind_eq_error.mpr
    right
    refine ⟨(written, outcomes), wrote, bind_eq_error.mpr (.inl ?_)⟩
    cases emitted : (emissions outcomes).foldlM (emit call.entityType call.deduplicate)
        db.outbox with
    | error error => rw [foldlM_emit_error _ emitted]
    | ok outbox' =>
        have stored := emissions_isOk_iff.mp ⟨outbox', emitted⟩
        exact absurd (stored.2 unchecked) clash

/-! ## Updates that are published again -/

/-- The row that was found differs, and its update was published before. -/
def RepublishesRow {Key : Type} (outbox : Outbox) (entityType : EntityType)
    (found : Option (Entity Key Unit)) (changed : Attributes → List Field) : Prop :=
  ∃ existing, found = some existing ∧ changed existing.attributes ≠ [] ∧
    HasKey outbox.rows ⟨entityType, existing.id, .updated⟩

/-- The call changes a stored row of which an update was published before, and
is of those that do not look for it.  A statement that is rejected for writing a
row twice does not publish. -/
def Call.Republishes (limitOne : LimitOne) (db : Database) : Call → Prop
  | persistHolding tenantId holding accountId securityId =>
      RepublishesRow db.outbox .holding
        (getBySnapshot limitOne db.holdings (holdingKey tenantId accountId securityId holding))
        (changedHoldingFields holding.getattr)
  | persistHoldingsBatch tenantId accountId batch =>
      let rows := holdingRows tenantId accountId batch
      WritesOnce holdingUpsert db.holdings rows ∧
        ∃ row ∈ rows, ∃ existing, findByKey db.holdings row.1 = some existing ∧
          updateFires holdingFields row.2 existing.attributes = true ∧
          HasKey db.outbox.rows ⟨.holding, existing.id, .updated⟩
  | persistScheduledPayment tenantId csp connectionId =>
      RepublishesRow db.outbox .scheduledPayment
        (getByExternalId limitOne db.scheduledPayments
          (scheduledPaymentKey tenantId connectionId csp))
        (changedFields scheduledPaymentFields csp.getattr)
  | persistCardTransaction tenantId cct connectionId =>
      RepublishesRow db.outbox .cardTransaction
        (getByExternalId limitOne db.cardTransactions
          (cardTransactionKey tenantId connectionId cct))
        (changedFields cardTransactionFields (incomingCardTransaction cct))
  | _ => False

theorem persistEntity_clash_iff {Key : Type} {entities : Entities Key Unit} {outbox : Outbox}
    {entityType : EntityType} {found : Option (Entity Key Unit)}
    {changed : Attributes → List Field} {new fresh : Attributes} {key : Key} :
    (¬ ((updatedIds [(persistEntity entities found changed new key fresh ()).2]).Nodup ∧
        ∀ id ∈ updatedIds [(persistEntity entities found changed new key fresh ()).2],
          ¬ HasKey outbox.rows ⟨entityType, id, .updated⟩)) ↔
      RepublishesRow outbox entityType found changed := by
  cases found with
  | none => simp [persistEntity, create, updatedIds, RepublishesRow]
  | some existing =>
      by_cases same : changed existing.attributes = []
      · simp [persistEntity, refresh, same, updatedIds, RepublishesRow]
      · simp [persistEntity, refresh, same, updatedIds, RepublishesRow]

theorem Call.run_eq_duplicateKey_iff_republishes {call : Call} (bounded : db.KeysBounded) :
    call.run limitOne db = .error .duplicateKey ↔ call.Republishes limitOne db := by
  rw [Call.run_eq_duplicateKey_iff bounded]
  cases call with
  | persistAccount tenantId account connectionId => simp [Call.deduplicate, Call.Republishes]
  | persistTransaction tenantId transaction securityId connectionId =>
      simp [Call.deduplicate, Call.Republishes]
  | persistTransactionsBatch tenantId connectionId batch =>
      simp [Call.deduplicate, Call.Republishes]
  | persistHolding tenantId holding accountId securityId =>
      rw [Call.Republishes, ← persistEntity_clash_iff]
      constructor
      · rintro ⟨written, outcomes, wrote, -, clash⟩
        cases wrote
        exact clash
      · intro clash
        exact ⟨_, _, rfl, rfl, clash⟩
  | persistScheduledPayment tenantId csp connectionId =>
      rw [Call.Republishes, ← persistEntity_clash_iff]
      constructor
      · rintro ⟨written, outcomes, wrote, -, clash⟩
        cases wrote
        exact clash
      · intro clash
        exact ⟨_, _, rfl, rfl, clash⟩
  | persistCardTransaction tenantId cct connectionId =>
      rw [Call.Republishes, ← persistEntity_clash_iff]
      constructor
      · rintro ⟨written, outcomes, wrote, -, clash⟩
        cases wrote
        exact clash
      · intro clash
        exact ⟨_, _, rfl, rfl, clash⟩
  | persistHoldingsBatch tenantId accountId batch =>
      rw [Call.Republishes]
      constructor
      · rintro ⟨written, outcomes, wrote, -, clash⟩
        obtain ⟨⟨holdings, _⟩, upserted, returned⟩ := bind_eq_ok.mp wrote
        cases returned
        obtain ⟨nodup, updated⟩ := updatedIds_upsertRows upserted
        rw [and_iff_right nodup] at clash
        push Not at clash
        obtain ⟨id, isMem, stored⟩ := clash
        obtain ⟨row, rowMem, existing, found, fires, rfl⟩ := (updated id).mp isMem
        exact ⟨upsertRows_isOk_iff.mp ⟨_, upserted⟩, row, rowMem, existing, found, fires, stored⟩
      · rintro ⟨once, row, rowMem, existing, found, fires, stored⟩
        obtain ⟨⟨holdings, outcomes⟩, upserted⟩ := upsertRows_isOk_iff.mpr once
        refine ⟨{ db with holdings }, outcomes, bind_eq_ok.mpr ⟨_, upserted, rfl⟩, rfl, ?_⟩
        rintro ⟨-, absent⟩
        apply absent existing.id ?_ stored
        exact ((updatedIds_upsertRows upserted).2 _).mpr
          ⟨row, rowMem, existing, found, fires, rfl⟩

end Calls

/-! ## Runs -/

namespace Session

/-- The step is a call that publishes an update again. -/
def Republishes (limitOne : LimitOne) (session : Session) : Step → Prop
  | .call call => call.Republishes limitOne session.current
  | _ => False

/-- What holds of the database in every reachable state. -/
def KeysBounded (session : Session) : Prop :=
  session.committed.KeysBounded ∧ session.current.KeysBounded

theorem fresh_keysBounded : fresh.KeysBounded := by
  constructor
  all_goals
    rintro key ⟨message, isMem, -⟩
    cases isMem

theorem keysBounded_reload {db : Database} (bounded : db.KeysBounded) :
    db.reload.KeysBounded := by
  intro key stored
  have := bounded key stored
  cases h : key.entityType <;> rw [h] at this <;> exact this

theorem keysBounded_edit {db : Database} (edit : Edit) (bounded : db.KeysBounded) :
    (edit.apply db).KeysBounded := by
  intro key stored
  rw [edit.outbox] at stored
  exact Nat.lt_of_lt_of_le (bounded key stored) (edit.nextId db key.entityType)

theorem keysBounded_publish {db : Database} (bound : Uuid) (step : PublisherStep)
    (bounded : db.KeysBounded) : (publish bound step db).KeysBounded := by
  rintro key ⟨message, isMem, keyOf⟩
  obtain ⟨stored, storedMem, rfl⟩ := List.mem_map.mp isMem
  refine bounded key ⟨stored, storedMem, ?_⟩
  rw [← keyOf]
  split
  · exact (step.apply_idempotencyKey stored).symm
  · rfl

theorem step_keysBounded (limitOne : LimitOne) {session : Session} (step : Step)
    (bounded : session.KeysBounded) : (session.step limitOne step).KeysBounded := by
  cases step with
  | call call =>
      rw [Session.step]
      split
      · next current done => exact ⟨bounded.1, Call.run_keysBounded bounded.2 done⟩
      · exact ⟨bounded.1, bounded.1⟩
  | edit edit => exact ⟨bounded.1, keysBounded_edit edit bounded.2⟩
  | commit => exact ⟨keysBounded_reload bounded.2, keysBounded_reload bounded.2⟩
  | publish step =>
      exact ⟨keysBounded_publish _ step bounded.1, keysBounded_publish _ step bounded.2⟩

theorem abortedByKey_iff {limitOne : LimitOne} {session : Session} {step : Step}
    (bounded : session.KeysBounded) :
    session.abortedByKey limitOne step = true ↔ session.Republishes limitOne step := by
  cases step with
  | call call =>
      rw [Republishes, ← Call.run_eq_duplicateKey_iff_republishes bounded.2, abortedByKey]
      split
      · next aborted => simp [aborted]
      · next other =>
          simp only [Bool.false_eq_true, false_iff]
          exact other
  | edit edit => simp [abortedByKey, Republishes]
  | commit => simp [abortedByKey, Republishes]
  | publish step => simp [abortedByKey, Republishes]

/-- Along every run, no call is aborted by the unique constraint on the
idempotency key exactly if no holding, scheduled payment or card transaction is
really changed again after a change of it was published. -/
theorem notAborted_iff (limitOne : LimitOne) (steps : List Step) :
    Along (step limitOne) (fun session step => session.abortedByKey limitOne step = false) fresh
        steps ↔
      Along (step limitOne) (fun session step => ¬ session.Republishes limitOne step) fresh
        steps := by
  have always : Along (step limitOne) (fun _ _ => True) fresh steps :=
    along_of_forall steps fun _ _ => trivial
  apply along_congr ?_ ?_ steps fresh_keysBounded always
  · intro session step bounded _
    exact step_keysBounded limitOne step bounded
  · intro session step bounded _
    rw [← abortedByKey_iff bounded, Bool.not_eq_true]

/-- A holding whose quantity is changed twice. -/
def holdingOfQuantity (quantity : Decimal) : CanonicalHoldingData :=
  { providerKey := "trading212", observedAt := ⟨0, 0⟩, quantity }

/-- The second change of one holding is aborted, also in a unit of work of its
own. -/
theorem aborted_of_second_change :
    ¬ ∀ limitOne steps, Along (step limitOne)
        (fun session step => session.abortedByKey limitOne step = false) fresh steps := by
  intro never
  have := never .first
    [.call (.persistHolding 0 (holdingOfQuantity 1) 1 2), .commit,
      .call (.persistHolding 0 (holdingOfQuantity 2) 1 2), .commit,
      .call (.persistHolding 0 (holdingOfQuantity 3) 1 2)]
  revert this
  decide +kernel

end Session

end FinanceSync.Persistence
