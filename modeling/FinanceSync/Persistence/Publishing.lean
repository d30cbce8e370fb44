import FinanceSync.Persistence.Database
import Mathlib.Data.List.Pairwise
import Mathlib.Logic.Function.Basic

/-!
# Syncs and publishers side by side

Units of work of several syncs and ticks of several publishers interleave over
one database.  A unit of work sees what is committed and what it wrote itself;
its rows and its messages are stored together when it commits.  The question is
whether a change that is committed still has a message that was not sent before.

The entities here are the accounts and the transactions, whose syncs look for a
stored message of the same key before they add one.
-/

namespace FinanceSync.Persistence

open Lib

/-- A stored entity. -/
abbrev EntityRef := EntityType × Uuid

/-- The key of the messages about updates of the entity. -/
def updatedKey (ref : EntityRef) : IdempotencyKey := ⟨ref.1, ref.2, .updated⟩

/-! ## What a sync writes to a stored row -/

/-- A persist call that finds a stored row. -/
inductive SyncWrite
  /-- `persist_account` -/
  | account (record : CanonicalAccountData)
  /-- `persist_transaction` -/
  | transaction (record : CanonicalTransactionData) (securityId : Option Uuid)
  /-- An element of `persist_transactions_batch`, whose statement names the given
  extension fields. -/
  | batchElement (element : BatchElement) (named : List Field)

/-- The type of the entities that the call writes. -/
def SyncWrite.entityType : SyncWrite → EntityType
  | account _ => .account
  | transaction .. => .transaction
  | batchElement .. => .transaction

/-- The fields that the call sets and what it sets them to; no fields if it finds
nothing to change. -/
def SyncWrite.changes (existing : Attributes) :
    SyncWrite → Except PersistError (List Field × Attributes)
  | account record => .ok (changedFields accountFields record.getattr existing, record.getattr)
  | transaction record securityId =>
      let new := incomingTransaction record securityId
      let changed := changedTransactionFields new existing
      if anyUnserializable changed new then .error .notSerializable else .ok (changed, new)
  | batchElement element named =>
      let sent := sentValues named (transactionRow element.transaction element.securityId)
      if updateFires transactionUpdateColumns sent existing then
        .ok (transactionUpdateColumns.filter fun column => (sent column).isSome, sent)
      else .ok ([], sent)

/-- The account row after `persist_account`. -/
theorem persistAccount_eq (accounts : Accounts) (existing : Entity ProviderKey Unit)
    (record : CanonicalAccountData) (key : ProviderKey) :
    persistEntity accounts (some existing) (changedFields accountFields record.getattr)
        record.getattr key record.getattr () =
      match (SyncWrite.account record).changes existing.attributes with
      | .error _ => (accounts, .unchanged existing.id)
      | .ok (changed, new) => refresh accounts existing changed new := rfl

/-- The transaction row after `persist_transaction`. -/
theorem refreshTransaction_eq (transactions : Transactions) (existing : TransactionEntity)
    (record : CanonicalTransactionData) (securityId : Option Uuid) :
    refreshTransaction transactions existing (incomingTransaction record securityId) =
      match (SyncWrite.transaction record securityId).changes existing.attributes with
      | .error error => .error error
      | .ok (changed, new) =>
          if changed = [] then .ok (transactions, .unchanged existing.id)
          else
            .ok (transactions.save { existing with
                  attributes := setFields changed new existing.attributes
                  rest := existing.rest.bump },
                .updated existing.id) := by
  rw [refreshTransaction, SyncWrite.changes]
  by_cases same : changedTransactionFields (incomingTransaction record securityId)
      existing.attributes = []
  · simp [same, anyUnserializable]
  · rw [if_neg same]
    split
    · rfl
    · exact (if_neg same).symm

/-- The transaction row after an element of a batch. -/
theorem updateSet_eq_setFields (updateColumns : List Field) (sent existing : Attributes) :
    updateSet updateColumns sent existing =
      setFields (updateColumns.filter fun column => (sent column).isSome) sent existing := by
  funext column
  rw [updateSet, setFields]
  by_cases named : column ∈ updateColumns
  · cases given : sent column with
    | none => simp [named, given, coalesce]
    | some value => simp [named, given, coalesce]
  · simp [named]

/-! ## The system -/

/-- A row that a unit of work wrote and did not commit yet. -/
inductive PendingWrite
  | insert (ref : EntityRef) (attributes : Attributes)
  | set (ref : EntityRef) (fields : List Field) (new : Attributes)

/-- The entity that is new with the write. -/
def PendingWrite.inserted : PendingWrite → Option EntityRef
  | insert ref _ => some ref
  | set .. => none

/-- Rows by entity. -/
abbrev Rows := EntityRef → Option Attributes

def PendingWrite.apply (rows : Rows) : PendingWrite → Rows
  | insert ref attributes => Function.update rows ref (some attributes)
  | set ref fields new => Function.update rows ref ((rows ref).map (setFields fields new))

/-- A unit of work in progress. -/
structure UnitOfWork where
  writes : List PendingWrite := []
  messages : List OutboxMessage := []

structure System where
  /-- The rows that are committed. -/
  rows : Rows
  /-- The messages that are committed. -/
  outbox : List OutboxMessage
  unitsOfWork : Nat → Option UnitOfWork
  /-- The messages that a publisher has claimed and not dispatched yet. -/
  claimed : Nat → List Uuid
  /-- The id that the next message gets. -/
  nextMessage : Uuid

/-- A database with rows, from before there were messages about them. -/
def System.start (rows : Rows) : System where
  rows
  outbox := []
  unitsOfWork := fun _ => none
  claimed := fun _ => []
  nextMessage := 0

inductive Step
  | begin (session : Nat)
  /-- A sync persists a record for which it finds no row. -/
  | create (session : Nat) (ref : EntityRef) (attributes : Attributes)
  /-- A sync persists a record for which it finds the row with the id. -/
  | persist (session : Nat) (id : Uuid) (write : SyncWrite)
  | commit (session : Nat)
  | rollback (session : Nat)
  /-- A publisher claims messages. -/
  | claim (publisher : Nat) (now : Instant) (ids : List Uuid)
  /-- A publisher hands a claimed message to the handlers. -/
  | dispatch (publisher : Nat) (now : Instant) (id : Uuid) (errors : List String)
  | crash (publisher : Nat)
  /-- Something other than a sync changes rows. -/
  | edit (rows : Rows)

namespace System

variable (system : System)

/-- The rows as a unit of work sees them. -/
def rowsSeen (work : UnitOfWork) : Rows := work.writes.foldl PendingWrite.apply system.rows

/-- The messages as a unit of work sees them. -/
def messagesSeen (work : UnitOfWork) : List OutboxMessage := system.outbox ++ work.messages

def setUnitOfWork (session : Nat) (work : Option UnitOfWork) : System :=
  { system with unitsOfWork := Function.update system.unitsOfWork session work }

/-- A unit of work writes a row and adds a message, if there is one to add. -/
def write (session : Nat) (work : UnitOfWork) (pending : PendingWrite)
    (draft : Option OutboxDraft) : System :=
  let messages := draft.toList.map fun draft =>
    ({ draft with id := system.nextMessage } : OutboxMessage)
  { system.setUnitOfWork session
      (some ⟨work.writes ++ [pending], work.messages ++ messages⟩) with
    nextMessage := system.nextMessage + 1 }

/-- The constraints that a commit can violate: a row or a key is there already. -/
def Conflicts (work : UnitOfWork) : Prop :=
  (∃ ref ∈ work.writes.filterMap PendingWrite.inserted, (system.rows ref).isSome) ∨
    ∃ message ∈ work.messages, ∃ stored ∈ system.outbox,
      message.idempotencyKey.isSome ∧ stored.idempotencyKey = message.idempotencyKey

instance (work : UnitOfWork) : Decidable (system.Conflicts work) :=
  inferInstanceAs (Decidable (_ ∨ _))

/-- One step; a step of a unit of work or of a publisher that is not in the
position to take it does nothing. -/
def step (system : System) : Step → System
  | .begin session => system.setUnitOfWork session (some {})
  | .create session ref attributes =>
      match system.unitsOfWork session with
      | some work =>
          if (system.rowsSeen work ref).isSome then system
          else system.write session work (.insert ref attributes)
            (some (outboxEntityCreated ref.1 ref.2))
      | none => system
  | .persist session id write =>
      let ref : EntityRef := (write.entityType, id)
      match system.unitsOfWork session with
      | some work =>
          match system.rowsSeen work ref with
          | some existing =>
              match write.changes existing with
              | .ok ([], _) => system
              | .ok (changed, new) =>
                  system.write session work (.set ref changed new)
                    (outboxEntityUpdated (system.messagesSeen work) ref.1 ref.2 true)
              | .error _ => system.setUnitOfWork session none
          | none => system
      | none => system
  | .commit session =>
      match system.unitsOfWork session with
      | some work =>
          if system.Conflicts work then system.setUnitOfWork session none
          else
            { system.setUnitOfWork session none with
              rows := system.rowsSeen work
              outbox := system.messagesSeen work }
      | none => system
  | .rollback session => system.setUnitOfWork session none
  | .claim publisher now ids =>
      let claimed := (system.outbox.filter fun message =>
        message.id ∈ ids && message.claimable now).map OutboxMessage.id
      { system with
        outbox := system.outbox.map (PublisherStep.claim now ids).apply
        claimed := Function.update system.claimed publisher claimed }
  | .dispatch publisher now id errors =>
      if id ∈ system.claimed publisher then
        { system with
          outbox := system.outbox.map (PublisherStep.dispatch now id errors).apply
          claimed := Function.update system.claimed publisher
            ((system.claimed publisher).erase id) }
      else system
  | .crash publisher =>
      { system with claimed := Function.update system.claimed publisher [] }
  | .edit rows => { system with rows }

end System

/-! ## What holds in every reachable state -/

/-- No two messages have the key of one update. -/
def UniqueUpdates (messages : List OutboxMessage) : Prop :=
  messages.Pairwise fun first second =>
    ∀ ref, first.idempotencyKey = some (updatedKey ref) →
      second.idempotencyKey ≠ some (updatedKey ref)

theorem UniqueUpdates.eq_of_key {messages : List OutboxMessage} (unique : UniqueUpdates messages)
    {first second : OutboxMessage} {ref : EntityRef} (firstMem : first ∈ messages)
    (secondMem : second ∈ messages) (firstKey : first.idempotencyKey = some (updatedKey ref))
    (secondKey : second.idempotencyKey = some (updatedKey ref)) : first = second := by
  by_contra ne
  have symmetric : Std.Symm fun first second : OutboxMessage =>
      ∀ ref, first.idempotencyKey = some (updatedKey ref) →
        second.idempotencyKey ≠ some (updatedKey ref) :=
    ⟨fun _ _ apart ref otherKey oneKey => apart ref oneKey otherKey⟩
  exact unique.forall firstMem secondMem ne ref firstKey secondKey

/-- A publisher keeps the keys and so their uniqueness. -/
theorem UniqueUpdates.apply {messages : List OutboxMessage} (unique : UniqueUpdates messages)
    (step : PublisherStep) : UniqueUpdates (messages.map step.apply) := by
  apply List.Pairwise.map _ _ unique
  intro first second apart ref firstKey secondKey
  rw [PublisherStep.apply_idempotencyKey] at firstKey secondKey
  exact apart ref firstKey secondKey

theorem hasKey_apply {messages : List OutboxMessage} {key : IdempotencyKey}
    (step : PublisherStep) (stored : HasKey messages key) :
    HasKey (messages.map step.apply) key := by
  obtain ⟨message, isMem, keyOf⟩ := stored
  exact ⟨step.apply message, List.mem_map_of_mem isMem,
    by rw [step.apply_idempotencyKey, keyOf]⟩

theorem hasKey_append {messages more : List OutboxMessage} {key : IdempotencyKey} :
    HasKey (messages ++ more) key ↔ HasKey messages key ∨ HasKey more key := by
  simp only [HasKey, List.mem_append, or_and_right, exists_or]

/-- A message about a new entity is not about an update. -/
theorem created_ne_updated (ref other : EntityRef) :
    (outboxEntityCreated ref.1 ref.2).idempotencyKey ≠ some (updatedKey other) := by
  simp [outboxEntityCreated, updatedKey]

/-- With the lookup, a message is added exactly if none is there. -/
theorem outboxEntityUpdated_cases (visible : List OutboxMessage) (ref : EntityRef) :
    (HasKey visible (updatedKey ref) ∧ outboxEntityUpdated visible ref.1 ref.2 true = none) ∨
      ∃ draft, ¬ HasKey visible (updatedKey ref) ∧
        outboxEntityUpdated visible ref.1 ref.2 true = some draft ∧
        draft.idempotencyKey = some (updatedKey ref) := by
  rw [outboxEntityUpdated]
  by_cases stored : HasKey visible (updatedKey ref)
  · exact .inl ⟨stored, if_pos ⟨rfl, stored⟩⟩
  · exact .inr ⟨_, stored, if_neg fun both => stored both.2, rfl⟩

theorem updatedKey_injective : Function.Injective updatedKey := by
  rintro ⟨entityType, id⟩ ⟨otherType, otherId⟩ same
  cases same
  rfl

/-- A message that no publisher has touched. -/
def OutboxMessage.Untouched (message : OutboxMessage) : Prop :=
  message.status = .pending ∧ message.publishedAt = none

/-- No publisher has seen the messages of a unit of work, and each row that it
changed has a message, which may have been stored before. -/
structure WorkSound (outbox : List OutboxMessage) (work : UnitOfWork) : Prop where
  unique : UniqueUpdates work.messages
  untouched : ∀ message ∈ work.messages, message.Untouched
  announced : ∀ ref fields new, .set ref fields new ∈ work.writes →
    HasKey (outbox ++ work.messages) (updatedKey ref)

/-- What holds of the system in every reachable state. -/
structure System.Sound (system : System) : Prop where
  unique : UniqueUpdates system.outbox
  work : ∀ session work, system.unitsOfWork session = some work →
    WorkSound system.outbox work

theorem workSound_empty (outbox : List OutboxMessage) : WorkSound outbox {} where
  unique := List.Pairwise.nil
  untouched := by simp
  announced := by simp

theorem WorkSound.of_outbox {outbox outbox' : List OutboxMessage} {work : UnitOfWork}
    (sound : WorkSound outbox work)
    (kept : ∀ ref, HasKey outbox (updatedKey ref) → HasKey outbox' (updatedKey ref)) :
    WorkSound outbox' work where
  unique := sound.unique
  untouched := sound.untouched
  announced := by
    intro ref fields new isMem
    have announced := sound.announced ref fields new isMem
    rw [hasKey_append] at announced ⊢
    exact announced.imp_left (kept ref)

namespace System

variable {system : System}

theorem start_sound (rows : Rows) : (start rows).Sound where
  unique := List.Pairwise.nil
  work := by
    intro session work active
    cases active

theorem setUnitOfWork_sound (sound : system.Sound) {session : Nat} {work : Option UnitOfWork}
    (workSound : ∀ own, work = some own → WorkSound system.outbox own) :
    (system.setUnitOfWork session work).Sound where
  unique := sound.unique
  work := by
    intro other otherWork active
    change Function.update system.unitsOfWork session work other = some otherWork at active
    rw [Function.update_apply] at active
    split at active
    · exact workSound otherWork active
    · exact sound.work other otherWork active

/-- A unit of work that is discarded. -/
theorem discard_sound (sound : system.Sound) (session : Nat) :
    (system.setUnitOfWork session none).Sound :=
  setUnitOfWork_sound sound fun _ absent => by cases absent

/-- The stored messages change, and no key of an update gets lost. -/
theorem sound_of_outbox (sound : system.Sound) {outbox : List OutboxMessage}
    (unique : UniqueUpdates outbox)
    (kept : ∀ ref, HasKey system.outbox (updatedKey ref) → HasKey outbox (updatedKey ref))
    (rows : Rows) (claimed : Nat → List Uuid) :
    ({ system with outbox, rows, claimed } : System).Sound where
  unique := unique
  work := fun session work active => (sound.work session work active).of_outbox kept

/-- A write with a message whose key is new to the unit of work, or with none if
the message about it is there. -/
theorem write_sound (sound : system.Sound) {session : Nat} {work : UnitOfWork}
    (active : system.unitsOfWork session = some work) {pending : PendingWrite}
    {draft : Option OutboxDraft}
    (fresh : ∀ ref, draft.bind OutboxDraft.idempotencyKey = some (updatedKey ref) →
      ¬ HasKey work.messages (updatedKey ref))
    (announced : ∀ ref fields new, pending = .set ref fields new →
      HasKey (system.messagesSeen work) (updatedKey ref) ∨
        draft.bind OutboxDraft.idempotencyKey = some (updatedKey ref)) :
    (system.write session work pending draft).Sound := by
  have workSound := sound.work session work active
  have added : WorkSound system.outbox
      ⟨work.writes ++ [pending], work.messages ++ draft.toList.map fun draft =>
        ({ draft with id := system.nextMessage } : OutboxMessage)⟩ := by
    cases draft with
    | none =>
        simp only [Option.toList_none, List.map_nil, List.append_nil]
        refine ⟨workSound.unique, workSound.untouched, ?_⟩
        intro ref fields new isMem
        rcases List.mem_append.mp isMem with before | own
        · exact workSound.announced ref fields new before
        · rcases announced ref fields new (List.mem_singleton.mp own).symm with seen | given
          · exact seen
          · cases given
    | some draft =>
        simp only [Option.toList_some, List.map_cons, List.map_nil]
        refine ⟨?_, ?_, ?_⟩
        · apply List.pairwise_append.mpr
          refine ⟨workSound.unique, List.pairwise_singleton _ _, ?_⟩
          intro first firstMem second secondMem ref firstKey secondKey
          rw [List.mem_singleton.mp secondMem] at secondKey
          exact fresh ref secondKey ⟨first, firstMem, firstKey⟩
        · intro message isMem
          rcases List.mem_append.mp isMem with before | own
          · exact workSound.untouched message before
          · rw [List.mem_singleton.mp own]
            exact ⟨rfl, rfl⟩
        · intro ref fields new isMem
          rw [← List.append_assoc, hasKey_append]
          rcases List.mem_append.mp isMem with before | own
          · exact .inl (workSound.announced ref fields new before)
          · apply (announced ref fields new (List.mem_singleton.mp own).symm).imp_right
            intro key
            exact ⟨_, List.mem_singleton_self _, key⟩
  have setSound : (system.setUnitOfWork session (some
      ⟨work.writes ++ [pending], work.messages ++ draft.toList.map fun draft =>
        ({ draft with id := system.nextMessage } : OutboxMessage)⟩)).Sound := by
    apply setUnitOfWork_sound sound
    intro own same
    cases same
    exact added
  exact ⟨setSound.unique, setSound.work⟩

theorem commit_sound (sound : system.Sound) {session : Nat} {work : UnitOfWork}
    (active : system.unitsOfWork session = some work) (admitted : ¬ system.Conflicts work) :
    UniqueUpdates (system.messagesSeen work) := by
  have workSound := sound.work session work active
  apply List.pairwise_append.mpr
  refine ⟨sound.unique, workSound.unique, ?_⟩
  intro stored storedMem message isMem ref storedKey key
  apply admitted
  right
  refine ⟨message, isMem, stored, storedMem, ?_, ?_⟩
  · rw [key]
    rfl
  · rw [key, storedKey]

theorem step_sound (sound : system.Sound) (step : Step) : (system.step step).Sound := by
  cases step with
  | begin session =>
      apply setUnitOfWork_sound sound
      rintro own ⟨⟩
      exact workSound_empty _
  | create session ref attributes =>
      rw [System.step]
      split
      · next work active =>
          split
          · exact sound
          · apply write_sound sound active
            · intro other key
              exact absurd key (created_ne_updated ref other)
            · intro other fields new isSet
              cases isSet
      · exact sound
  | persist session id write =>
      rw [System.step]
      dsimp only
      split
      · next work active =>
          split
          · next existing found =>
              split
              · exact sound
              · next changed new _ _ =>
                  rcases outboxEntityUpdated_cases (system.messagesSeen work)
                    (write.entityType, id) with ⟨stored, absent⟩ | ⟨draft, absent, given, key⟩
                  · rw [absent]
                    apply write_sound sound active
                    · rintro ref ⟨⟩
                    · rintro ref fields new ⟨⟩
                      exact .inl stored
                  · rw [given]
                    apply write_sound sound active
                    · intro ref sameKey stored
                      rw [Option.bind_some, key, Option.some_inj] at sameKey
                      rw [← updatedKey_injective sameKey] at stored
                      exact absent (hasKey_append.mpr (.inr stored))
                    · rintro ref fields new ⟨⟩
                      exact .inr key
              · exact discard_sound sound session
          · exact sound
      · exact sound
  | commit session =>
      rw [System.step]
      split
      · next work active =>
          split
          · exact discard_sound sound session
          · next admitted =>
              apply sound_of_outbox (discard_sound sound session)
                (commit_sound sound active admitted)
              intro ref stored
              exact hasKey_append.mpr (.inl stored)
      · exact sound
  | rollback session => exact discard_sound sound session
  | claim publisher now ids =>
      exact sound_of_outbox sound (sound.unique.apply _) (fun _ => hasKey_apply _) _ _
  | dispatch publisher now id errors =>
      rw [System.step]
      split
      · exact sound_of_outbox sound (sound.unique.apply _) (fun _ => hasKey_apply _) _ _
      · exact sound
  | crash publisher => exact ⟨sound.unique, sound.work⟩
  | edit rows => exact ⟨sound.unique, sound.work⟩

/-! ## Changes and the messages about them -/

/-- A stored row reads differently afterwards. -/
def Changes (before after : System) (ref : EntityRef) : Prop :=
  ∃ old new, before.rows ref = some old ∧ after.rows ref = some new ∧ old ≠ new

/-- There is a message about updates of the entity with the property. -/
def HasUpdate (system : System) (ref : EntityRef) (property : OutboxMessage → Prop) : Prop :=
  ∃ message ∈ system.outbox, message.idempotencyKey = some (updatedKey ref) ∧ property message

/-- A row that no write is about is not changed. -/
theorem foldl_apply_of_not_mem (writes : List PendingWrite) :
    ∀ {rows : Rows} {ref : EntityRef}, ref ∉ writes.filterMap PendingWrite.inserted →
      (∀ fields new, .set ref fields new ∉ writes) →
      writes.foldl PendingWrite.apply rows ref = rows ref := by
  induction writes with
  | nil => intro rows ref _ _; rfl
  | cons pending rest ih =>
      intro rows ref notInserted notSet
      rw [List.foldl_cons, ih]
      · cases pending with
        | insert other attributes =>
            apply Function.update_of_ne
            rintro rfl
            exact notInserted List.mem_cons_self
        | set other fields new =>
            apply Function.update_of_ne
            rintro rfl
            exact notSet fields new List.mem_cons_self
      · intro later
        apply notInserted
        rw [List.filterMap_cons]
        split
        · exact later
        · exact List.mem_cons_of_mem _ later
      · intro fields new later
        exact notSet fields new (List.mem_cons_of_mem _ later)

/-- What a commit that is admitted changes has a message. -/
theorem hasKey_of_changes (sound : system.Sound) {session : Nat} {work : UnitOfWork}
    (active : system.unitsOfWork session = some work) (admitted : ¬ system.Conflicts work)
    {ref : EntityRef} {old new : Attributes} (before : system.rows ref = some old)
    (after : system.rowsSeen work ref = some new) (ne : old ≠ new) :
    HasKey (system.messagesSeen work) (updatedKey ref) := by
  by_contra unannounced
  have same : system.rowsSeen work ref = system.rows ref := by
    apply foldl_apply_of_not_mem
    · intro inserted
      exact admitted (.inl ⟨ref, inserted, by rw [before]; rfl⟩)
    · intro fields new isSet
      exact unannounced ((sound.work session work active).announced ref fields new isSet)
  rw [before, after] at same
  exact ne (Option.some_inj.mp same).symm

/-- The commit would be admitted, and the unit of work sees the row otherwise than
it is stored. -/
def Commits (system : System) (session : Nat) (ref : EntityRef) : Prop :=
  ∃ work, system.unitsOfWork session = some work ∧ ¬ system.Conflicts work ∧
    ∃ old new, system.rows ref = some old ∧ system.rowsSeen work ref = some new ∧ old ≠ new

theorem changes_commit_iff {session : Nat} {ref : EntityRef} :
    Changes system (system.step (.commit session)) ref ↔ Commits system session ref := by
  rw [Changes, Commits, System.step]
  split
  · next work active =>
      split
      · next conflict =>
          constructor
          · rintro ⟨old, new, before, after, ne⟩
            change system.rows ref = some new at after
            rw [before] at after
            exact absurd (Option.some_inj.mp after) ne
          · rintro ⟨other, active', admitted, -⟩
            cases active.symm.trans active'
            exact absurd conflict admitted
      · next admitted =>
          constructor
          · intro changes
            exact ⟨work, active, admitted, changes⟩
          · rintro ⟨other, active', -, changes⟩
            cases active.symm.trans active'
            exact changes
  · next inactive =>
      constructor
      · rintro ⟨old, new, before, after, ne⟩
        rw [before] at after
        exact absurd (Option.some_inj.mp after) ne
      · rintro ⟨work, active, -⟩
        rw [inactive] at active
        cases active

/-- A change that is committed has a message that publishers have left in the
state `fresh` exactly if it did not have one before that they moved on. -/
theorem hasUpdate_iff {fresh : OutboxMessage → Prop}
    (untouched : ∀ message : OutboxMessage, message.Untouched → fresh message)
    (sound : system.Sound) {session : Nat} {ref : EntityRef}
    (commits : Commits system session ref) :
    HasUpdate (system.step (.commit session)) ref fresh ↔
      ¬ HasUpdate system ref fun message => ¬ fresh message := by
  obtain ⟨work, active, admitted, old, new, before, after, ne⟩ := commits
  have unique := commit_sound sound active admitted
  obtain ⟨message, messageMem, keyOf⟩ :=
    hasKey_of_changes sound active admitted before after ne
  have committed : (system.step (.commit session)).outbox = system.messagesSeen work := by
    rw [System.step, active]
    dsimp only
    rw [if_neg admitted]
  rw [HasUpdate, committed]
  constructor
  · rintro ⟨other, otherMem, otherKey, isFresh⟩ ⟨moved, movedMem, movedKey, notFresh⟩
    apply notFresh
    rw [unique.eq_of_key (List.mem_append_left _ movedMem) otherMem movedKey otherKey]
    exact isFresh
  · intro noneMoved
    refine ⟨message, messageMem, keyOf, ?_⟩
    rcases List.mem_append.mp messageMem with stored | own
    · by_contra notFresh
      exact noneMoved ⟨message, stored, keyOf, notFresh⟩
    · exact untouched message ((sound.work session work active).untouched message own)

/-! ## Publication of all changes -/

/-- Every change that the step commits has a message with the property. -/
def Published (fresh : OutboxMessage → Prop) (system : System) : Step → Prop
  | .commit session => ∀ ref, Changes system (system.step (.commit session)) ref →
      HasUpdate (system.step (.commit session)) ref fresh
  | _ => True

/-- No row that the step is about to change has a message without the property. -/
def AllFresh (fresh : OutboxMessage → Prop) (system : System) : Step → Prop
  | .commit session => ∀ ref, Commits system session ref →
      ¬ HasUpdate system ref fun message => ¬ fresh message
  | _ => True

theorem published_iff {fresh : OutboxMessage → Prop}
    (untouched : ∀ message : OutboxMessage, message.Untouched → fresh message)
    (sound : system.Sound) (step : Step) :
    Published fresh system step ↔ AllFresh fresh system step := by
  cases step with
  | commit session =>
      rw [Published, AllFresh]
      apply forall_congr'
      intro ref
      rw [changes_commit_iff]
      exact imp_congr_right (hasUpdate_iff untouched sound)
  | _ => exact Iff.rfl

theorem along_published_iff {fresh : OutboxMessage → Prop}
    (untouched : ∀ message : OutboxMessage, message.Untouched → fresh message) (rows : Rows)
    (steps : List Step) :
    Along System.step (Published fresh) (start rows) steps ↔
      Along System.step (AllFresh fresh) (start rows) steps := by
  have always : Along System.step (fun _ _ => True) (start rows) steps :=
    along_of_forall steps fun _ _ => trivial
  apply along_congr ?_ ?_ steps (start_sound rows) always
  · intro system step sound _
    exact step_sound sound step
  · intro system step sound _
    exact published_iff untouched sound step

end System

/-- No publisher has sent the message. -/
def OutboxMessage.Unsent (message : OutboxMessage) : Prop :=
  message.publishedAt = none

instance (message : OutboxMessage) : Decidable message.Unsent :=
  inferInstanceAs (Decidable (_ = none))

/-- A tick can still send the message: it is due, or a publisher has it and has
not come back from the handlers.  A message that failed is never claimed again. -/
def OutboxMessage.Deliverable (message : OutboxMessage) : Prop :=
  message.Unsent ∧ (message.status = .pending ∨ message.status = .processing)

namespace System

/-- Along every interleaving, every change of an account or a transaction that a
sync commits has a message that was not sent before exactly if no change is
committed to one whose message was sent; and one that a tick can still deliver
exactly if no change is committed to one whose message was sent or failed. -/
theorem everyChange_published_iff (rows : Rows) (steps : List Step) :
    (Along System.step (Published OutboxMessage.Unsent) (start rows) steps ↔
      Along System.step (AllFresh OutboxMessage.Unsent) (start rows) steps) ∧
    (Along System.step (Published OutboxMessage.Deliverable) (start rows) steps ↔
      Along System.step (AllFresh OutboxMessage.Deliverable) (start rows) steps) := by
  constructor
  · apply along_published_iff
    intro message untouched
    exact untouched.2
  · apply along_published_iff
    intro message untouched
    exact ⟨untouched.2, .inl untouched.1⟩

/-- A row changes if one of its columns does. -/
theorem changes_of_stored {before after : System} {ref : EntityRef} (field : Field)
    (presentBefore : (before.rows ref).isSome) (presentAfter : (after.rows ref).isSome)
    (ne : (before.rows ref).map (fun row => (row field).map PyValue.stored) ≠
      (after.rows ref).map (fun row => (row field).map PyValue.stored)) :
    Changes before after ref := by
  obtain ⟨old, oldRow⟩ := Option.isSome_iff_exists.mp presentBefore
  obtain ⟨new, newRow⟩ := Option.isSome_iff_exists.mp presentAfter
  refine ⟨old, new, oldRow, newRow, ?_⟩
  rintro rfl
  rw [oldRow, newRow] at ne
  exact ne rfl

/-- An account whose balance is changed twice. -/
def accountOfBalance (balance : Decimal) : CanonicalAccountData :=
  { providerKey := "bunq", externalAccountId := "1", name := "Main", accountType := "checking"
    currentBalance := some balance }

/-- The second change of an account, after the message about the first one was
sent, is not published. -/
theorem secondChange_not_published :
    ¬ ∀ rows steps, Along System.step (Published OutboxMessage.Unsent) (start rows) steps := by
  intro always
  have published := always
    (fun ref => if ref = (.account, 1) then some (accountOfBalance 100).getattr else none)
    [.begin 0, .persist 0 1 (.account (accountOfBalance 200)), .commit 0,
      .claim 0 0 [0], .dispatch 0 1 0 [],
      .begin 0, .persist 0 1 (.account (accountOfBalance 300)), .commit 0]
  obtain ⟨-, -, -, -, -, -, -, published, -⟩ := published
  obtain ⟨message, isMem, -, unsent⟩ := published (.account, 1)
    (changes_of_stored .currentBalance (by decide +kernel) (by decide +kernel)
      (by decide +kernel))
  revert message
  decide +kernel

end System

end FinanceSync.Persistence
