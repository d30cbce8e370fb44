import FinanceSync.Persistence.BulkAgreement
import FinanceSync.Persistence.Details
import Mathlib.Logic.Equiv.Defs

/-!
# Details on the two paths

`persist_transaction` records what it does to a transaction in the tables that
depend on it; the bulk upsert of PostgreSQL does not write these tables.  For
different external ids the bulk upsert keeps the details exactly if there is
nothing to record, or if both paths reject the batch.
-/

namespace FinanceSync.Persistence

open Lib

/-! ## What has to be kept -/

/-- The details with other ids for the transactions. -/
def Details.rename (details : Details) (rename : Uuid → Uuid) : Details where
  references := details.references.map fun row =>
    { row with transactionId := rename row.transactionId }
  splits := details.splits.map fun row => { row with transactionId := rename row.transactionId }
  annotations := details.annotations.map fun row =>
    { row with transactionId := rename row.transactionId }
  events := details.events.map fun row => { row with transactionId := rename row.transactionId }

/-- The same rows, in some order. -/
structure Details.SameRows (first second : Details) : Prop where
  references : first.references.Perm second.references
  splits : first.splits.Perm second.splits
  annotations : first.annotations.Perm second.annotations
  events : first.events.Perm second.events

section Element

variable (limitOne : LimitOne) (tenantId : Uuid) (connectionId : Option Uuid)

/-- The details have recorded what was done with an element: those of a new
transaction once, and one event for a create or a change. -/
def Recorded (before after : Details) (element : BatchElement) : Outcome → Prop
  | .created id =>
      after.about id = recordCreate (before.about id)
        ⟨id, transactionKey tenantId connectionId element.transaction,
          transactionRow element.transaction element.securityId, {}⟩ element.transaction
  | .updated id => ∃ event, after.about id = (before.about id).addEvent event
  | .unchanged _ => True

/-- The bulk upsert of a batch leaves the rows that the loop leaves, up to the
ids that were generated; it records all it does, and repeating it adds nothing. -/
structure KeptDetails (stored : DetailedTransactions) (batch : List BatchElement)
    (perRow bulk : DetailedTransactions × List Outcome) : Prop where
  same : ∃ rename : Uuid ≃ Uuid,
    (∀ entity ∈ stored.transactions.rows, rename entity.id = entity.id) ∧
      (perRow.1.details.rename rename).SameRows bulk.1.details
  recorded : List.Forall₂ (Recorded tenantId connectionId stored.details bulk.1.details)
    batch bulk.2
  repeated : ∀ again, persistDetailedBatch bulk.1 tenantId connectionId batch = .ok again →
    again.1.details = bulk.1.details

/-- The two paths reject a batch, or the bulk upsert keeps the details. -/
def KeepsDetails (stored : DetailedTransactions) (batch : List BatchElement) : Prop :=
  match persistDetailedPerRow limitOne stored tenantId connectionId batch,
    persistDetailedBatch stored tenantId connectionId batch with
  | .ok perRow, .ok bulk => KeptDetails tenantId connectionId stored batch perRow bulk
  | .error _, .error _ => True
  | _, _ => False

/-! ## The loop over the rows -/

/-- The event that a change of an element adds. -/
abbrev elementEvent (element : BatchElement) (existing : TransactionEntity) :
    TransactionLifecycleEvent :=
  changeEvent tenantId element.transaction existing
    (changedByRow element.transaction element.securityId existing.attributes)

variable {limitOne tenantId connectionId}

theorem persistDetailedTransaction_of_absent {stored : DetailedTransactions}
    {element : BatchElement}
    (absent : getByExternalId limitOne stored.transactions
      (transactionKey tenantId connectionId element.transaction) = none) :
    persistDetailedTransaction limitOne stored tenantId element.transaction element.securityId
        connectionId =
      let entity := newTransaction stored.transactions tenantId element.transaction
        element.securityId connectionId
      .ok (⟨stored.transactions.insert entity rfl,
        recordCreate stored.details entity element.transaction⟩, .created entity.id) := by
  rw [persistDetailedTransaction, persistTransaction, absent, recordTransaction, absent]
  rfl

theorem persistDetailedTransaction_of_found {stored : DetailedTransactions}
    {element : BatchElement} {existing : TransactionEntity}
    (found : getByExternalId limitOne stored.transactions
      (transactionKey tenantId connectionId element.transaction) = some existing) :
    persistDetailedTransaction limitOne stored tenantId element.transaction element.securityId
        connectionId =
      let changed := changedByRow element.transaction element.securityId existing.attributes
      let new := incomingTransaction element.transaction element.securityId
      if changed = [] then .ok (stored, .unchanged existing.id)
      else if anyUnserializable changed new then .error .notSerializable
      else if stored.details.events.any (elementEvent tenantId element existing).clashes then
        .error .duplicateKey
      else
        .ok (⟨stored.transactions.save (saved existing (setFields changed new existing.attributes)),
          stored.details.addEvent (elementEvent tenantId element existing)⟩,
            .updated existing.id) := by
  rw [persistDetailedTransaction, persistTransaction, found, recordTransaction, found]
  dsimp only
  rw [refreshTransaction, Details.flushEvent]
  by_cases quiet : changedByRow element.transaction element.securityId existing.attributes = []
  · rw [if_pos quiet, if_pos quiet, if_pos quiet]
    rfl
  · rw [if_neg quiet, if_neg quiet, if_neg quiet]
    split
    · rfl
    · change (if _ then _ else _ : Except PersistError Details) >>= _ = _
      split
      · rfl
      · rfl

/-! ## What a write of an element concerns -/

/-- The events about the rows. -/
def eventsOf (rows : List TransactionEntity) (events : List TransactionLifecycleEvent) :
    List TransactionLifecycleEvent :=
  events.filter fun event => rows.any fun row => row.id = event.transactionId

theorem eventsOf_append_of_ne {rows : List TransactionEntity}
    (events : List TransactionLifecycleEvent) {event : TransactionLifecycleEvent}
    (elsewhere : ∀ row ∈ rows, row.id ≠ event.transactionId) :
    eventsOf rows (events ++ [event]) = eventsOf rows events := by
  have unseen : (rows.any fun row => row.id = event.transactionId) = false := by
    simpa using elsewhere
  rw [eventsOf, List.filter_append, List.filter_singleton, unseen, cond_false, List.append_nil]
  rfl

/-- Whether an event about a row clashes is decided by the events about the rows. -/
theorem any_clashes_eventsOf {rows : List TransactionEntity} {row : TransactionEntity}
    (isMem : row ∈ rows) (events : List TransactionLifecycleEvent)
    (event : TransactionLifecycleEvent) (isAbout : event.transactionId = row.id) :
    (eventsOf rows events).any event.clashes = events.any event.clashes := by
  rw [eventsOf, List.any_filter]
  congr 1
  funext other
  by_cases clash : event.clashes other = true
  · have sameTransaction : row.id = other.transactionId := by
      simp only [TransactionLifecycleEvent.clashes, Bool.and_eq_true, decide_eq_true_eq] at clash
      exact isAbout.symm.trans clash.1.2
    have isThere : (rows.any fun stored => stored.id = other.transactionId) = true :=
      List.any_eq_true.mpr ⟨row, isMem, by simpa using sameTransaction⟩
    rw [clash, isThere, Bool.and_true]
  · simp [clash]

/-- Writes are compared by how they classify the elements; what they do depends on
the rows with the external id and on the events about these. -/
def detailsComparison : Comparison DetailedTransactions Outcome String
    (List TransactionEntity × List TransactionLifecycleEvent) Unit Classification where
  observe stored externalId :=
    (rowsWithId stored.transactions externalId,
      eventsOf (rowsWithId stored.transactions externalId) stored.details.events)
  view _ := ()
  kind := Outcome.classification

variable (limitOne tenantId connectionId)

/-- How `persist_transaction` classifies an element, if it does not fail. -/
def detailedEffect (element : BatchElement)
    (observed : List TransactionEntity × List TransactionLifecycleEvent) :
    Option (Unit × Classification) :=
  match limitOne.pick (observed.1.filter fun entity =>
      entity.key.isFoundBy (transactionKey tenantId connectionId element.transaction)) with
  | some existing =>
      let changed := changedByRow element.transaction element.securityId existing.attributes
      if changed = [] then some ((), .unchanged)
      else if anyUnserializable changed
          (incomingTransaction element.transaction element.securityId) then none
      else if observed.2.any (elementEvent tenantId element existing).clashes then none
      else some ((), .changed)
  | none => some ((), .new)

variable {limitOne tenantId connectionId}

theorem detailedEffect_of_absent {stored : DetailedTransactions} {element : BatchElement}
    (absent : getByExternalId limitOne stored.transactions
      (transactionKey tenantId connectionId element.transaction) = none) :
    detailedEffect limitOne tenantId connectionId element
        (detailsComparison.observe stored element.transaction.externalTransactionId) =
      some ((), .new) := by
  rw [getByExternalId_eq] at absent
  rw [detailedEffect, detailsComparison]
  dsimp only [transactionKey] at absent ⊢
  rw [absent]

theorem detailedEffect_of_found {stored : DetailedTransactions} {element : BatchElement}
    {existing : TransactionEntity}
    (found : getByExternalId limitOne stored.transactions
      (transactionKey tenantId connectionId element.transaction) = some existing) :
    detailedEffect limitOne tenantId connectionId element
        (detailsComparison.observe stored element.transaction.externalTransactionId) =
      let changed := changedByRow element.transaction element.securityId existing.attributes
      if changed = [] then some ((), .unchanged)
      else if anyUnserializable changed
          (incomingTransaction element.transaction element.securityId) then none
      else if stored.details.events.any (elementEvent tenantId element existing).clashes then none
      else some ((), .changed) := by
  rw [getByExternalId_eq] at found
  have isHere : existing ∈ rowsWithId stored.transactions
      element.transaction.externalTransactionId :=
    (List.mem_filter.mp (limitOne.mem found)).1
  rw [detailedEffect, detailsComparison]
  dsimp only [transactionKey] at found ⊢
  rw [found]
  dsimp only
  rw [any_clashes_eventsOf isHere stored.details.events (elementEvent tenantId element existing)
    rfl]

theorem observe_of_absent {stored : DetailedTransactions} {element : BatchElement}
    {other : String} (apart : other ≠ element.transaction.externalTransactionId)
    (attributes : Attributes) (transaction : CanonicalTransactionData) :
    let entity : TransactionEntity := ⟨stored.transactions.next,
      transactionKey tenantId connectionId element.transaction, attributes, {}⟩
    detailsComparison.observe ⟨stored.transactions.insert entity rfl,
        recordCreate stored.details entity transaction⟩ other =
      detailsComparison.observe stored other := by
  have sameRows := rowsWithId_insert stored.transactions
    (transactionKey tenantId connectionId element.transaction) attributes other
  have elsewhere :
      (transactionKey tenantId connectionId element.transaction).externalId ≠ other := apart.symm
  rw [if_neg elsewhere, List.append_nil] at sameRows
  simp only [detailsComparison, sameRows, Prod.mk.injEq, true_and]
  apply eventsOf_append_of_ne
  intro row rowMem
  have below := stored.transactions.below row (mem_of_mem_rowsWithId rowMem).1
  exact ne_of_lt below

theorem observe_of_found {stored : DetailedTransactions} {existing : TransactionEntity}
    (isMem : existing ∈ stored.transactions.rows) {other : String}
    (apart : other ≠ existing.key.externalId) (attributes : Attributes)
    {event : TransactionLifecycleEvent} (isAbout : event.transactionId = existing.id) :
    detailsComparison.observe ⟨stored.transactions.save (saved existing attributes),
        stored.details.addEvent event⟩ other =
      detailsComparison.observe stored other := by
  have sameRows := rowsWithId_save_of_ne attributes isMem apart
  simp only [detailsComparison, sameRows, Prod.mk.injEq, true_and]
  apply eventsOf_append_of_ne
  intro row rowMem same
  obtain ⟨isRow, isHere⟩ := mem_of_mem_rowsWithId rowMem
  rw [stored.transactions.eq_of_key_eq isRow isMem (same.trans isAbout)] at isHere
  exact apart isHere.symm

/-- The row that is found has the external id of the element. -/
theorem externalId_of_found {transactions : Transactions} {element : BatchElement}
    {existing : TransactionEntity}
    (found : getByExternalId limitOne transactions
      (transactionKey tenantId connectionId element.transaction) = some existing) :
    existing.key.externalId = element.transaction.externalTransactionId := by
  have isFound := (mem_of_getByExternalId found).2
  simp only [ProviderKey.isFoundBy, Bool.and_eq_true, decide_eq_true_eq] at isFound
  exact isFound.1.2

theorem onePlace_detailed :
    OnePlace detailsComparison
      (fun stored (element : BatchElement) => persistDetailedTransaction limitOne stored tenantId
        element.transaction element.securityId connectionId)
      (fun element => element.transaction.externalTransactionId)
      (detailedEffect limitOne tenantId connectionId) where
  frame := by
    intro stored next element outcome written other apart
    cases found : getByExternalId limitOne stored.transactions
        (transactionKey tenantId connectionId element.transaction) with
    | none =>
        rw [persistDetailedTransaction_of_absent found] at written
        cases written
        exact observe_of_absent apart _ _
    | some existing =>
        rw [persistDetailedTransaction_of_found found] at written
        dsimp only at written
        split at written
        · cases written
          rfl
        · split at written
          · cases written
          · split at written
            · cases written
            · cases written
              apply observe_of_found (mem_of_getByExternalId found).1 _ _ rfl
              rwa [externalId_of_found found]
  succeeds := by
    intro stored next element outcome written
    cases found : getByExternalId limitOne stored.transactions
        (transactionKey tenantId connectionId element.transaction) with
    | none =>
        rw [persistDetailedTransaction_of_absent found] at written
        cases written
        exact detailedEffect_of_absent found
    | some existing =>
        rw [persistDetailedTransaction_of_found found] at written
        rw [detailedEffect_of_found found]
        dsimp only at written ⊢
        split at written
        · next quiet =>
            cases written
            rw [if_pos quiet]
            rfl
        · next changed =>
            split at written
            · cases written
            · next accepted =>
                split at written
                · cases written
                · next fresh =>
                    cases written
                    rw [if_neg changed, if_neg accepted, if_neg fresh]
                    rfl
  fails := by
    intro stored element error failed
    cases found : getByExternalId limitOne stored.transactions
        (transactionKey tenantId connectionId element.transaction) with
    | none =>
        rw [persistDetailedTransaction_of_absent found] at failed
        cases failed
    | some existing =>
        rw [persistDetailedTransaction_of_found found] at failed
        rw [detailedEffect_of_found found]
        dsimp only at failed ⊢
        split at failed
        · cases failed
        · next changed =>
            rw [if_neg changed]
            split at failed
            · next rejected => rw [if_pos rejected]
            · next accepted =>
                rw [if_neg accepted]
                split at failed
                · next clashes => rw [if_pos clashes]
                · cases failed

/-! ## What the loop records -/

/-- A write that is not needed leaves the details, any other adds one event. -/
theorem persistDetailedTransaction_details {stored next : DetailedTransactions}
    {element : BatchElement} {outcome : Outcome}
    (written : persistDetailedTransaction limitOne stored tenantId element.transaction
      element.securityId connectionId = .ok (next, outcome)) :
    outcome.classification = .unchanged ∧ next.details = stored.details ∨
      outcome.classification ≠ .unchanged ∧
        next.details.events.length = stored.details.events.length + 1 := by
  cases found : getByExternalId limitOne stored.transactions
      (transactionKey tenantId connectionId element.transaction) with
  | none =>
      rw [persistDetailedTransaction_of_absent found] at written
      cases written
      right
      simp [Outcome.classification, recordCreate, addTransactionDetails, Details.addEvent]
  | some existing =>
      rw [persistDetailedTransaction_of_found found] at written
      dsimp only at written
      split at written
      · cases written
        exact .inl ⟨rfl, rfl⟩
      · split at written
        · cases written
        · split at written
          · cases written
          · cases written
            right
            simp [Outcome.classification, Details.addEvent]

/-- The loop adds one event for each element that it creates or changes. -/
theorem length_events_perRow (batch : List BatchElement) :
    ∀ {stored last : DetailedTransactions} {outcomes : List Outcome},
      persistDetailedPerRow limitOne stored tenantId connectionId batch = .ok (last, outcomes) →
      last.details.events.length = stored.details.events.length +
        outcomes.countP fun outcome => outcome.classification ≠ .unchanged := by
  induction batch with
  | nil =>
      intro stored last outcomes collected
      cases collected
      rfl
  | cons element rest ih =>
      intro stored last outcomes collected
      obtain ⟨next, outcome, others, written, collectedRest, rfl⟩ := collect_cons_ok.mp collected
      rw [ih collectedRest, List.countP_cons]
      cases persistDetailedTransaction_details written with
      | inl quiet => simp [quiet.1, quiet.2]
      | inr recorded =>
          simp only [ne_eq, recorded.1, recorded.2, not_false_eq_true, decide_true, if_true]
          omega

/-- Where the loop has nothing to write it leaves the details. -/
theorem details_perRow_of_unchanged (batch : List BatchElement) :
    ∀ {stored last : DetailedTransactions} {outcomes : List Outcome},
      persistDetailedPerRow limitOne stored tenantId connectionId batch = .ok (last, outcomes) →
      (∀ outcome ∈ outcomes, outcome.classification = .unchanged) →
      last.details = stored.details := by
  induction batch with
  | nil =>
      intro stored last outcomes collected _
      cases collected
      rfl
  | cons element rest ih =>
      intro stored last outcomes collected unchanged
      obtain ⟨next, outcome, others, written, collectedRest, rfl⟩ := collect_cons_ok.mp collected
      rw [List.forall_mem_cons] at unchanged
      rw [ih collectedRest unchanged.2]
      cases persistDetailedTransaction_details written with
      | inl quiet => exact quiet.2
      | inr recorded => exact absurd unchanged.1 recorded.1

/-! ## When there is nothing to record -/

variable (limitOne tenantId connectionId)

/-- `persist_transaction` finds a row and nothing to change in it. -/
def LeftAlonePerRow (transactions : Transactions) (element : BatchElement) : Prop :=
  ∃ found, getByExternalId limitOne transactions
      (transactionKey tenantId connectionId element.transaction) = some found ∧
    changedByRow element.transaction element.securityId found.attributes = []

/-- The statement for an element finds a row and nothing to update in it. -/
def LeftAloneByBatch (transactions : Transactions) (element : BatchElement × List Field) :
    Prop :=
  ∃ existing, findByKey transactions
      (transactionKey tenantId connectionId element.1.transaction) = some existing ∧
    updateFires transactionUpdateColumns
      (sentByBatch element.1.transaction element.1.securityId element.2)
      existing.attributes = false

/-- The event for a change of the row that is found is stored already. -/
def EventStored (stored : DetailedTransactions) (element : BatchElement) : Prop :=
  ∃ found, getByExternalId limitOne stored.transactions
      (transactionKey tenantId connectionId element.transaction) = some found ∧
    changedByRow element.transaction element.securityId found.attributes ≠ [] ∧
    stored.details.events.any (elementEvent tenantId element found).clashes = true

variable {limitOne tenantId connectionId}

theorem detailedEffect_eq_none_iff {stored : DetailedTransactions} {element : BatchElement} :
    detailedEffect limitOne tenantId connectionId element
        (detailsComparison.observe stored element.transaction.externalTransactionId) = none ↔
      RejectedPerRow limitOne tenantId connectionId stored.transactions element ∨
        EventStored limitOne tenantId connectionId stored element := by
  rw [RejectedPerRow, EventStored]
  cases found : getByExternalId limitOne stored.transactions
      (transactionKey tenantId connectionId element.transaction) with
  | none => simp [detailedEffect_of_absent found]
  | some existing =>
      rw [detailedEffect_of_found found]
      dsimp only
      by_cases quiet :
          changedByRow element.transaction element.securityId existing.attributes = []
      · simp [quiet, anyUnserializable]
      · rw [if_neg quiet]
        split
        · next rejected => simp [rejected]
        · next accepted =>
            split
            · next clashes => exact iff_of_true rfl (.inr ⟨existing, rfl, quiet, clashes⟩)
            · next fresh =>
                apply iff_of_false (fun fails => Option.some_ne_none _ fails)
                rintro (⟨other, same, rejected⟩ | ⟨other, same, -, clashes⟩)
                · cases same
                  exact accepted rejected
                · cases same
                  exact fresh clashes

theorem detailedEffect_unchanged_iff {stored : DetailedTransactions} {element : BatchElement} :
    (detailedEffect limitOne tenantId connectionId element
        (detailsComparison.observe stored element.transaction.externalTransactionId)).map
          Prod.snd = some .unchanged ↔
      LeftAlonePerRow limitOne tenantId connectionId stored.transactions element := by
  rw [LeftAlonePerRow]
  cases found : getByExternalId limitOne stored.transactions
      (transactionKey tenantId connectionId element.transaction) with
  | none => simp [detailedEffect_of_absent found]
  | some existing =>
      rw [detailedEffect_of_found found]
      dsimp only
      by_cases quiet :
          changedByRow element.transaction element.securityId existing.attributes = []
      · simp [quiet]
      · rw [if_neg quiet]
        split
        · simp [quiet]
        · split
          · simp [quiet]
          · simp [quiet]

theorem bulkEffect_unchanged_iff {transactions : Transactions}
    {element : BatchElement × List Field} :
    ((bulkWrite tenantId connectionId element (rowsWithId transactions
        (elementKey tenantId connectionId element).externalId)).effect
          (rowsWithId transactions (elementKey tenantId connectionId element).externalId)
          (elementKey tenantId connectionId element)).map Prod.snd = some .unchanged ↔
      LeftAloneByBatch tenantId connectionId transactions element := by
  have whole := findByKey_eq transactions (elementKey tenantId connectionId element)
  rw [LeftAloneByBatch]
  change _ ↔ ∃ existing, findByKey transactions (elementKey tenantId connectionId element) = _ ∧ _
  rw [whole]
  cases found : (rowsWithId transactions
      (elementKey tenantId connectionId element).externalId).find? fun entity =>
        entity.key = elementKey tenantId connectionId element with
  | none =>
      rw [elementKey] at found ⊢
      rw [bulkWrite, found]
      simp [RowWrite.effect]
  | some existing =>
      rw [elementKey] at found ⊢
      rw [bulkWrite, found]
      dsimp only
      split
      · next fires => simp [RowWrite.effect, fires]
      · next unfired => simp [RowWrite.effect, unfired]

/-! ## The two paths -/

theorem persistDetailedPerRow_isOk_iff {stored : DetailedTransactions} {batch : List BatchElement}
    (distinct : DistinctIds batch) :
    (∃ result, persistDetailedPerRow limitOne stored tenantId connectionId batch = .ok result) ↔
      ∀ element ∈ batch,
        ¬ (RejectedPerRow limitOne tenantId connectionId stored.transactions element ∨
          EventStored limitOne tenantId connectionId stored element) := by
  rw [persistDetailedPerRow, onePlace_detailed.collect_isOk_iff batch distinct]
  simp only [ne_eq, detailedEffect_eq_none_iff]

theorem perRow_unchanged_iff {stored last : DetailedTransactions} {batch : List BatchElement}
    {outcomes : List Outcome} (distinct : DistinctIds batch)
    (collected : persistDetailedPerRow limitOne stored tenantId connectionId batch =
      .ok (last, outcomes)) :
    (∀ outcome ∈ outcomes, outcome.classification = .unchanged) ↔
      ∀ element ∈ batch,
        LeftAlonePerRow limitOne tenantId connectionId stored.transactions element :=
  (onePlace_detailed.collect_kind_iff distinct collected .unchanged).trans
    (forall₂_congr fun _ _ => detailedEffect_unchanged_iff)

theorem persistDetailedBatch_eq_ok {stored last : DetailedTransactions}
    {batch : List BatchElement} {outcomes : List Outcome} :
    persistDetailedBatch stored tenantId connectionId batch = .ok (last, outcomes) ↔
      ∃ transactions, persistTransactionsBatch stored.transactions tenantId connectionId batch =
          .ok (transactions, outcomes) ∧
        last = { stored with transactions } := by
  rw [persistDetailedBatch, bind_eq_ok]
  constructor
  · rintro ⟨⟨transactions, others⟩, written, same⟩
    cases same
    exact ⟨transactions, written, rfl⟩
  · rintro ⟨transactions, written, rfl⟩
    exact ⟨_, written, rfl⟩

theorem persistDetailedBatch_isOk_iff {stored : DetailedTransactions} {batch : List BatchElement}
    (distinct : DistinctIds batch) :
    (∃ result, persistDetailedBatch stored tenantId connectionId batch = .ok result) ↔
      EvenChunks batch := by
  constructor
  · rintro ⟨⟨last, outcomes⟩, written⟩
    obtain ⟨transactions, written, -⟩ := persistDetailedBatch_eq_ok.mp written
    by_contra uneven
    obtain ⟨error, rejected⟩ :=
      persistTransactionsBatch_uneven tenantId connectionId uneven stored.transactions
    rw [rejected] at written
    cases written
  · intro even
    have onePlace := onePlace_bulk tenantId connectionId
    obtain ⟨⟨transactions, outcomes⟩, collected⟩ :=
      (onePlace.collect_isOk_iff _ (distinct_withNames tenantId connectionId distinct)).mpr
        fun element _ => bulkEffect_ne_none tenantId connectionId element _ _
    rw [← persistTransactionsBatch_eq tenantId connectionId distinct even] at collected
    exact ⟨_, persistDetailedBatch_eq_ok.mpr ⟨transactions, collected, rfl⟩⟩

theorem bulk_unchanged_iff {transactions last : Transactions} {batch : List BatchElement}
    {outcomes : List Outcome} (distinct : DistinctIds batch) (even : EvenChunks batch)
    (written : persistTransactionsBatch transactions tenantId connectionId batch =
      .ok (last, outcomes)) :
    (∀ outcome ∈ outcomes, outcome.classification = .unchanged) ↔
      ∀ element ∈ withNames batch,
        LeftAloneByBatch tenantId connectionId transactions element := by
  rw [persistTransactionsBatch_eq tenantId connectionId distinct even] at written
  exact ((onePlace_bulk tenantId connectionId).collect_kind_iff
    (distinct_withNames tenantId connectionId distinct) written .unchanged).trans
      (forall₂_congr fun _ _ => bulkEffect_unchanged_iff)

/-! ## Agreement -/

/-- Details that are left have recorded an element exactly if nothing was done
with it. -/
theorem recorded_self_iff {details : Details} {element : BatchElement} {outcome : Outcome} :
    Recorded tenantId connectionId details details element outcome ↔
      outcome.classification = .unchanged := by
  cases outcome with
  | created id =>
      apply iff_of_false _ Classification.noConfusion
      intro same
      have sameEvents := congrArg (fun details => details.events.length) same
      simp [recordCreate, addTransactionDetails, Details.addEvent] at sameEvents
  | updated id =>
      apply iff_of_false _ Classification.noConfusion
      rintro ⟨event, same⟩
      have sameEvents := congrArg (fun details => details.events.length) same
      simp [Details.addEvent] at sameEvents
  | unchanged id => exact iff_of_true trivial rfl

theorem forall_recorded_self_iff {details : Details} (batch : List BatchElement) :
    ∀ {outcomes : List Outcome},
      List.Forall₂ (Recorded tenantId connectionId details details) batch outcomes ↔
        outcomes.length = batch.length ∧
          ∀ outcome ∈ outcomes, outcome.classification = .unchanged := by
  induction batch with
  | nil =>
      intro outcomes
      cases outcomes with
      | nil => simp
      | cons outcome rest => simp
  | cons element batch ih =>
      intro outcomes
      cases outcomes with
      | nil => simp
      | cons outcome rest =>
          rw [List.forall₂_cons, recorded_self_iff, ih]
          simp only [List.length_cons, Nat.add_right_cancel_iff, List.forall_mem_cons]
          exact and_left_comm

/-- The outcomes of a batch are as many as its elements. -/
theorem length_outcomes {transactions last : Transactions} {batch : List BatchElement}
    {outcomes : List Outcome} (distinct : DistinctIds batch) (even : EvenChunks batch)
    (written : persistTransactionsBatch transactions tenantId connectionId batch =
      .ok (last, outcomes)) :
    outcomes.length = batch.length := by
  rw [persistTransactionsBatch_eq tenantId connectionId distinct even] at written
  have kinds := (onePlace_bulk tenantId connectionId).collect_kinds _
    (distinct_withNames tenantId connectionId distinct) written
  have sameLength := congrArg List.length kinds
  rw [List.length_map, List.length_map, List.length_map] at sameLength
  rw [sameLength, ← List.length_map (f := Prod.fst), map_fst_withNames]

/-- Where both paths succeed, the details are kept exactly if both leave every
element alone. -/
theorem keptDetails_iff {stored perRowLast bulkLast : DetailedTransactions}
    {batch : List BatchElement} {perRowOutcomes bulkOutcomes : List Outcome}
    (distinct : DistinctIds batch) (even : EvenChunks batch)
    (perRow : persistDetailedPerRow limitOne stored tenantId connectionId batch =
      .ok (perRowLast, perRowOutcomes))
    (bulk : persistDetailedBatch stored tenantId connectionId batch =
      .ok (bulkLast, bulkOutcomes)) :
    KeptDetails tenantId connectionId stored batch (perRowLast, perRowOutcomes)
        (bulkLast, bulkOutcomes) ↔
      (∀ element ∈ batch,
          LeftAlonePerRow limitOne tenantId connectionId stored.transactions element) ∧
        ∀ element ∈ withNames batch,
          LeftAloneByBatch tenantId connectionId stored.transactions element := by
  obtain ⟨transactions, written, rfl⟩ := persistDetailedBatch_eq_ok.mp bulk
  have recordedIff : List.Forall₂ (Recorded tenantId connectionId stored.details stored.details)
      batch bulkOutcomes ↔ _ := forall_recorded_self_iff batch
  rw [length_outcomes distinct even written,
    bulk_unchanged_iff distinct even written] at recordedIff
  rw [← perRow_unchanged_iff distinct perRow]
  constructor
  · intro kept
    obtain ⟨rename, -, same⟩ := kept.same
    have sameEvents := same.events.length_eq
    have added := length_events_perRow batch perRow
    have quiet : (perRowOutcomes.countP fun outcome =>
        outcome.classification ≠ .unchanged) = 0 := by
      simp only [Details.rename, List.length_map] at sameEvents
      omega
    constructor
    · simpa [List.countP_eq_zero] using quiet
    · exact (recordedIff.mp kept.recorded).2
  · intro alone
    have sameDetails := details_perRow_of_unchanged batch perRow alone.1
    exact {
      same := by
        refine ⟨Equiv.refl _, fun _ _ => rfl, ?_⟩
        rw [sameDetails]
        constructor <;> simp [Details.rename]
      recorded := recordedIff.mpr ⟨rfl, alone.2⟩
      repeated := by
        rintro ⟨last, outcomes⟩ again
        obtain ⟨transactions, -, rfl⟩ := persistDetailedBatch_eq_ok.mp again
        rfl }

variable (limitOne tenantId connectionId)

/-- The bulk upsert of a batch with different external ids keeps the details that
the loop over its elements stores exactly if each chunk is even and neither path
writes a transaction, or if both paths reject the batch. -/
theorem batch_keepsDetails_iff (stored : DetailedTransactions) {batch : List BatchElement}
    (distinct : DistinctIds batch) :
    KeepsDetails limitOne tenantId connectionId stored batch ↔
      (¬ EvenChunks batch ∧ ∃ element ∈ batch,
        RejectedPerRow limitOne tenantId connectionId stored.transactions element ∨
          EventStored limitOne tenantId connectionId stored element) ∨
      (EvenChunks batch ∧
        (∀ element ∈ batch,
          LeftAlonePerRow limitOne tenantId connectionId stored.transactions element) ∧
        ∀ element ∈ withNames batch,
          LeftAloneByBatch tenantId connectionId stored.transactions element) := by
  have perRowOk : (∃ result, persistDetailedPerRow limitOne stored tenantId connectionId batch =
      .ok result) ↔ _ := persistDetailedPerRow_isOk_iff distinct
  have bulkOk : (∃ result, persistDetailedBatch stored tenantId connectionId batch =
      .ok result) ↔ _ := persistDetailedBatch_isOk_iff distinct
  rw [KeepsDetails]
  cases perRow : persistDetailedPerRow limitOne stored tenantId connectionId batch with
  | error perRowError =>
      have rejected : ∃ element ∈ batch,
          RejectedPerRow limitOne tenantId connectionId stored.transactions element ∨
            EventStored limitOne tenantId connectionId stored element := by
        have fails := perRowOk.not.mp (by simp [perRow])
        push Not at fails
        exact fails
      have notAlone : ¬ ∀ element ∈ batch,
          LeftAlonePerRow limitOne tenantId connectionId stored.transactions element := by
        intro alone
        obtain ⟨element, elementMem, fails⟩ := rejected
        have quiet := detailedEffect_unchanged_iff.mpr (alone element elementMem)
        rw [detailedEffect_eq_none_iff.mpr fails] at quiet
        cases quiet
      cases bulk : persistDetailedBatch stored tenantId connectionId batch with
      | error bulkError =>
          have uneven : ¬ EvenChunks batch := bulkOk.not.mp (by simp [bulk])
          exact iff_of_true trivial (.inl ⟨uneven, rejected⟩)
      | ok bulkResult =>
          have even : EvenChunks batch := bulkOk.mp ⟨_, bulk⟩
          simp [even, notAlone]
  | ok perRowResult =>
      have notRejected : ¬ ∃ element ∈ batch,
          RejectedPerRow limitOne tenantId connectionId stored.transactions element ∨
            EventStored limitOne tenantId connectionId stored element := by
        rintro ⟨element, elementMem, fails⟩
        exact perRowOk.mp ⟨_, perRow⟩ element elementMem fails
      cases bulk : persistDetailedBatch stored tenantId connectionId batch with
      | error bulkError =>
          have uneven : ¬ EvenChunks batch := bulkOk.not.mp (by simp [bulk])
          simp only [uneven, notRejected, and_false, false_and, or_false]
      | ok bulkResult =>
          have even : EvenChunks batch := bulkOk.mp ⟨_, bulk⟩
          have kept := keptDetails_iff distinct even perRow bulk
          simpa only [even, not_true_eq_false, false_and, true_and, false_or] using kept

end Element

/-! ## A payment that is synced again -/

/-- A payment with a split. -/
def groceryPayment : BatchElement where
  transaction :=
    { providerKey := "bunq", externalTransactionId := "1", amount := -12
      occurredAt := ⟨0, 0⟩, transactionType := "payment", status := "booked"
      splits := [{ amount := -5, currencyCode := "EUR" }] }
  securityId := none

/-- The payment as it was created without its details. -/
def groceryTransactions : DetailedTransactions where
  transactions := (create .empty (transactionKey 0 none groceryPayment.transaction)
    (transactionRow groceryPayment.transaction none) {}).1
  details := {}

theorem chunkNames_groceryPayment : chunkNames [groceryPayment] = [] := by decide

/-- Syncing a stored payment again leaves its details on both paths. -/
theorem batch_keepsDetails_of_payment :
    KeepsDetails .first 0 none groceryTransactions [groceryPayment] := by
  apply (batch_keepsDetails_iff .first 0 none groceryTransactions (List.pairwise_singleton _ _)).mpr
  right
  refine ⟨by decide +kernel, ?_, ?_⟩
  · intro element elementMem
    have isOnly : element = groceryPayment := by simpa using elementMem
    subst isOnly
    exact ⟨_, rfl, by decide +kernel⟩
  · intro element elementMem
    have isOnly : element = (groceryPayment, []) := by
      simpa [withNames, chunks, chunkSize, chunkNames_groceryPayment] using elementMem
    subst isOnly
    exact ⟨_, rfl, by decide +kernel⟩

theorem KeepsDetails.length_events {limitOne : LimitOne} {tenantId : Uuid}
    {connectionId : Option Uuid} {stored : DetailedTransactions} {batch : List BatchElement}
    (kept : KeepsDetails limitOne tenantId connectionId stored batch) :
    (persistDetailedPerRow limitOne stored tenantId connectionId batch).toOption.map
        (fun result => result.1.details.events.length) =
      (persistDetailedBatch stored tenantId connectionId batch).toOption.map
        fun result => result.1.details.events.length := by
  rw [KeepsDetails] at kept
  split at kept
  · next perRow bulk isPerRow isBulk =>
      obtain ⟨rename, -, same⟩ := kept.same
      rw [isPerRow, isBulk]
      have sameLength := same.events.length_eq
      rw [Details.rename, List.length_map] at sameLength
      exact congrArg some sameLength
  · next isPerRow isBulk =>
      rw [isPerRow, isBulk]
      rfl
  · contradiction

/-- The loop records that it creates a payment, the bulk upsert does not. -/
theorem batch_drops_event_of_new_payment :
    ¬ ∀ limitOne tenantId connectionId stored batch, DistinctIds batch →
      KeepsDetails limitOne tenantId connectionId stored batch := by
  intro always
  have kept := always .first 0 none ⟨.empty, {}⟩ [groceryPayment] (List.pairwise_singleton _ _)
  have sameEvents := kept.length_events
  revert sameEvents
  decide +kernel

end FinanceSync.Persistence
