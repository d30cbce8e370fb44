import FinanceSync.Persistence.BulkComparison
import FinanceSync.Persistence.BulkStatements

/-!
# The bulk upsert and the loop over the rows

On PostgreSQL a batch of transactions goes through `INSERT ... ON CONFLICT`
statements, on other databases through `persist_transaction` for each element.
Both touch only rows with the external id of an element, so for different
external ids they agree exactly if they do so element by element.
-/

namespace FinanceSync.Persistence

open Lib

/-! ## The two writes of an element -/

section Element

variable (limitOne : LimitOne) (tenantId : Uuid) (connectionId : Option Uuid)

/-- What `persist_transaction` does. -/
def perRowWrite (element : BatchElement) (rows : List TransactionEntity) : RowWrite :=
  match limitOne.pick (rows.filter fun entity =>
      entity.key.isFoundBy (transactionKey tenantId connectionId element.transaction)) with
  | some existing =>
      if changedByRow element.transaction element.securityId existing.attributes = [] then
        .keep existing
      else if anyUnserializable
          (changedByRow element.transaction element.securityId existing.attributes)
          (incomingTransaction element.transaction element.securityId) then
        .reject .notSerializable
      else
        .save existing (setFields
          (changedByRow element.transaction element.securityId existing.attributes)
          (incomingTransaction element.transaction element.securityId) existing.attributes)
  | none => .insert (transactionRow element.transaction element.securityId)

/-- What a row of a statement does. -/
def bulkWrite (element : BatchElement × List Field) (rows : List TransactionEntity) : RowWrite :=
  match rows.find? fun entity =>
      entity.key = transactionKey tenantId connectionId element.1.transaction with
  | none => .insert (sentByBatch element.1.transaction element.1.securityId element.2)
  | some existing =>
      if updateFires transactionUpdateColumns
          (sentByBatch element.1.transaction element.1.securityId element.2)
          existing.attributes then
        .save existing (updateSet transactionUpdateColumns
          (sentByBatch element.1.transaction element.1.securityId element.2)
          existing.attributes)
      else .keep existing

theorem getByExternalId_eq (transactions : Transactions) (key : ProviderKey) :
    getByExternalId limitOne transactions key =
      limitOne.pick ((rowsWithId transactions key.externalId).filter fun entity =>
        entity.key.isFoundBy key) := by
  rw [getByExternalId, rowsWithId, List.filter_filter]
  congr 1
  apply List.filter_congr
  intro entity _
  simp only [ProviderKey.isFoundBy]
  grind

theorem findByKey_eq (transactions : Transactions) (key : ProviderKey) :
    findByKey transactions key =
      (rowsWithId transactions key.externalId).find? fun entity => entity.key = key := by
  rw [find?_rowsWithId, if_pos rfl]

variable {limitOne tenantId connectionId}

theorem persistTransaction_eq (transactions : Transactions) (element : BatchElement) :
    persistTransaction limitOne transactions tenantId element.transaction element.securityId
        connectionId =
      (perRowWrite limitOne tenantId connectionId element (rowsWithId transactions
        (transactionKey tenantId connectionId element.transaction).externalId)).apply
          transactions (transactionKey tenantId connectionId element.transaction) := by
  have lookup := getByExternalId_eq limitOne transactions
    (transactionKey tenantId connectionId element.transaction)
  cases found : getByExternalId limitOne transactions
      (transactionKey tenantId connectionId element.transaction) with
  | none =>
      rw [found] at lookup
      rw [persistTransaction, found, perRowWrite, ← lookup]
      rfl
  | some existing =>
      rw [found] at lookup
      rw [persistTransaction, found, perRowWrite, ← lookup]
      dsimp only
      rw [refreshTransaction]
      split
      · rfl
      · split
        · rfl
        · rfl

theorem upsertEach_eq (transactions : Transactions) (element : BatchElement × List Field) :
    upsertEach transactionUpsert transactions (sentRow tenantId connectionId element) =
      (bulkWrite tenantId connectionId element (rowsWithId transactions
        (transactionKey tenantId connectionId element.1.transaction).externalId)).apply
          transactions (transactionKey tenantId connectionId element.1.transaction) := by
  change upsertRow transactionUpsert transactions []
    (transactionKey tenantId connectionId element.1.transaction)
    (sentByBatch element.1.transaction element.1.securityId element.2) = _
  have lookup := findByKey_eq transactions
    (transactionKey tenantId connectionId element.1.transaction)
  cases found : findByKey transactions
      (transactionKey tenantId connectionId element.1.transaction) with
  | none =>
      rw [found] at lookup
      rw [upsertRow, found, bulkWrite, ← lookup]
      rfl
  | some existing =>
      rw [found] at lookup
      rw [upsertRow, found, bulkWrite, ← lookup]
      have sameColumns : transactionUpsert.updateColumns = transactionUpdateColumns := rfl
      dsimp only
      rw [if_neg List.not_mem_nil, sameColumns]
      split
      · rfl
      · rfl

variable (limitOne tenantId connectionId)

/-- The per-row path saves the row that the lookup found. -/
theorem perRowWrite_savesOwn (element : BatchElement) (rows : List TransactionEntity)
    (existing : TransactionEntity) (attributes : Attributes)
    (saves : perRowWrite limitOne tenantId connectionId element rows =
      .save existing attributes) : existing ∈ rows := by
  rw [perRowWrite] at saves
  split at saves
  · next found lookup =>
      split at saves
      · cases saves
      · split at saves
        · cases saves
        · cases saves
          exact (List.mem_filter.mp (limitOne.mem lookup)).1
  · cases saves

theorem bulkWrite_savesOwn (element : BatchElement × List Field)
    (rows : List TransactionEntity) (existing : TransactionEntity) (attributes : Attributes)
    (saves : bulkWrite tenantId connectionId element rows = .save existing attributes) :
    existing ∈ rows := by
  rw [bulkWrite] at saves
  split at saves
  · cases saves
  · next found lookup =>
      split at saves
      · cases saves
        exact List.mem_of_find?_eq_some lookup
      · cases saves

/-! ## Agreement on one element -/

/-- The per-row path would flush a value into a JSON column that has no JSON
form. -/
def RejectedPerRow (transactions : Transactions) (element : BatchElement) : Prop :=
  ∃ found, getByExternalId limitOne transactions
      (transactionKey tenantId connectionId element.transaction) = some found ∧
    anyUnserializable (changedByRow element.transaction element.securityId found.attributes)
      (incomingTransaction element.transaction element.securityId) = true

/-- When both paths do the same with an element.  The per-row path looks a row up
without the connection if none is given; the statement has the whole key. -/
def ElementAgrees (transactions : Transactions) (element : BatchElement × List Field) : Prop :=
  match getByExternalId limitOne transactions
      (transactionKey tenantId connectionId element.1.transaction),
    findByKey transactions (transactionKey tenantId connectionId element.1.transaction) with
  | none, _ => ∀ field, ¬ Named element.2 field →
      transactionRow element.1.transaction element.1.securityId field = none
  | some _, none => False
  | some found, some existing =>
      if found.id = existing.id then
        RowAgrees element.1.transaction element.1.securityId element.2 existing.attributes
      else
        changedByRow element.1.transaction element.1.securityId found.attributes = [] ∧
          updateFires transactionUpdateColumns
            (sentByBatch element.1.transaction element.1.securityId element.2)
            existing.attributes = false

theorem mutableColumns_saved_eq_iff (existing : TransactionEntity) {first second : Attributes} :
    mutableColumns (saved existing first) = mutableColumns (saved existing second) ↔
      ∀ column ∈ transactionUpdateColumns,
        (first column).map PyValue.stored = (second column).map PyValue.stored := by
  have sameRevision : (saved existing first).rest.revision =
      (saved existing second).rest.revision := rfl
  rw [mutableColumns, mutableColumns, Prod.mk.injEq, and_iff_left sameRevision,
    List.map_inj_left]
  rfl

/-- The columns of rows of which one was saved. -/
theorem columnsByKey_saved {rows : List TransactionEntity} {existing : TransactionEntity}
    (unique : ∀ entity ∈ rows, entity.id = existing.id → entity = existing)
    (attributes : Attributes) (key : ProviderKey) :
    columnsByKey (rows.map fun entity =>
        if entity.id = existing.id then saved existing attributes else entity) key =
      (rows.find? fun entity => entity.key = key).map fun entity =>
        mutableColumns (if entity.id = existing.id then saved existing attributes else entity) := by
  rw [columnsByKey, List.find?_map, Option.map_map]
  congr 1
  apply List.find?_congr
  intro entity entityMem
  rw [Function.comp_apply]
  split
  · next same =>
      rw [unique entity entityMem same]
      rfl
  · rfl

/-- Two new rows have the same columns. -/
theorem columnsByKey_append_eq_iff {rows : List TransactionEntity} {key : ProviderKey}
    (absent : (rows.find? fun entity => entity.key = key) = none) {first second : Attributes} :
    columnsByKey (rows ++ [⟨0, key, first, {}⟩]) =
        columnsByKey (rows ++ [⟨0, key, second, {}⟩]) ↔
      ∀ column ∈ transactionUpdateColumns,
        (first column).map PyValue.stored = (second column).map PyValue.stored := by
  have atKey : ∀ attributes : Attributes,
      columnsByKey (rows ++ [⟨0, key, attributes, {}⟩]) key =
        some (transactionUpdateColumns.map fun column =>
          (attributes column).map PyValue.stored, 1) := by
    intro attributes
    rw [columnsByKey, List.find?_append, absent]
    simp [mutableColumns]
  constructor
  · intro same
    have sameHere := congrFun same key
    rw [atKey, atKey, Option.some_inj, Prod.mk.injEq, and_iff_left rfl,
      List.map_inj_left] at sameHere
    exact sameHere
  · intro sameColumns
    funext wanted
    by_cases here : key = wanted
    · subst here
      rw [atKey, atKey, List.map_congr_left sameColumns]
    · rw [columnsByKey, columnsByKey, List.find?_append, List.find?_append]
      simp [here]

/-- Both paths store the same new row exactly if no value is dropped. -/
theorem sameInsert_iff {transaction : CanonicalTransactionData} {securityId : Option Uuid}
    {named : List Field} :
    (∀ column ∈ transactionUpdateColumns,
        (transactionRow transaction securityId column).map PyValue.stored =
          (sentByBatch transaction securityId named column).map PyValue.stored) ↔
      ∀ field, ¬ Named named field → transactionRow transaction securityId field = none := by
  constructor
  · intro same field unnamed
    have sameHere := same field
      (extensionFields_subset (Classical.not_imp.mp unnamed).1)
    rw [sentByBatch_of_not_named unnamed, Option.map_none, Option.map_eq_none_iff] at sameHere
    exact sameHere
  · intro dropped column _
    by_cases isNamed : Named named column
    · rw [sentByBatch_of_named isNamed]
    · rw [sentByBatch_of_not_named isNamed, dropped column isNamed]

/-- Both paths save or keep one row alike exactly if they update it alike. -/
theorem sameEffect_iff_sameUpdate {rows : List TransactionEntity} {existing : TransactionEntity}
    {transaction : CanonicalTransactionData} {securityId : Option Uuid} {named : List Field}
    {key : ProviderKey} {perRow bulk : RowWrite}
    (unique : ∀ entity ∈ rows, entity.id = existing.id → entity = existing)
    (here : (rows.find? fun entity => entity.key = key) = some existing)
    (perRowIs : perRow =
      if changedByRow transaction securityId existing.attributes = [] then .keep existing
      else .save existing (setFields (changedByRow transaction securityId existing.attributes)
        (incomingTransaction transaction securityId) existing.attributes))
    (bulkIs : bulk =
      if updateFires transactionUpdateColumns (sentByBatch transaction securityId named)
          existing.attributes then
        .save existing (updateSet transactionUpdateColumns
          (sentByBatch transaction securityId named) existing.attributes)
      else .keep existing) :
    perRow.effect rows key = bulk.effect rows key ↔
      SameUpdate transaction securityId named existing.attributes := by
  rw [SameUpdate]
  by_cases quiet : changedByRow transaction securityId existing.attributes = []
  · rw [perRowIs, if_pos quiet, bulkIs]
    split
    · next fires => simp [RowWrite.effect, quiet, fires]
    · next unfired => simp [quiet, Bool.not_eq_true _ ▸ unfired]
  · rw [perRowIs, if_neg quiet, bulkIs]
    split
    · next fires =>
        rw [RowWrite.effect, RowWrite.effect, Option.some_inj, Prod.mk.injEq,
          and_iff_left rfl]
        simp only [quiet, fires, Bool.true_eq_false, ne_eq, not_false_eq_true, true_and,
          forall_const]
        rw [← mutableColumns_saved_eq_iff existing]
        constructor
        · intro same
          have sameHere := congrFun same key
          rw [columnsByKey_saved unique, columnsByKey_saved unique, here, Option.map_some,
            Option.map_some, if_pos rfl, if_pos rfl, Option.some_inj] at sameHere
          exact sameHere
        · intro sameColumns
          funext wanted
          rw [columnsByKey_saved unique, columnsByKey_saved unique]
          congr 1
          funext entity
          split
          · exact sameColumns
          · rfl
    · next unfired => simp [RowWrite.effect, quiet, Bool.not_eq_true _ ▸ unfired]

theorem isFoundBy_self (key : ProviderKey) : key.isFoundBy key = true := by
  simp [ProviderKey.isFoundBy]

/-- Where the lookup of the per-row path finds nothing, neither does the
statement. -/
theorem find?_of_not_found {rows : List TransactionEntity} {key : ProviderKey}
    (absent : limitOne.pick (rows.filter fun entity => entity.key.isFoundBy key) = none) :
    (rows.find? fun entity => entity.key = key) = none := by
  rw [LimitOne.pick_eq_none_iff, List.filter_eq_nil_iff] at absent
  rw [List.find?_eq_none]
  intro entity entityMem isHere
  apply absent entity entityMem
  rw [of_decide_eq_true isHere]
  exact isFoundBy_self key

/-- If the lookup finds another row than the statement does, then both have to
leave their row alone. -/
theorem sameEffect_of_other_row {rows : List TransactionEntity} {found existing : TransactionEntity}
    {transaction : CanonicalTransactionData} {securityId : Option Uuid} {named : List Field}
    {key : ProviderKey} {perRow bulk : RowWrite}
    (uniqueFound : ∀ entity ∈ rows, entity.id = found.id → entity = found)
    (uniqueExisting : ∀ entity ∈ rows, entity.id = existing.id → entity = existing)
    (other : found.id ≠ existing.id)
    (here : (rows.find? fun entity => entity.key = key) = some existing)
    (perRowIs : perRow =
      if changedByRow transaction securityId found.attributes = [] then .keep found
      else .save found (setFields (changedByRow transaction securityId found.attributes)
        (incomingTransaction transaction securityId) found.attributes))
    (bulkIs : bulk =
      if updateFires transactionUpdateColumns (sentByBatch transaction securityId named)
          existing.attributes then
        .save existing (updateSet transactionUpdateColumns
          (sentByBatch transaction securityId named) existing.attributes)
      else .keep existing) :
    perRow.effect rows key = bulk.effect rows key ↔
      changedByRow transaction securityId found.attributes = [] ∧
        updateFires transactionUpdateColumns (sentByBatch transaction securityId named)
          existing.attributes = false := by
  by_cases quiet : changedByRow transaction securityId found.attributes = []
  · rw [perRowIs, if_pos quiet, bulkIs]
    split
    · next fires => simp [RowWrite.effect, fires]
    · next unfired => simp [RowWrite.effect, quiet, Bool.not_eq_true _ ▸ unfired]
  · rw [perRowIs, if_neg quiet, bulkIs]
    apply iff_of_false ?_ fun both => quiet both.1
    split
    · next fires =>
        -- The statement bumps the revision of its row, the loop does not.
        intro same
        rw [RowWrite.effect, RowWrite.effect, Option.some_inj, Prod.mk.injEq] at same
        have sameHere := congrFun same.1 key
        rw [columnsByKey_saved uniqueFound, columnsByKey_saved uniqueExisting, here,
          Option.map_some, Option.map_some, if_neg other.symm, if_pos rfl,
          Option.some_inj] at sameHere
        have sameRevision : existing.rest.revision = existing.rest.revision + 1 :=
          congrArg Prod.snd sameHere
        omega
    · next unfired => simp [RowWrite.effect]

/-- An element has the same effect on both paths exactly if it agrees, where the
per-row path does not reject it. -/
theorem sameEffect_iff (transactions : Transactions) (element : BatchElement × List Field)
    {rows : List TransactionEntity}
    (isRows : rowsWithId transactions
      (transactionKey tenantId connectionId element.1.transaction).externalId = rows) :
    ((perRowWrite limitOne tenantId connectionId element.1 rows).effect rows
          (transactionKey tenantId connectionId element.1.transaction) ≠ none ∧
        (perRowWrite limitOne tenantId connectionId element.1 rows).effect rows
            (transactionKey tenantId connectionId element.1.transaction) =
          (bulkWrite tenantId connectionId element rows).effect rows
            (transactionKey tenantId connectionId element.1.transaction)) ↔
      ¬ RejectedPerRow limitOne tenantId connectionId transactions element.1 ∧
        ElementAgrees limitOne tenantId connectionId transactions element := by
  obtain ⟨element, named⟩ := element
  dsimp only at isRows ⊢
  have lookup := getByExternalId_eq limitOne transactions
    (transactionKey tenantId connectionId element.transaction)
  have whole := findByKey_eq transactions (transactionKey tenantId connectionId element.transaction)
  rw [isRows] at lookup whole
  have unique : ∀ stored ∈ rows, ∀ entity ∈ rows, entity.id = stored.id → entity = stored := by
    intro stored storedMem entity entityMem sameId
    rw [← isRows] at storedMem entityMem
    exact transactions.eq_of_key_eq (mem_of_mem_rowsWithId entityMem).1
      (mem_of_mem_rowsWithId storedMem).1 sameId
  rw [RejectedPerRow, ElementAgrees]
  dsimp only
  rw [whole]
  cases found : getByExternalId limitOne transactions
      (transactionKey tenantId connectionId element.transaction) with
  | none =>
      rw [found] at lookup
      have absent := find?_of_not_found limitOne lookup.symm
      rw [perRowWrite, ← lookup, bulkWrite, absent]
      simp only [RowWrite.effect, Option.some_inj, Prod.mk.injEq, and_true, reduceCtorEq,
        ne_eq, not_false_eq_true, true_and, false_and, exists_false]
      rw [columnsByKey_append_eq_iff absent, sameInsert_iff]
  | some row =>
      rw [found] at lookup
      have rowMem : row ∈ rows := (List.mem_filter.mp (limitOne.mem lookup.symm)).1
      rw [perRowWrite, ← lookup]
      dsimp only
      by_cases rejected : anyUnserializable
          (changedByRow element.transaction element.securityId row.attributes)
          (incomingTransaction element.transaction element.securityId) = true
      · have changed : changedByRow element.transaction element.securityId row.attributes ≠ [] := by
          intro same
          rw [same] at rejected
          cases rejected
        rw [if_neg changed, if_pos rejected]
        apply iff_of_false
        · intro both
          exact both.1 rfl
        · intro both
          exact both.1 ⟨row, rfl, rejected⟩
      · rw [if_neg rejected]
        have accepted : ¬ ∃ found, some row = some found ∧ anyUnserializable
            (changedByRow element.transaction element.securityId found.attributes)
            (incomingTransaction element.transaction element.securityId) = true := by
          rintro ⟨other, same, again⟩
          cases same
          exact rejected again
        rw [and_iff_right accepted]
        cases there : rows.find? fun entity =>
            entity.key = transactionKey tenantId connectionId element.transaction with
        | none =>
            rw [bulkWrite, there]
            split
            · simp [RowWrite.effect]
            · simp [RowWrite.effect]
        | some existing =>
            have existingMem : existing ∈ rows := List.mem_of_find?_eq_some there
            rw [bulkWrite, there, and_iff_right]
            · dsimp only
              by_cases sameId : row.id = existing.id
              · have sameRow : row = existing := unique existing existingMem row rowMem sameId
                subst sameRow
                rw [if_pos rfl, ← sameUpdate_iff]
                exact sameEffect_iff_sameUpdate (unique row rowMem) there rfl rfl
              · rw [if_neg sameId]
                exact sameEffect_of_other_row (unique row rowMem) (unique existing existingMem)
                  sameId there rfl rfl
            · split
              · simp [RowWrite.effect]
              · simp [RowWrite.effect]

theorem perRowEffect_eq_none_iff (transactions : Transactions) (element : BatchElement)
    {rows : List TransactionEntity}
    (isRows : rowsWithId transactions
      (transactionKey tenantId connectionId element.transaction).externalId = rows) :
    (perRowWrite limitOne tenantId connectionId element rows).effect rows
        (transactionKey tenantId connectionId element.transaction) = none ↔
      RejectedPerRow limitOne tenantId connectionId transactions element := by
  have lookup := getByExternalId_eq limitOne transactions
    (transactionKey tenantId connectionId element.transaction)
  rw [isRows] at lookup
  rw [RejectedPerRow]
  cases found : getByExternalId limitOne transactions
      (transactionKey tenantId connectionId element.transaction) with
  | none =>
      rw [found] at lookup
      simp [perRowWrite, ← lookup, RowWrite.effect]
  | some row =>
      rw [found] at lookup
      rw [perRowWrite, ← lookup]
      dsimp only
      by_cases quiet : changedByRow element.transaction element.securityId row.attributes = []
      · simp [quiet, RowWrite.effect, anyUnserializable]
      · rw [if_neg quiet]
        split
        · next rejected => simp [RowWrite.effect, rejected]
        · next accepted => simp [RowWrite.effect, accepted]

theorem bulkEffect_ne_none (element : BatchElement × List Field)
    (rows : List TransactionEntity) (key : ProviderKey) :
    (bulkWrite tenantId connectionId element rows).effect rows key ≠ none := by
  rw [bulkWrite]
  split
  · simp [RowWrite.effect]
  · split
    · simp [RowWrite.effect]
    · simp [RowWrite.effect]

/-! ## Agreement on a batch -/

/-- The key that an element is upserted under. -/
def elementKey (element : BatchElement × List Field) : ProviderKey :=
  transactionKey tenantId connectionId element.1.transaction

theorem onePlace_perRow :
    OnePlace upsertComparison
      (fun transactions (element : BatchElement × List Field) =>
        persistTransaction limitOne transactions tenantId element.1.transaction
          element.1.securityId connectionId)
      (fun element => (elementKey tenantId connectionId element).externalId)
      (fun element rows =>
        (perRowWrite limitOne tenantId connectionId element.1 rows).effect rows
          (elementKey tenantId connectionId element)) := by
  simp only [persistTransaction_eq]
  apply onePlace_of_rowWrite
  intro element
  exact perRowWrite_savesOwn limitOne tenantId connectionId element.1

theorem onePlace_bulk :
    OnePlace upsertComparison
      (fun transactions element =>
        upsertEach transactionUpsert transactions (sentRow tenantId connectionId element))
      (fun element => (elementKey tenantId connectionId element).externalId)
      (fun element rows =>
        (bulkWrite tenantId connectionId element rows).effect rows
          (elementKey tenantId connectionId element)) := by
  simp only [upsertEach_eq]
  apply onePlace_of_rowWrite
  exact bulkWrite_savesOwn tenantId connectionId

theorem persistTransactionsPerRow_eq (transactions : Transactions) (batch : List BatchElement) :
    persistTransactionsPerRow limitOne transactions tenantId connectionId batch =
      collect (fun transactions (element : BatchElement × List Field) =>
          persistTransaction limitOne transactions tenantId element.1.transaction
            element.1.securityId connectionId)
        transactions (withNames batch) := by
  conv_lhs => rw [← map_fst_withNames batch]
  rw [persistTransactionsPerRow, collect_map]

theorem distinct_withNames {batch : List BatchElement} (distinct : DistinctIds batch) :
    (withNames batch).Pairwise fun first second =>
      (elementKey tenantId connectionId first).externalId ≠
        (elementKey tenantId connectionId second).externalId := by
  rw [← map_fst_withNames batch, DistinctIds, List.pairwise_map] at distinct
  exact distinct

/-- The loop over a batch fails exactly if an element is rejected. -/
theorem perRow_fails_iff (transactions : Transactions) {batch : List BatchElement}
    (distinct : DistinctIds batch) :
    (∃ error, persistTransactionsPerRow limitOne transactions tenantId connectionId batch =
        .error error) ↔
      ∃ element ∈ batch, RejectedPerRow limitOne tenantId connectionId transactions element := by
  have onePlace := onePlace_perRow limitOne tenantId connectionId
  have distinctNames := distinct_withNames tenantId connectionId distinct
  rw [persistTransactionsPerRow_eq]
  constructor
  · rintro ⟨error, failed⟩
    obtain ⟨element, elementMem, rejected⟩ := onePlace.collect_fails distinctNames failed
    refine ⟨element.1, ?_, (perRowEffect_eq_none_iff limitOne tenantId connectionId transactions
      element.1 rfl).mp rejected⟩
    rw [← map_fst_withNames batch]
    exact List.mem_map_of_mem elementMem
  · rintro ⟨element, elementMem, rejected⟩
    rw [← map_fst_withNames batch] at elementMem
    obtain ⟨pair, pairMem, rfl⟩ := List.mem_map.mp elementMem
    cases collected : collect _ transactions (withNames batch) with
    | error error => exact ⟨error, rfl⟩
    | ok result =>
        refine absurd ?_ ((onePlace.collect_isOk_iff _ distinctNames).mp ⟨result, collected⟩
          pair pairMem)
        exact (perRowEffect_eq_none_iff limitOne tenantId connectionId transactions pair.1
          rfl).mpr rejected

/-- The bulk upsert of a batch with different external ids agrees with the loop
over its elements exactly if each chunk is even and both do the same with every
element, or if both paths reject the batch. -/
theorem bulk_agrees_iff (transactions : Transactions) {batch : List BatchElement}
    (distinct : DistinctIds batch) :
    Agree (persistTransactionsPerRow limitOne transactions tenantId connectionId batch)
        (persistTransactionsBatch transactions tenantId connectionId batch) ↔
      (¬ EvenChunks batch ∧
        ∃ element ∈ batch,
          RejectedPerRow limitOne tenantId connectionId transactions element) ∨
      (EvenChunks batch ∧ ∀ element ∈ withNames batch,
        ¬ RejectedPerRow limitOne tenantId connectionId transactions element.1 ∧
          ElementAgrees limitOne tenantId connectionId transactions element) := by
  by_cases even : EvenChunks batch
  · simp only [even, not_true_eq_false, false_and, true_and, false_or]
    rw [agree_iff_same, persistTransactionsPerRow_eq,
      persistTransactionsBatch_eq tenantId connectionId distinct even,
      same_collect_iff (onePlace_perRow limitOne tenantId connectionId)
        (onePlace_bulk tenantId connectionId)
        (distinct_withNames tenantId connectionId distinct)]
    constructor
    · rintro (⟨-, element, -, fails⟩ | same)
      · exact absurd fails (bulkEffect_ne_none tenantId connectionId element _ _)
      · intro element elementMem
        exact (sameEffect_iff limitOne tenantId connectionId transactions element rfl).mp
          (same element elementMem)
    · intro agrees
      right
      intro element elementMem
      exact (sameEffect_iff limitOne tenantId connectionId transactions element rfl).mpr
        (agrees element elementMem)
  · simp only [even, not_false_eq_true, true_and, false_and, or_false]
    rw [← perRow_fails_iff limitOne tenantId connectionId transactions distinct]
    obtain ⟨error, rejected⟩ :=
      persistTransactionsBatch_uneven tenantId connectionId even transactions
    rw [rejected]
    cases persistTransactionsPerRow limitOne transactions tenantId connectionId batch with
    | error perRowError => exact iff_of_true trivial ⟨perRowError, rfl⟩
    | ok result =>
        apply iff_of_false (fun agree => agree)
        rintro ⟨_, failed⟩
        cases failed

end Element

/-- A card payment of the given category. -/
def cardPayment (category : Option String) : BatchElement where
  transaction :=
    { providerKey := "bunq", externalTransactionId := "1", amount := -12
      occurredAt := ⟨0, 0⟩, transactionType := "card_payment", status := "booked"
      classificationOverride := category }
  securityId := none

/-- Both paths store a new card payment alike. -/
theorem bulk_agrees_on_new_cardPayment :
    Agree (persistTransactionsPerRow .first .empty 0 none [cardPayment none])
      (persistTransactionsBatch .empty 0 none [cardPayment none]) := by
  apply (bulk_agrees_iff .first 0 none .empty (List.pairwise_singleton _ _)).mpr
  right
  constructor
  · decide +kernel
  · have noNames : chunkNames [cardPayment none] = [] := by decide
    intro element elementMem
    have isOnly : element = (cardPayment none, []) := by
      simpa [withNames, chunks, chunkSize, noNames] using elementMem
    subst isOnly
    constructor
    · rintro ⟨found, lookup, -⟩
      cases lookup
    · intro field unnamed
      have missing := List.filter_eq_nil_iff.mp noNames field (Classical.not_imp.mp unnamed).1
      simpa using missing

theorem Agree.columns {first second : Except PersistError (Transactions × List Outcome)}
    (agree : Agree first second) (key : ProviderKey) :
    first.toOption.bind (fun result => (findByKey result.1 key).map mutableColumns) =
      second.toOption.bind fun result => (findByKey result.1 key).map mutableColumns := by
  cases first with
  | error firstError =>
      cases second with
      | error secondError => rfl
      | ok secondResult => cases agree
  | ok firstResult =>
      cases second with
      | error secondError => cases agree
      | ok secondResult => exact agree.1 key

/-- The loop keeps the category that a user chose, the bulk upsert replaces it. -/
theorem bulk_disagrees_on_override :
    ¬ ∀ limitOne tenantId connectionId transactions batch, DistinctIds batch →
      Agree (persistTransactionsPerRow limitOne transactions tenantId connectionId batch)
        (persistTransactionsBatch transactions tenantId connectionId batch) := by
  intro always
  have agree := always .first 0 none
    (create .empty (transactionKey 0 none (cardPayment none).transaction)
      (transactionRow (cardPayment (some "groceries")).transaction none) {}).1
    [cardPayment (some "travel")] (List.pairwise_singleton _ _)
  have columns := agree.columns (transactionKey 0 none (cardPayment none).transaction)
  revert columns
  decide +kernel

end FinanceSync.Persistence
