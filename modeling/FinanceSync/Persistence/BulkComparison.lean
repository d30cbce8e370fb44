import FinanceSync.Lib.Places
import FinanceSync.Persistence.Transactions

/-!
# Comparing upserts of a batch

Two upserts are compared by the mutable columns that they leave under every
natural key and by how they classify the elements.  An upsert of one element
concerns the rows with its external id only.
-/

namespace FinanceSync.Persistence

open Lib

/-! ## What is compared -/

/-- The columns that syncs update, and the revision. -/
def mutableColumns (entity : TransactionEntity) : List (Option ColumnValue) × Nat :=
  (transactionUpdateColumns.map fun column =>
    (entity.attributes column).map PyValue.stored, entity.rest.revision)

/-- How an element of a batch is classified. -/
inductive Classification
  | new
  | changed
  | unchanged
deriving DecidableEq

def Outcome.classification : Outcome → Classification
  | .created _ => .new
  | .updated _ => .changed
  | .unchanged _ => .unchanged

/-- Two upserts of a batch agree: both are rejected, or they leave the same
mutable columns and revision in the row of every natural key and classify the
elements in the same way. -/
def Agree : Except PersistError (Transactions × List Outcome) →
    Except PersistError (Transactions × List Outcome) → Prop
  | .ok (first, firstOutcomes), .ok (second, secondOutcomes) =>
      (∀ key, (findByKey first key).map mutableColumns =
          (findByKey second key).map mutableColumns) ∧
        firstOutcomes.map Outcome.classification = secondOutcomes.map Outcome.classification
  | .error _, .error _ => True
  | _, _ => False

/-- The rows with the external id, of all tenants, providers and connections. -/
def rowsWithId (transactions : Transactions) (externalId : String) : List TransactionEntity :=
  transactions.rows.filter fun entity => entity.key.externalId = externalId

/-- The mutable columns of rows by their natural keys. -/
def columnsByKey (rows : List TransactionEntity) (key : ProviderKey) :
    Option (List (Option ColumnValue) × Nat) :=
  (rows.find? fun entity => entity.key = key).map mutableColumns

/-- Upserts are compared by the mutable columns of the rows with each external
id. -/
def upsertComparison : Comparison Transactions Outcome String (List TransactionEntity)
    (ProviderKey → Option (List (Option ColumnValue) × Nat)) Classification where
  observe := rowsWithId
  view := columnsByKey
  kind := Outcome.classification

theorem find?_rowsWithId (transactions : Transactions) (externalId : String)
    (key : ProviderKey) :
    ((rowsWithId transactions externalId).find? fun entity => entity.key = key) =
      if key.externalId = externalId then findByKey transactions key else none := by
  rw [rowsWithId, List.find?_filter, findByKey]
  split
  · next same =>
      apply List.find?_congr
      intro entity _
      by_cases sameKey : entity.key = key
      · simp [sameKey, same]
      · simp [sameKey]
  · next other =>
      rw [List.find?_eq_none]
      intro entity _ found
      simp only [decide_eq_true_eq] at found
      exact other (found.2 ▸ found.1)

theorem agree_iff_same {first second : Except PersistError (Transactions × List Outcome)} :
    Agree first second ↔ upsertComparison.Same first second := by
  cases first with
  | error firstError => cases second <;> exact Iff.rfl
  | ok firstResult =>
      cases second with
      | error secondError => exact Iff.rfl
      | ok secondResult =>
          apply and_congr_left'
          constructor
          · intro same externalId
            funext key
            change columnsByKey _ key = columnsByKey _ key
            rw [columnsByKey, columnsByKey, upsertComparison, find?_rowsWithId,
              find?_rowsWithId]
            split
            · exact same key
            · rfl
          · intro same key
            have sameHere := congrFun (same key.externalId) key
            change columnsByKey _ key = columnsByKey _ key at sameHere
            rwa [columnsByKey, columnsByKey, upsertComparison, find?_rowsWithId,
              find?_rowsWithId, if_pos rfl, if_pos rfl] at sameHere

/-! ## Writes of one row -/

/-- What an upsert of one element does, seen from the rows with its external
id. -/
inductive RowWrite
  | keep (existing : TransactionEntity)
  | save (existing : TransactionEntity) (attributes : Attributes)
  | insert (attributes : Attributes)
  | reject (error : PersistError)

/-- The row after it was saved. -/
def saved (existing : TransactionEntity) (attributes : Attributes) : TransactionEntity :=
  { existing with attributes, rest := existing.rest.bump }

namespace RowWrite

def apply (transactions : Transactions) (key : ProviderKey) :
    RowWrite → Except PersistError (Transactions × Outcome)
  | keep existing => .ok (transactions, .unchanged existing.id)
  | save existing attributes =>
      .ok (transactions.save (saved existing attributes), .updated existing.id)
  | insert attributes => .ok (create transactions key attributes {})
  | reject error => .error error

/-- The columns that the write leaves in the rows with the external id. -/
def effect (rows : List TransactionEntity) (key : ProviderKey) :
    RowWrite → Option ((ProviderKey → Option (List (Option ColumnValue) × Nat)) × Classification)
  | keep _ => some (columnsByKey rows, .unchanged)
  | save existing attributes =>
      some (columnsByKey (rows.map fun entity =>
        if entity.id = existing.id then saved existing attributes else entity), .changed)
  | insert attributes => some (columnsByKey (rows ++ [⟨0, key, attributes, {}⟩]), .new)
  | reject _ => none

end RowWrite

theorem mem_of_mem_rowsWithId {transactions : Transactions} {externalId : String}
    {entity : TransactionEntity} (isMem : entity ∈ rowsWithId transactions externalId) :
    entity ∈ transactions.rows ∧ entity.key.externalId = externalId := by
  simpa [rowsWithId] using isMem

theorem rowsWithId_save {transactions : Transactions} {existing : TransactionEntity}
    (attributes : Attributes) (isMem : existing ∈ transactions.rows) (externalId : String) :
    rowsWithId (transactions.save (saved existing attributes)) externalId =
      (rowsWithId transactions externalId).map fun entity =>
        if entity.id = existing.id then saved existing attributes else entity := by
  rw [rowsWithId, Table.save, List.filter_map, rowsWithId]
  congr 1
  apply List.filter_congr
  intro entity entityMem
  rw [Function.comp_apply]
  split
  · next same => rw [transactions.eq_of_key_eq entityMem isMem same]; rfl
  · rfl

theorem rowsWithId_save_of_ne {transactions : Transactions} {existing : TransactionEntity}
    (attributes : Attributes) (isMem : existing ∈ transactions.rows) {externalId : String}
    (other : externalId ≠ existing.key.externalId) :
    rowsWithId (transactions.save (saved existing attributes)) externalId =
      rowsWithId transactions externalId := by
  rw [rowsWithId_save attributes isMem]
  conv_rhs => rw [← List.map_id (rowsWithId transactions externalId)]
  apply List.map_congr_left
  intro entity entityMem
  rw [if_neg]
  · rfl
  · intro same
    obtain ⟨isRow, isHere⟩ := mem_of_mem_rowsWithId entityMem
    rw [transactions.eq_of_key_eq isRow isMem same] at isHere
    exact other isHere.symm

theorem rowsWithId_insert (transactions : Transactions) (key : ProviderKey)
    (attributes : Attributes) (externalId : String) :
    rowsWithId (transactions.insert ⟨transactions.next, key, attributes, {}⟩ rfl) externalId =
      rowsWithId transactions externalId ++
        if key.externalId = externalId then [⟨transactions.next, key, attributes, {}⟩] else [] := by
  rw [rowsWithId, Table.rows_insert, List.filter_append, rowsWithId]
  congr 1
  split
  · next same => simp [same]
  · next other => simp [other]

/-- The id of a row is not one of its mutable columns. -/
theorem columnsByKey_append_id (rows : List TransactionEntity) (id : Uuid) (key : ProviderKey)
    (attributes : Attributes) :
    columnsByKey (rows ++ [⟨id, key, attributes, {}⟩]) =
      columnsByKey (rows ++ [⟨0, key, attributes, {}⟩]) := by
  funext wanted
  rw [columnsByKey, columnsByKey, List.find?_append, List.find?_append]
  cases rows.find? fun entity => entity.key = wanted with
  | some entity => rfl
  | none =>
      by_cases same : key = wanted
      · simp [same, mutableColumns]
      · simp [same]

/-- Upserts that decide by the rows with the external id concern those rows
only. -/
theorem onePlace_of_rowWrite {Input : Type} {key : Input → ProviderKey}
    {write : Input → List TransactionEntity → RowWrite}
    (savesOwn : ∀ input rows existing attributes, write input rows = .save existing attributes →
      existing ∈ rows) :
    OnePlace upsertComparison
      (fun transactions input =>
        (write input (rowsWithId transactions (key input).externalId)).apply transactions
          (key input))
      (fun input => (key input).externalId)
      (fun input rows => (write input rows).effect rows (key input)) where
  frame := by
    intro transactions next input outcome written other apart
    change rowsWithId next other = rowsWithId transactions other
    cases decided : write input (rowsWithId transactions (key input).externalId) with
    | keep existing =>
        rw [decided] at written
        cases written
        rfl
    | save existing attributes =>
        rw [decided] at written
        cases written
        obtain ⟨isMem, isHere⟩ := mem_of_mem_rowsWithId (savesOwn _ _ _ _ decided)
        apply rowsWithId_save_of_ne attributes isMem
        rwa [isHere]
    | insert attributes =>
        rw [decided] at written
        cases written
        rw [rowsWithId_insert, if_neg apart.symm, List.append_nil]
    | reject error =>
        rw [decided] at written
        cases written
  succeeds := by
    intro transactions next input outcome written
    change (write input (rowsWithId transactions (key input).externalId)).effect _ _ =
      some (columnsByKey (rowsWithId next (key input).externalId), outcome.classification)
    cases decided : write input (rowsWithId transactions (key input).externalId) with
    | keep existing =>
        rw [decided] at written
        cases written
        rfl
    | save existing attributes =>
        rw [decided] at written
        cases written
        obtain ⟨isMem, isHere⟩ := mem_of_mem_rowsWithId (savesOwn _ _ _ _ decided)
        rw [rowsWithId_save attributes isMem]
        rfl
    | insert attributes =>
        rw [decided] at written
        cases written
        rw [rowsWithId_insert, if_pos rfl, columnsByKey_append_id]
        rfl
    | reject error =>
        rw [decided] at written
        cases written
  fails := by
    intro transactions input error failed
    change (write input (rowsWithId transactions (key input).externalId)).effect _ _ = none
    cases decided : write input (rowsWithId transactions (key input).externalId) with
    | reject error => rfl
    | _ =>
        rw [decided] at failed
        cases failed

end FinanceSync.Persistence
