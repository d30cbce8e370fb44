import FinanceSync.Data.Values
import FinanceSync.Lib.ForeignKeys

/-!
# Deleting the data of a connection

Connector credentials are not parents of the financial data in the database, so
that the deletion walks from the credential to what it owns: the accounts of the
connection and what stands on them, and the rows that carry its id.
-/

namespace FinanceSync.Deletion

open Lib

/-! ## The database -/

/-- The tables that the deletion reaches, by its statements or by the foreign keys. -/
inductive Table
  | account
  | transaction
  | cardTransaction
  | balance
  | holding
  | taxLot
  | scheduledPayment
  | detectedSubscription
  | reconciliationResult
  | holdingRelevanceItem
  | wealthfolioAccountMapping
  | wealthfolioDelivery
  | actualBudgetAccountMapping
  | exportDelivery
  | transactionLifecycleEvent
  | transactionAnnotations
  | transactionSourceReference
  | transactionSplit
  | transactionOverride
  | duplicateReview
  | syncCursor
  | syncRun
  | connectorState
  | importRun
  | syncSchedule
  | credential
deriving DecidableEq

abbrev RowKey : Type := Table × Uuid

/-- A row of one of the tables, with the columns that the deletion and the foreign keys
read.  The columns that a table does not have are empty. -/
structure Row where
  table : Table
  id : Uuid
  tenantId : Option Uuid
  accountId : Option Uuid := none
  connectionId : Option Uuid := none
  /-- `transaction_id`; of a duplicate review the two transactions it is about. -/
  transactionIds : List Uuid := []
  /-- The references to transactions that are cleared: of a tax lot the purchase, the
  sale and the transfer, of a duplicate review the transaction that is kept. -/
  clearedTransactionIds : List (Option Uuid) := []
  /-- What a schedule is for; `SCOPE_INGESTION` is a connection. -/
  isIngestion : Bool := false
  targetId : Option Uuid := none
  enabled : Bool := false
  nextRunAt : Option Instant := none
deriving DecidableEq

/-- The tables whose rows go with a transaction. -/
def transactionParts : List Table :=
  [.transactionLifecycleEvent, .transactionAnnotations, .transactionSourceReference,
    .transactionSplit, .transactionOverride, .duplicateReview]

/-- The tables whose rows go with their account. -/
def accountParts : List Table :=
  [.holdingRelevanceItem, .wealthfolioAccountMapping, .wealthfolioDelivery,
    .actualBudgetAccountMapping, .exportDelivery]

/-- The tables whose rows keep their account from being deleted. -/
def restrictedTables : List Table :=
  [.transaction, .cardTransaction, .balance, .holding, .taxLot, .scheduledPayment]

/-- The tables whose rows lose the reference to a deleted account. -/
def clearedTables : List Table := [.detectedSubscription, .reconciliationResult, .importRun]

namespace Row

def key (row : Row) : RowKey := (row.table, row.id)

/-- `ON DELETE CASCADE` -/
def cascades (row : Row) (owner : RowKey) : Bool :=
  if row.table ∈ transactionParts then
    owner.1 = .transaction && owner.2 ∈ row.transactionIds
  else if row.table ∈ accountParts then
    owner.1 = .account && row.accountId = some owner.2
  else
    row.table = .importRun && owner.1 = .credential && row.connectionId = some owner.2

/-- `ON DELETE RESTRICT` -/
def restricts (row : Row) (owner : RowKey) : Bool :=
  row.table ∈ restrictedTables && owner.1 = .account && row.accountId = some owner.2

/-- `ON DELETE SET NULL` -/
def clear (gone : RowKey → Bool) (row : Row) : Row :=
  { row with
    accountId :=
      if row.table ∈ clearedTables then row.accountId.filter fun id => !gone (.account, id)
      else row.accountId
    clearedTransactionIds :=
      row.clearedTransactionIds.map (·.filter fun id => !gone (.transaction, id)) }

end Row

theorem notOwner_of_mem_transactionParts : ∀ table ∈ transactionParts,
    table ≠ .account ∧ table ≠ .transaction ∧ table ≠ .credential := by decide

theorem notOwner_of_mem_accountParts : ∀ table ∈ accountParts,
    table ≠ .account ∧ table ≠ .transaction ∧ table ≠ .credential := by decide

theorem not_mem_accountParts_of_cleared : ∀ table ∈ clearedTables, table ∉ accountParts := by
  decide

theorem not_mem_restrictedTables_of_cleared :
    ∀ table ∈ clearedTables, table ∉ restrictedTables := by decide

/-- Nothing that goes with another row owns rows itself. -/
theorem Row.table_of_cascades {row : Row} {owner : RowKey} (cascades : row.cascades owner) :
    row.table ≠ .account ∧ row.table ≠ .transaction ∧ row.table ≠ .credential := by
  unfold Row.cascades at cascades
  split at cascades
  · rename_i isPart
    exact notOwner_of_mem_transactionParts row.table isPart
  · split at cascades
    · rename_i isPart
      exact notOwner_of_mem_accountParts row.table isPart
    · simp only [Bool.and_eq_true, decide_eq_true_eq] at cascades
      rw [cascades.1.1]
      decide

/-- The owners of other rows are transactions, accounts and credentials. -/
theorem Row.owner_of_cascades {row : Row} {owner : RowKey} (cascades : row.cascades owner) :
    owner.1 = .transaction ∨ owner.1 = .account ∨ owner.1 = .credential := by
  unfold Row.cascades at cascades
  split at cascades
  · simp only [Bool.and_eq_true, decide_eq_true_eq] at cascades
    exact Or.inl cascades.1
  · split at cascades
    · simp only [Bool.and_eq_true, decide_eq_true_eq] at cascades
      exact Or.inr (Or.inl cascades.1)
    · simp only [Bool.and_eq_true, decide_eq_true_eq] at cascades
      exact Or.inr (Or.inr cascades.1.2)

/-- The foreign keys of the tables. -/
def foreignKeys : ForeignKeys Row RowKey where
  key := Row.key
  cascades := Row.cascades
  restricts := Row.restricts
  clear := Row.clear
  key_clear _ _ := rfl
  cascades_clear := by
    intro gone row
    funext owner
    by_cases isAccountPart : row.table ∈ accountParts
    · have notCleared : row.table ∉ clearedTables :=
        fun isCleared => not_mem_accountParts_of_cleared row.table isCleared isAccountPart
      simp [Row.cascades, Row.clear, notCleared]
    · simp only [Row.cascades, Row.clear, isAccountPart, if_false]
      rfl
  restricts_clear := by
    intro gone row
    funext owner
    by_cases isCleared : row.table ∈ clearedTables
    · have unrestricted := not_mem_restrictedTables_of_cleared row.table isCleared
      simp [Row.restricts, Row.clear, unrestricted]
    · simp [Row.restricts, Row.clear, isCleared]
  clear_clear := by
    intro first second row
    by_cases isCleared : row.table ∈ clearedTables
    · simp [Row.clear, isCleared, Option.filter_filter, Function.comp_def]
    · simp [Row.clear, isCleared, Option.filter_filter, Function.comp_def]
  clear_none := by
    intro row
    have nothing : (fun id : Option Uuid => id.filter fun _ => true) = id := by
      funext id
      cases id <;> rfl
    simp [Row.clear, nothing]
  cascades_leaf := by
    intro row owner cascades other
    have leaf := Row.table_of_cascades cascades
    by_contra goes
    rw [Bool.not_eq_false] at goes
    cases Row.owner_of_cascades goes with
    | inl transaction => exact leaf.2.1 transaction
    | inr either =>
        cases either with
        | inl account => exact leaf.1 account
        | inr credential => exact leaf.2.2 credential
  clear_congr := by
    intro first second same row
    have sameOwner : ∀ owner : RowKey, owner.1 = .account ∨ owner.1 = .transaction →
        first owner = second owner := by
      intro owner isOwner
      cases same owner with
      | inr equal => exact equal
      | inl leaf =>
          obtain ⟨part, _, cascades, isKey⟩ := leaf
          have notOwner := Row.table_of_cascades cascades
          subst isKey
          cases isOwner with
          | inl account => exact absurd account notOwner.1
          | inr transaction => exact absurd transaction notOwner.2.1
    have sameAccount := fun id => sameOwner (.account, id) (Or.inl rfl)
    have sameTransaction := fun id => sameOwner (.transaction, id) (Or.inr rfl)
    simp only [Row.clear, sameAccount, sameTransaction]

def transactionModels : List Table :=
  [.transactionLifecycleEvent, .transactionAnnotations, .transactionSourceReference,
    .transactionSplit, .transactionOverride]

def accountModels : List Table :=
  [.wealthfolioAccountMapping, .wealthfolioDelivery, .actualBudgetAccountMapping,
    .exportDelivery, .holding, .balance, .taxLot, .scheduledPayment, .detectedSubscription,
    .reconciliationResult, .holdingRelevanceItem, .cardTransaction, .transaction]

def connectionModels : List Table := [.syncCursor, .syncRun, .connectorState, .importRun]

/-- Only the tables with these columns refer to accounts and to transactions. -/
def Row.HasColumns (row : Row) : Prop :=
  (row.accountId.isSome → row.table ∈ Table.importRun :: accountModels) ∧
    (row.transactionIds ≠ [] → row.table ∈ transactionParts)

instance (row : Row) : Decidable row.HasColumns := inferInstanceAs (Decidable (_ ∧ _))

/-- The rows, each with a key of its own. -/
structure Database where
  rows : List Row
  primaryKeys : (rows.map Row.key).Nodup
  columns : ∀ row ∈ rows, row.HasColumns

/-! ## The statements -/

/-- Whose data is deleted. -/
structure Connection where
  tenantId : Uuid
  connectionId : Uuid

/-- A condition on the rows of a table. -/
def on (condition : Row → Bool) (table : Table) (row : Row) : Bool :=
  row.table = table && condition row

namespace Database

variable (db : Database) (connection : Connection)

/-- `_account_ids` -/
def accountIds : List Uuid :=
  (db.rows.filter fun row => row.table = .account &&
    row.tenantId = some connection.tenantId &&
      row.connectionId = some connection.connectionId).map Row.id

/-- `account_id IN account_ids` -/
def onAccounts (row : Row) : Bool :=
  row.accountId.any (· ∈ db.accountIds connection)

/-- The transactions that the deletion of account rows knows of. -/
def accountTransactionIds : List Uuid :=
  (db.rows.filter fun row => row.table = .transaction &&
    row.tenantId = some connection.tenantId && db.onAccounts connection row).map Row.id

/-- The row carries the tenant and the id of the connection. -/
def carriesConnection (row : Row) : Bool :=
  row.tenantId = some connection.tenantId && row.connectionId = some connection.connectionId

/-- The statements of `_delete_account_rows` up to the one for the accounts.  A tax lot
has no `transaction_id`. -/
def accountRowStatements : List (Row → Bool) :=
  let accountIds := db.accountIds connection
  let transactionIds := db.accountTransactionIds connection
  if accountIds.isEmpty then []
  else
    (if transactionIds.isEmpty then []
      else transactionModels.map (on fun row => row.transactionIds.any (· ∈ transactionIds))) ++
    accountModels.map (on (db.onAccounts connection))

def accountStatement : Row → Bool :=
  on (fun row => row.id ∈ db.accountIds connection) .account

/-- The statements after `_delete_account_rows`, and the one for the credential. -/
def connectionStatements : List (Row → Bool) :=
  [on (carriesConnection connection) .cardTransaction,
    on (carriesConnection connection) .transaction] ++
  connectionModels.map (on fun row => row.connectionId = some connection.connectionId) ++
  [on (fun row => row.id = connection.connectionId) .credential]

/-- The ingestion schedules of the connection. -/
def isSchedule (row : Row) : Bool :=
  row.table = .syncSchedule && row.tenantId = some connection.tenantId && row.isIngestion &&
    row.targetId = some connection.connectionId

/-- Keep the row for operational visibility, but make it impossible for the worker to
plan a run for the deleted source. -/
def disable (row : Row) : Row :=
  if isSchedule connection row then { row with enabled := false, nextRunAt := none } else row

/-- All statements, in their order. -/
def statements : List (Row → Bool) :=
  db.accountRowStatements connection ++
    (if (db.accountIds connection).isEmpty then [] else [db.accountStatement connection]) ++
    connectionStatements connection

/-- Delete all connection-owned rows; none where a foreign key forbids it. -/
def delete : Option (List Row) :=
  (foreignKeys.deleteAll db.rows (db.statements connection)).map fun rows =>
    rows.map (disable connection)

/-! ## What the deletion does -/

/-- The transactions that are deleted. -/
def TransactionGoes (id : Uuid) : Prop :=
  ∃ row ∈ db.rows, row.table = .transaction ∧ row.id = id ∧
    (db.onAccounts connection row ∨ carriesConnection connection row)

/-- The rows that are deleted: what stands on the accounts of the connection or belongs
to a transaction that is deleted, and what carries the id of the connection. -/
def Goes (row : Row) : Prop :=
  (row.table ∈ transactionParts ∧ ∃ id ∈ row.transactionIds, db.TransactionGoes connection id) ∨
    (row.table ∈ accountModels ∧ db.onAccounts connection row) ∨
    (row.table = .account ∧ row.id ∈ db.accountIds connection) ∨
    (row.table ∈ [.cardTransaction, .transaction] ∧ carriesConnection connection row) ∨
    (row.table ∈ connectionModels ∧ row.connectionId = some connection.connectionId) ∨
    (row.table = .credential ∧ row.id = connection.connectionId)

instance (id : Uuid) : Decidable (db.TransactionGoes connection id) :=
  inferInstanceAs (Decidable (∃ row ∈ db.rows, _))

instance (row : Row) : Decidable (db.Goes connection row) :=
  inferInstanceAs (Decidable (_ ∨ _))

end Database

section Walk

open Database

variable {db : Database} {connection : Connection} {row : Row}

theorem on_iff {condition : Row → Bool} {table : Table} :
    on condition table row ↔ row.table = table ∧ condition row := by
  simp [on]

theorem hit_append {first second : List (Row → Bool)} :
    ForeignKeys.hit (first ++ second) row ↔
      ForeignKeys.hit first row ∨ ForeignKeys.hit second row := by
  simp [ForeignKeys.hit]

/-- A statement for each of the tables. -/
theorem hit_map_on {tables : List Table} {condition : Row → Bool} :
    ForeignKeys.hit (tables.map (on condition)) row ↔ row.table ∈ tables ∧ condition row := by
  simp only [ForeignKeys.hit, List.any_map, List.any_eq_true, Function.comp_apply, on_iff]
  constructor
  · rintro ⟨table, isMem, isTable, holds⟩
    exact ⟨isTable ▸ isMem, holds⟩
  · rintro ⟨isMem, holds⟩
    exact ⟨row.table, isMem, rfl, holds⟩

/-- Where there are no accounts nothing stands on them. -/
theorem not_onAccounts_of_isEmpty (noAccounts : (db.accountIds connection).isEmpty) :
    db.onAccounts connection row = false := by
  rw [List.isEmpty_iff] at noAccounts
  simp [onAccounts, noAccounts]

theorem accountTransactionIds_of_isEmpty (noAccounts : (db.accountIds connection).isEmpty) :
    db.accountTransactionIds connection = [] := by
  simp [accountTransactionIds, not_onAccounts_of_isEmpty noAccounts]

/-- The rows that `_delete_account_rows` deletes before the accounts. -/
theorem hit_accountRowStatements :
    ForeignKeys.hit (db.accountRowStatements connection) row ↔
      (row.table ∈ transactionModels ∧
          ∃ id ∈ row.transactionIds, id ∈ db.accountTransactionIds connection) ∨
        (row.table ∈ accountModels ∧ db.onAccounts connection row) := by
  unfold accountRowStatements
  dsimp only
  split
  · rename_i noAccounts
    simp [ForeignKeys.hit, accountTransactionIds_of_isEmpty noAccounts,
      not_onAccounts_of_isEmpty noAccounts]
  · rw [hit_append, hit_map_on]
    apply or_congr_left
    split
    · rename_i noTransactions
      rw [List.isEmpty_iff] at noTransactions
      simp [ForeignKeys.hit, noTransactions]
    · rw [hit_map_on]
      simp

theorem hit_accountStatement :
    ForeignKeys.hit (if (db.accountIds connection).isEmpty then []
        else [db.accountStatement connection]) row ↔
      row.table = .account ∧ row.id ∈ db.accountIds connection := by
  split
  · rename_i noAccounts
    rw [List.isEmpty_iff] at noAccounts
    simp [ForeignKeys.hit, noAccounts]
  · simp [ForeignKeys.hit, accountStatement, on]

theorem hit_connectionStatements :
    ForeignKeys.hit (connectionStatements connection) row ↔
      (row.table ∈ [.cardTransaction, .transaction] ∧ carriesConnection connection row) ∨
        (row.table ∈ connectionModels ∧ row.connectionId = some connection.connectionId) ∨
        (row.table = .credential ∧ row.id = connection.connectionId) := by
  unfold connectionStatements
  rw [hit_append, hit_append, hit_map_on, or_assoc]
  simp [ForeignKeys.hit, on, or_and_right]

theorem hit_statements : ForeignKeys.hit (db.statements connection) row ↔
    ((row.table ∈ transactionModels ∧
          ∃ id ∈ row.transactionIds, id ∈ db.accountTransactionIds connection) ∨
        (row.table ∈ accountModels ∧ db.onAccounts connection row)) ∨
      (row.table = .account ∧ row.id ∈ db.accountIds connection) ∨
      (row.table ∈ [.cardTransaction, .transaction] ∧ carriesConnection connection row) ∨
      (row.table ∈ connectionModels ∧ row.connectionId = some connection.connectionId) ∨
      (row.table = .credential ∧ row.id = connection.connectionId) := by
  rw [statements, hit_append, hit_append, hit_accountRowStatements, hit_accountStatement,
    hit_connectionStatements, or_assoc]

theorem mem_transactionParts_of_models :
    ∀ table ∈ transactionModels, table ∈ transactionParts := by decide

theorem mem_accountModels_of_parts : ∀ table ∈ accountParts, table ∈ accountModels := by decide

theorem transactionGoes_of_mem {id : Uuid}
    (isMem : id ∈ db.accountTransactionIds connection) :
    db.TransactionGoes connection id := by
  obtain ⟨row, found, isId⟩ := List.mem_map.mp isMem
  simp only [List.mem_filter, Bool.and_eq_true, decide_eq_true_eq] at found
  exact ⟨row, found.1, found.2.1.1, isId, Or.inl found.2.2⟩

/-- A row that a statement deletes goes. -/
theorem goes_of_hit (hits : ForeignKeys.hit (db.statements connection) row) :
    db.Goes connection row := by
  rw [hit_statements] at hits
  unfold Goes
  rcases hits with (part | standing) | rest
  · obtain ⟨isModel, id, isPart, known⟩ := part
    exact Or.inl ⟨mem_transactionParts_of_models _ isModel, id, isPart,
      transactionGoes_of_mem known⟩
  · exact Or.inr (Or.inl standing)
  · exact Or.inr (Or.inr rest)

/-- A transaction goes if one of the statements deletes it. -/
theorem hit_transaction_iff (isTransaction : row.table = .transaction) :
    ForeignKeys.hit (db.statements connection) row ↔
      db.onAccounts connection row ∨ carriesConnection connection row := by
  rw [hit_statements, isTransaction]
  simp [transactionModels, accountModels, connectionModels]

theorem hit_account_iff (isAccount : row.table = .account) :
    ForeignKeys.hit (db.statements connection) row ↔ row.id ∈ db.accountIds connection := by
  rw [hit_statements, isAccount]
  simp [transactionModels, accountModels, connectionModels]

theorem hit_credential_iff (isCredential : row.table = .credential) :
    ForeignKeys.hit (db.statements connection) row ↔ row.id = connection.connectionId := by
  rw [hit_statements, isCredential]
  simp [transactionModels, accountModels, connectionModels]

/-- A row that goes with a deleted row goes. -/
theorem goes_of_cascades {gone : Row} (goneMem : gone ∈ db.rows)
    (hits : ForeignKeys.hit (db.statements connection) gone)
    (cascades : row.cascades gone.key) : db.Goes connection row := by
  unfold Row.cascades at cascades
  unfold Goes
  split at cascades
  · rename_i isPart
    simp only [Bool.and_eq_true, decide_eq_true_eq] at cascades
    rw [hit_transaction_iff cascades.1] at hits
    exact Or.inl ⟨isPart, gone.id, cascades.2, gone, goneMem, cascades.1, rfl, hits⟩
  · split at cascades
    · rename_i isPart
      simp only [Bool.and_eq_true, decide_eq_true_eq] at cascades
      rw [hit_account_iff cascades.1] at hits
      right; left
      refine ⟨mem_accountModels_of_parts _ isPart, ?_⟩
      rw [onAccounts, cascades.2]
      exact decide_eq_true hits
    · simp only [Bool.and_eq_true, decide_eq_true_eq] at cascades
      rw [hit_credential_iff cascades.1.2] at hits
      right; right; right; right; left
      rw [cascades.1.1, cascades.2]
      exact ⟨by decide, congrArg some hits⟩

/-- The rows that remain. -/
theorem kept_iff_not_goes :
    foreignKeys.kept db.rows (db.statements connection) row ↔ ¬ db.Goes connection row := by
  rw [ForeignKeys.kept_iff]
  constructor
  · rintro ⟨misses, noOwner⟩ goes
    unfold Goes at goes
    rcases goes with part | standing | rest
    · obtain ⟨isPart, id, isOne, transaction, isMem, isTransaction, isId, goes⟩ := part
      apply noOwner transaction isMem ((hit_transaction_iff isTransaction).mpr goes)
      show row.cascades transaction.key
      rw [Row.cascades, if_pos isPart, Row.key, isTransaction, isId]
      simp [isOne]
    · exact misses (hit_statements.mpr (Or.inl (Or.inr standing)))
    · exact misses (hit_statements.mpr (Or.inr rest))
  · intro stays
    exact ⟨fun hits => stays (goes_of_hit hits),
      fun gone isMem hits cascades => stays (goes_of_cascades isMem hits cascades)⟩

/-- Only accounts are kept from being deleted. -/
theorem table_of_restricts {owner : Row} (restricts : row.restricts owner.key) :
    row.table ∈ restrictedTables ∧ owner.table = .account ∧ row.accountId = some owner.id := by
  simp only [Row.restricts, Bool.and_eq_true, decide_eq_true_eq] at restricts
  exact ⟨restricts.1.1, restricts.1.2, restricts.2⟩

/-- No reference to an account is cleared as long as no account is deleted. -/
theorem accountId_clear {gone : RowKey → Bool} (noAccount : ∀ key, gone key → key.1 ≠ .account) :
    (row.clear gone).accountId = row.accountId := by
  have everyId : ∀ id, gone (.account, id) = false := by
    intro id
    by_contra isGone
    exact noAccount _ (Bool.not_eq_false _ ▸ isGone) rfl
  simp only [Row.clear, everyId]
  split
  · cases row.accountId <;> rfl
  · rfl

/-- The statements before the one for the accounts. -/
theorem of_mem_accountRowStatements {statement : Row → Bool}
    (isMem : statement ∈ db.accountRowStatements connection) :
    (∀ row, statement row → row.table ≠ .account) ∧
      ∀ gone : RowKey → Bool, (∀ key, gone key → key.1 ≠ .account) →
        foreignKeys.Stable gone statement := by
  have noAccountPart : ∀ table ∈ transactionModels, table ≠ .account := by decide
  have noAccountModel : ∀ table ∈ accountModels, table ≠ .account := by decide
  have isOne : (∃ table ∈ transactionModels, statement = on (fun row =>
        row.transactionIds.any (· ∈ db.accountTransactionIds connection)) table) ∨
      ∃ table ∈ accountModels, statement = on (db.onAccounts connection) table := by
    unfold accountRowStatements at isMem
    dsimp only at isMem
    split at isMem
    · contradiction
    · rw [List.mem_append] at isMem
      cases isMem with
      | inl part =>
          split at part
          · contradiction
          · obtain ⟨table, isModel, same⟩ := List.mem_map.mp part
            exact Or.inl ⟨table, isModel, same.symm⟩
      | inr standing =>
          obtain ⟨table, isModel, same⟩ := List.mem_map.mp standing
          exact Or.inr ⟨table, isModel, same.symm⟩
  cases isOne with
  | inl part =>
      obtain ⟨table, isModel, same⟩ := part
      subst same
      constructor
      · intro row holds
        rw [(on_iff.mp holds).1]
        exact noAccountPart table isModel
      · intro gone _ row
        rfl
  | inr standing =>
      obtain ⟨table, isModel, same⟩ := standing
      subst same
      constructor
      · intro row holds
        rw [(on_iff.mp holds).1]
        exact noAccountModel table isModel
      · intro gone noAccount row
        have sameAccount : (foreignKeys.clear gone row).accountId = row.accountId :=
          accountId_clear noAccount
        simp only [on, onAccounts, sameAccount]
        rfl

/-- The statements after the one for the accounts. -/
theorem of_mem_connectionStatements {statement : Row → Bool}
    (isMem : statement ∈ connectionStatements connection) :
    (∀ row, statement row → row.table ≠ .account) ∧
      ∀ gone : RowKey → Bool, foreignKeys.Stable gone statement := by
  simp only [connectionStatements, connectionModels, List.map_cons, List.map_nil,
    List.cons_append, List.nil_append, List.mem_cons, List.not_mem_nil, or_false] at isMem
  constructor
  · intro row holds
    rcases isMem with same | same | same | same | same | same | same <;>
      rw [same, on_iff] at holds <;> rw [holds.1] <;> decide
  · intro gone row
    rcases isMem with same | same | same | same | same | same | same <;>
      subst same <;> rfl

/-- No row forbids a statement that deletes no account. -/
theorem not_restricts_of_noAccount {statement : Row → Bool} {gone : Row}
    (noAccount : ∀ row, statement row → row.table ≠ .account) (hits : statement gone)
    (restricts : foreignKeys.restricts row (foreignKeys.key gone)) : False :=
  noAccount gone hits (table_of_restricts restricts).2.1

/-- Whatever stands on an account is deleted before it. -/
theorem not_kept_of_restricts {gone : Row}
    (isAccount : gone.id ∈ db.accountIds connection)
    (restricts : foreignKeys.restricts row (foreignKeys.key gone)) :
    ¬ foreignKeys.kept db.rows (db.accountRowStatements connection) row := by
  have mem_accountModels : ∀ table ∈ restrictedTables, table ∈ accountModels := by decide
  obtain ⟨isRestricted, _, standsOn⟩ := table_of_restricts restricts
  rw [ForeignKeys.kept_iff]
  intro isKept
  apply isKept.1
  rw [hit_accountRowStatements]
  right
  refine ⟨mem_accountModels _ isRestricted, ?_⟩
  rw [onAccounts, standsOn]
  exact decide_eq_true isAccount

theorem deleteAll_accountRows :
    foreignKeys.deleteAll db.rows (db.accountRowStatements connection) =
      some (foreignKeys.remaining db.rows (db.accountRowStatements connection)) := by
  have noAccountGone : ∀ key : RowKey,
      foreignKeys.gone db.rows (db.accountRowStatements connection) key → key.1 ≠ .account := by
    intro key isGone
    simp only [ForeignKeys.gone, ForeignKeys.hit, List.any_eq_true, Bool.and_eq_true,
      decide_eq_true_eq] at isGone
    obtain ⟨row, _, ⟨statement, isMem, holds⟩, isKey⟩ := isGone
    rw [← isKey]
    exact (of_mem_accountRowStatements isMem).1 row holds
  have steps := ForeignKeys.deleteAll_remaining foreignKeys db.rows (·.1 ≠ .account)
    (db.accountRowStatements connection)
    (fun statement isMem => (of_mem_accountRowStatements isMem).2) []
    noAccountGone
    fun statement isMem row _ gone _ hits restricts =>
      (not_restricts_of_noAccount (of_mem_accountRowStatements isMem).1 hits restricts).elim
  rwa [ForeignKeys.remaining_nil, List.nil_append] at steps

theorem deleteAll_accounts :
    foreignKeys.deleteAll (foreignKeys.remaining db.rows (db.accountRowStatements connection))
        (if (db.accountIds connection).isEmpty then [] else [db.accountStatement connection]) =
      some (foreignKeys.remaining db.rows (db.accountRowStatements connection ++
        if (db.accountIds connection).isEmpty then [] else [db.accountStatement connection])) := by
  have isOne : ∀ statement ∈ (if (db.accountIds connection).isEmpty then []
      else [db.accountStatement connection]), statement = db.accountStatement connection := by
    intro statement isMem
    split at isMem
    · contradiction
    · exact List.mem_singleton.mp isMem
  apply ForeignKeys.deleteAll_remaining foreignKeys db.rows fun _ => True
  · intro statement isMem gone _ row
    rw [isOne statement isMem]
    rfl
  · intro key _
    trivial
  · intro statement isMem row _ gone _ hits restricts
    rw [isOne statement isMem, accountStatement, on_iff] at hits
    exact Or.inr (not_kept_of_restricts (of_decide_eq_true hits.2) restricts)

/-- No foreign key forbids the deletion, which leaves the rows that do not go. -/
theorem delete_eq : db.delete connection =
    some ((foreignKeys.remaining db.rows (db.statements connection)).map
      (disable connection)) := by
  have last := ForeignKeys.deleteAll_remaining foreignKeys db.rows (fun _ => True)
    (connectionStatements connection)
    (fun statement isMem gone _ => (of_mem_connectionStatements isMem).2 gone)
    (db.accountRowStatements connection ++
      if (db.accountIds connection).isEmpty then [] else [db.accountStatement connection])
    (fun _ _ => trivial)
    fun statement isMem row _ gone _ hits restricts =>
      (not_restricts_of_noAccount (of_mem_connectionStatements isMem).1 hits restricts).elim
  rw [delete, statements, ForeignKeys.deleteAll_append, ForeignKeys.deleteAll_append,
    deleteAll_accountRows, Option.bind_some, deleteAll_accounts, Option.bind_some, last,
    Option.map_some]

end Walk

end FinanceSync.Deletion
