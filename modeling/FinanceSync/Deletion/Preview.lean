import FinanceSync.Deletion.Connector
import FinanceSync.Lib.Queries

/-!
# The deletion preview

The preview counts what the deletion is going to remove, table by table and by
queries of its own.
-/

namespace FinanceSync.Deletion

open Lib

/-! ## The preview -/

/-- The counts that `ConnectorDeletionPreview` reports. -/
inductive Number
  | accounts
  | transactions
  | cardTransactions
  | holdings
  | balances
  | otherRecords
deriving DecidableEq

/-- `account_scoped_models` -/
def accountScopedModels : List Table :=
  [.balance, .holding, .taxLot, .scheduledPayment, .detectedSubscription,
    .reconciliationResult, .holdingRelevanceItem, .wealthfolioAccountMapping,
    .wealthfolioDelivery, .actualBudgetAccountMapping, .exportDelivery]

/-- `connection_scoped_models` -/
def connectionScopedModels : List Table :=
  [.syncCursor, .syncRun, .connectorState, .scheduledPayment]

namespace Database

variable (db : Database) (connection : Connection)

/-- The condition of `_count_connection`: a sync run has no tenant of its own. -/
def countsConnection (row : Row) : Bool :=
  row.connectionId = some connection.connectionId &&
    (row.table = .syncRun || row.tenantId = some connection.tenantId)

/-- The transactions that the preview knows of. -/
def ownsTransaction (row : Row) : Bool :=
  row.tenantId = some connection.tenantId &&
    (db.onAccounts connection row || row.connectionId = some connection.connectionId)

def ownedTransactionIds : List Uuid :=
  (db.rows.filter (on (db.ownsTransaction connection) .transaction)).map Row.id

/-- The queries of `count_accounts_table` and of `count_transaction_table`, which count
nothing where there are no accounts. -/
def countsAccounts (tables : List Table) : List (Row → Bool) :=
  if (db.accountIds connection).isEmpty then []
  else tables.map (on (db.onAccounts connection))

def countsTransactions : List (Row → Bool) :=
  if (db.accountIds connection).isEmpty then []
  else transactionModels.map (on fun row =>
    row.transactionIds.any (· ∈ db.ownedTransactionIds connection))

/-- The condition on card transactions, where the accounts are left out if there are none. -/
def countsCard (row : Row) : Bool :=
  row.tenantId = some connection.tenantId &&
    (row.connectionId = some connection.connectionId ||
      (!(db.accountIds connection).isEmpty && db.onAccounts connection row))

/-- The queries whose counts are added up to a number. -/
def counted : Number → List (Row → Bool)
  | .accounts => [on (carriesConnection connection) .account]
  | .transactions => [on (db.ownsTransaction connection) .transaction]
  | .cardTransactions => [on (db.countsCard connection) .cardTransaction]
  | .holdings => db.countsAccounts connection [.holding]
  | .balances => db.countsAccounts connection [.balance]
  | .otherRecords =>
      db.countsAccounts connection accountScopedModels ++ db.countsTransactions connection ++
        (connectionScopedModels ++ [Table.importRun]).map (on (countsConnection connection)) ++
        [isSchedule connection]

def preview (number : Number) : Nat :=
  ((db.counted connection number).map fun query => db.rows.countP query).sum

/-! ## What the preview promises -/


end Database

/-- The tables whose rows a number is about. -/
def Number.tables : Number → List Table
  | accounts => [.account]
  | transactions => [.transaction]
  | cardTransactions => [.cardTransaction]
  | holdings => [.holding]
  | balances => [.balance]
  | otherRecords =>
      [.taxLot, .scheduledPayment, .detectedSubscription, .reconciliationResult,
        .holdingRelevanceItem, .wealthfolioAccountMapping, .wealthfolioDelivery,
        .actualBudgetAccountMapping, .exportDelivery, .transactionLifecycleEvent,
        .transactionAnnotations, .transactionSourceReference, .transactionSplit,
        .transactionOverride, .syncCursor, .syncRun, .connectorState, .importRun,
        .syncSchedule]

namespace Database

variable (db : Database) (connection : Connection)

/-- The rows of a number's tables that are not there any more. -/
def removed (after : List Row) (number : Number) : List Row :=
  db.rows.filter fun row => row.table ∈ number.tables && row.key ∉ after.map Row.key

/-- Each number is the number of the rows that the deletion removes, and counts these
rows, each once. -/
def PreviewHolds : Prop :=
  ∃ after, db.delete connection = some after ∧
    ∀ number, db.preview connection number = (db.removed after number).length ∧
      (found db.rows (db.counted connection number)).Perm (db.removed after number)

/-- What the numbers would have to be clear of. -/
structure CountedOnce : Prop where
  noPositions : ∀ row ∈ db.rows, row.table ∈ [.holding, .balance] →
    ¬ db.onAccounts connection row
  noScheduledPayments : ∀ row ∈ db.rows, row.table = .scheduledPayment →
    ¬ carriesConnection connection row
  noSchedules : ∀ row ∈ db.rows, ¬ isSchedule connection row
  ownTransactions : ∀ row ∈ db.rows, row.table ∈ [.transaction, .cardTransaction] →
    db.onAccounts connection row → row.tenantId = some connection.tenantId
  ownRuns : ∀ row ∈ db.rows, row.table ∈ [.syncCursor, .connectorState, .importRun] →
    row.connectionId = some connection.connectionId →
      row.tenantId = some connection.tenantId
  accountsOrNoParts : (db.accountIds connection).isEmpty →
    ∀ row ∈ db.rows, row.table ∈ transactionModels →
      ∀ id ∈ row.transactionIds, ¬ db.TransactionGoes connection id

end Database

section Counts

open Database

variable {db : Database} {connection : Connection} {row : Row}

/-- The row of a key is gone exactly if it goes. -/
theorem key_not_mem_iff {after : List Row} (deleted : db.delete connection = some after)
    (isMem : row ∈ db.rows) :
    row.key ∉ after.map Row.key ↔ db.Goes connection row := by
  have keyOf : ∀ stays : Row, (disable connection (foreignKeys.clear
      (foreignKeys.gone db.rows (db.statements connection)) stays)).key = stays.key := by
    intro stays
    unfold disable
    split <;> rfl
  rw [delete_eq, Option.some.injEq] at deleted
  rw [← deleted, ForeignKeys.remaining, List.map_map, List.map_map, List.mem_map,
    not_iff_comm]
  simp only [Function.comp_apply, keyOf, List.mem_filter, kept_iff_not_goes]
  constructor
  · intro stays
    exact ⟨row, ⟨isMem, stays⟩, rfl⟩
  · rintro ⟨other, ⟨otherMem, stays⟩, sameKey⟩
    exact List.inj_on_of_nodup_map db.primaryKeys otherMem isMem sameKey ▸ stays

theorem nodup_rows (db : Database) : db.rows.Nodup := db.primaryKeys.of_map

/-- The promise of the preview, row by row. -/
theorem previewHolds_iff : db.PreviewHolds connection ↔
    ∀ number, ∀ row ∈ db.rows, (db.counted connection number).countP (· row) =
      if row.table ∈ number.tables ∧ db.Goes connection row then 1 else 0 := by
  have removed_eq : ∀ {after}, db.delete connection = some after → ∀ number : Number,
      db.removed after number = db.rows.filter fun row =>
        row.table ∈ number.tables ∧ db.Goes connection row := by
    intro after deleted number
    apply List.filter_congr
    intro row isMem
    rw [Bool.eq_iff_iff]
    simp only [Bool.and_eq_true, decide_eq_true_eq, key_not_mem_iff deleted isMem]
  constructor
  · rintro ⟨after, deleted, holds⟩ number
    have perm := (holds number).2
    rw [removed_eq deleted, found_perm_filter_iff (nodup_rows db)] at perm
    simpa only [decide_eq_true_eq] using perm
  · intro once
    obtain ⟨after, deleted⟩ : ∃ after, db.delete connection = some after := ⟨_, delete_eq⟩
    refine ⟨after, deleted, fun number => ?_⟩
    have perm : (found db.rows (db.counted connection number)).Perm
        (db.removed after number) := by
      rw [removed_eq deleted, found_perm_filter_iff (nodup_rows db)]
      simpa only [decide_eq_true_eq] using once number
    exact ⟨by rw [preview, ← length_found, perm.length_eq], perm⟩

/-- A query for each of the tables finds a row at most once. -/
theorem countP_map_on {tables : List Table} (nodup : tables.Nodup) {condition : Row → Bool} :
    (tables.map (on condition)).countP (· row) =
      if row.table ∈ tables ∧ condition row then 1 else 0 := by
  rw [List.countP_map]
  cases holds : condition row with
  | false => simp [Function.comp_def, on, holds]
  | true =>
      have isCount : tables.countP ((fun query => query row) ∘ on condition) =
          tables.count row.table := by
        apply List.countP_congr
        intro table _
        simp only [Function.comp_apply, on, holds, Bool.and_true, decide_eq_true_eq, beq_iff_eq]
        exact eq_comm
      rw [isCount, nodup.count]
      simp

theorem countP_countsAccounts {tables : List Table} (nodup : tables.Nodup) :
    (db.countsAccounts connection tables).countP (· row) =
      if row.table ∈ tables ∧ db.onAccounts connection row then 1 else 0 := by
  unfold countsAccounts
  split
  · rename_i noAccounts
    simp [not_onAccounts_of_isEmpty noAccounts]
  · rw [countP_map_on nodup]

/-- The row belongs to a transaction that the preview knows of. -/
def Database.OwnsPart (db : Database) (connection : Connection) (row : Row) : Prop :=
  (db.accountIds connection).isEmpty = false ∧
    ∃ id ∈ row.transactionIds, id ∈ db.ownedTransactionIds connection

instance : Decidable (db.OwnsPart connection row) := inferInstanceAs (Decidable (_ ∧ _))

theorem countP_countsTransactions :
    (db.countsTransactions connection).countP (· row) =
      if row.table ∈ transactionModels ∧ db.OwnsPart connection row then 1 else 0 := by
  unfold countsTransactions OwnsPart
  split
  · rename_i noAccounts
    simp [noAccounts]
  · rename_i someAccounts
    rw [countP_map_on (by decide)]
    simp [someAccounts]

/-- How often the other records count a row. -/
theorem countP_otherRecords :
    (db.counted connection .otherRecords).countP (· row) =
      (if row.table ∈ accountScopedModels ∧ db.onAccounts connection row then 1 else 0) +
        (if row.table ∈ transactionModels ∧ db.OwnsPart connection row then 1 else 0) +
        (if row.table ∈ connectionScopedModels ++ [.importRun] ∧
          countsConnection connection row then 1 else 0) +
        (if isSchedule connection row then 1 else 0) := by
  rw [counted, List.countP_append, List.countP_append, List.countP_append,
    countP_countsAccounts (by decide), countP_countsTransactions, countP_map_on (by decide),
    List.countP_singleton]

/-! ## Which rows go, table by table -/

theorem indicator_eq_iff {first second : Prop} [Decidable first] [Decidable second] :
    (if first then 1 else 0) = (if second then 1 else 0) ↔ (first ↔ second) := by
  by_cases holds : first
  · by_cases other : second <;> simp [holds, other]
  · by_cases other : second <;> simp [holds, other]

/-- The other records count the row as often as it goes. -/
structure OtherOnce (db : Database) (connection : Connection) (row : Row) : Prop where
  noPosition : row.table ∈ [.holding, .balance] → ¬ db.onAccounts connection row
  noScheduledPayment : row.table = .scheduledPayment → ¬ carriesConnection connection row
  noSchedule : ¬ isSchedule connection row
  ownRun : row.table ∈ [.syncCursor, .connectorState, .importRun] →
    row.connectionId = some connection.connectionId → row.tenantId = some connection.tenantId
  ownPart : row.table ∈ transactionModels →
    (db.OwnsPart connection row ↔ ∃ id ∈ row.transactionIds, db.TransactionGoes connection id)

theorem otherOnce_iff :
    (db.counted connection .otherRecords).countP (· row) =
        (if row.table ∈ Number.otherRecords.tables ∧ db.Goes connection row then 1 else 0) ↔
      OtherOnce db connection row := by
  have conditions : OtherOnce db connection row ↔
      (row.table ∈ [.holding, .balance] → ¬ db.onAccounts connection row) ∧
      (row.table = .scheduledPayment → ¬ carriesConnection connection row) ∧
      (¬ isSchedule connection row) ∧
      (row.table ∈ [.syncCursor, .connectorState, .importRun] →
        row.connectionId = some connection.connectionId →
        row.tenantId = some connection.tenantId) ∧
      (row.table ∈ transactionModels →
        (db.OwnsPart connection row ↔
          ∃ id ∈ row.transactionIds, db.TransactionGoes connection id)) :=
    ⟨fun ⟨a, b, c, d, e⟩ => ⟨a, b, c, d, e⟩, fun ⟨a, b, c, d, e⟩ => ⟨a, b, c, d, e⟩⟩
  rw [countP_otherRecords, conditions]
  cases isTable : row.table <;>
    simp [isTable, Goes, accountScopedModels, transactionModels, connectionScopedModels,
      Number.tables, accountModels, transactionParts, connectionModels, isSchedule,
      countsConnection, carriesConnection, indicator_eq_iff]
  -- a scheduled payment is counted by its connection as well
  exact imp.swap

/-- The ids of the connection's accounts are those of no other rows. -/
theorem mem_accountIds_iff (isMem : row ∈ db.rows) (isAccount : row.table = .account) :
    row.id ∈ db.accountIds connection ↔ carriesConnection connection row := by
  simp only [accountIds, List.mem_map, List.mem_filter, Bool.and_eq_true, decide_eq_true_eq,
    carriesConnection]
  constructor
  · rintro ⟨other, ⟨otherMem, ⟨otherAccount, tenant⟩, connects⟩, sameId⟩
    have same : other = row := List.inj_on_of_nodup_map db.primaryKeys otherMem isMem
      (by rw [Row.key, Row.key, otherAccount, isAccount, sameId])
    rw [← same]
    exact ⟨tenant, connects⟩
  · intro carries
    exact ⟨row, ⟨isMem, ⟨isAccount, carries.1⟩, carries.2⟩, rfl⟩

theorem accounts_once (isMem : row ∈ db.rows) :
    (db.counted connection .accounts).countP (· row) =
      if row.table ∈ Number.accounts.tables ∧ db.Goes connection row then 1 else 0 := by
  rw [counted, List.countP_singleton, indicator_eq_iff, on_iff]
  by_cases isAccount : row.table = .account
  · simp [Number.tables, isAccount, Goes, accountModels, transactionParts, connectionModels,
      mem_accountIds_iff isMem isAccount]
  · simp [Number.tables, isAccount]

/-- The transactions and the card transactions are counted as they go, as long as those
on the accounts are the tenant's own. -/
theorem transactions_once_iff :
    ((db.counted connection .transactions).countP (· row) =
        if row.table ∈ Number.transactions.tables ∧ db.Goes connection row then 1 else 0) ↔
      (row.table = .transaction → db.onAccounts connection row →
        row.tenantId = some connection.tenantId) := by
  rw [counted, List.countP_singleton, indicator_eq_iff, on_iff]
  by_cases isTransaction : row.table = .transaction
  · simp only [Number.tables, isTransaction, Goes, accountModels, transactionParts,
      connectionModels, ownsTransaction, carriesConnection]
    simp
    tauto
  · simp [Number.tables, isTransaction]

theorem cardTransactions_once_iff :
    ((db.counted connection .cardTransactions).countP (· row) =
        if row.table ∈ Number.cardTransactions.tables ∧ db.Goes connection row then 1 else 0) ↔
      (row.table = .cardTransaction → db.onAccounts connection row →
        row.tenantId = some connection.tenantId) := by
  have someAccounts : db.onAccounts connection row = true →
      ¬ db.accountIds connection = [] := by
    intro stands noAccounts
    rw [not_onAccounts_of_isEmpty (List.isEmpty_iff.mpr noAccounts)] at stands
    contradiction
  rw [counted, List.countP_singleton, indicator_eq_iff, on_iff]
  by_cases isCard : row.table = .cardTransaction
  · simp only [Number.tables, isCard, Goes, accountModels, transactionParts,
      connectionModels, countsCard, carriesConnection]
    simp
    tauto
  · simp [Number.tables, isCard]

theorem positions_once (number : Number) (isPosition : number = .holdings ∨ number = .balances) :
    (db.counted connection number).countP (· row) =
      if row.table ∈ number.tables ∧ db.Goes connection row then 1 else 0 := by
  cases isPosition with
  | inl isHoldings =>
      subst isHoldings
      rw [counted, countP_countsAccounts (List.nodup_singleton _), indicator_eq_iff]
      by_cases isHolding : row.table = .holding
      · simp [Number.tables, isHolding, Goes, accountModels, transactionParts, connectionModels]
      · simp [Number.tables, isHolding]
  | inr isBalances =>
      subst isBalances
      rw [counted, countP_countsAccounts (List.nodup_singleton _), indicator_eq_iff]
      by_cases isBalance : row.table = .balance
      · simp [Number.tables, isBalance, Goes, accountModels, transactionParts, connectionModels]
      · simp [Number.tables, isBalance]

/-- A part of a transaction is counted as it goes, once the transactions on the accounts
are the tenant's own, if there are accounts or no such part. -/
theorem ownsPart_iff (ownTransactions : ∀ row ∈ db.rows, row.table = .transaction →
      db.onAccounts connection row → row.tenantId = some connection.tenantId) :
    (db.OwnsPart connection row ↔
        ∃ id ∈ row.transactionIds, db.TransactionGoes connection id) ↔
      ((db.accountIds connection).isEmpty →
        ∀ id ∈ row.transactionIds, ¬ db.TransactionGoes connection id) := by
  have sameTransactions : ∀ id, id ∈ db.ownedTransactionIds connection ↔
      db.TransactionGoes connection id := by
    intro id
    simp only [ownedTransactionIds, ownsTransaction, TransactionGoes, carriesConnection,
      List.mem_map, List.mem_filter, on_iff, Bool.and_eq_true, Bool.or_eq_true,
      decide_eq_true_eq]
    constructor
    · rintro ⟨row, ⟨isMem, isTransaction, tenant, owned⟩, isId⟩
      exact ⟨row, isMem, isTransaction, isId, owned.imp_right fun connects =>
        ⟨tenant, connects⟩⟩
    · rintro ⟨row, isMem, isTransaction, isId, goes⟩
      cases goes with
      | inl stands =>
          exact ⟨row, ⟨isMem, isTransaction,
            ownTransactions row isMem isTransaction stands, Or.inl stands⟩, isId⟩
      | inr carries =>
          exact ⟨row, ⟨isMem, isTransaction, carries.1, Or.inr carries.2⟩, isId⟩
  unfold OwnsPart
  simp only [sameTransactions]
  cases (db.accountIds connection).isEmpty with
  | true => simp
  | false => simp

end Counts

/-- The preview tells the truth exactly if it counts nothing twice and nothing that is
kept: the connection has no holdings and balances, no scheduled payments and no ingestion
schedule, the rows at its accounts and of its runs are the tenant's own, and it has accounts
unless its transactions have no parts. -/
theorem previewHolds_iff_countedOnce (db : Database) (connection : Connection) :
    db.PreviewHolds connection ↔ db.CountedOnce connection := by
  rw [previewHolds_iff]
  constructor
  · intro once
    have other : ∀ row ∈ db.rows, OtherOnce db connection row :=
      fun row isMem => otherOnce_iff.mp (once .otherRecords row isMem)
    have ownTransactions : ∀ row ∈ db.rows, row.table = .transaction →
        db.onAccounts connection row → row.tenantId = some connection.tenantId :=
      fun row isMem => transactions_once_iff.mp (once .transactions row isMem)
    have ownCards : ∀ row ∈ db.rows, row.table = .cardTransaction →
        db.onAccounts connection row → row.tenantId = some connection.tenantId :=
      fun row isMem => cardTransactions_once_iff.mp (once .cardTransactions row isMem)
    exact
      { noPositions := fun row isMem => (other row isMem).noPosition
        noScheduledPayments := fun row isMem => (other row isMem).noScheduledPayment
        noSchedules := fun row isMem => (other row isMem).noSchedule
        ownTransactions := by
          intro row isMem isTable
          rw [List.mem_pair] at isTable
          cases isTable with
          | inl isTransaction => exact ownTransactions row isMem isTransaction
          | inr isCard => exact ownCards row isMem isCard
        ownRuns := fun row isMem => (other row isMem).ownRun
        accountsOrNoParts := fun noAccounts row isMem isPart =>
          (ownsPart_iff ownTransactions).mp ((other row isMem).ownPart isPart) noAccounts }
  · intro clear number row isMem
    have ownTransactions : ∀ row ∈ db.rows, row.table = .transaction →
        db.onAccounts connection row → row.tenantId = some connection.tenantId :=
      fun row isMem isTransaction =>
        clear.ownTransactions row isMem (List.mem_pair.mpr (Or.inl isTransaction))
    cases number with
    | accounts => exact accounts_once isMem
    | transactions => exact transactions_once_iff.mpr (ownTransactions row isMem)
    | cardTransactions =>
        exact cardTransactions_once_iff.mpr fun isCard =>
          clear.ownTransactions row isMem (List.mem_pair.mpr (Or.inr isCard))
    | holdings => exact positions_once .holdings (Or.inl rfl)
    | balances => exact positions_once .balances (Or.inr rfl)
    | otherRecords =>
        exact otherOnce_iff.mpr
          { noPosition := clear.noPositions row isMem
            noScheduledPayment := clear.noScheduledPayments row isMem
            noSchedule := clear.noSchedules row isMem
            ownRun := clear.ownRuns row isMem
            ownPart := fun isPart => (ownsPart_iff ownTransactions).mpr fun noAccounts =>
              clear.accountsOrNoParts noAccounts row isMem isPart }

/-- A connection with an account that holds one position. -/
def oneHolding : Database where
  rows :=
    [{ table := .credential, id := 7, tenantId := some 1 },
      { table := .account, id := 1, tenantId := some 1, connectionId := some 7 },
      { table := .holding, id := 2, tenantId := some 1, accountId := some 1 }]
  primaryKeys := by decide
  columns := by decide

/-- The position is counted among the holdings and among the other records. -/
theorem oneHolding_not_previewHolds : ¬ oneHolding.PreviewHolds ⟨1, 7⟩ := by
  rintro ⟨after, deleted, holds⟩
  have removesNothing : ∀ after : List Row, (oneHolding.removed after .otherRecords).length = 0 :=
    fun _ => rfl
  have counts : oneHolding.preview ⟨1, 7⟩ .otherRecords = 0 :=
    (holds .otherRecords).1.trans (removesNothing after)
  exact absurd counts (by decide)

end FinanceSync.Deletion
