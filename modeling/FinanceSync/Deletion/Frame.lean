import FinanceSync.Deletion.Preview

/-!
# What a deletion leaves alone

A deletion leaves no reference to what it deletes, but what it deletes need not
belong to the connection.
-/

namespace FinanceSync.Deletion

open Lib

namespace Database

variable (db : Database) (connection : Connection)

/-- The row carries the id of the connection, or none and stands on one of its accounts. -/
def OwnedDirectly (row : Row) : Prop :=
  row.tenantId = some connection.tenantId ∧
    (row.connectionId = some connection.connectionId ∨
      row.connectionId = none ∧ db.onAccounts connection row)

/-- The rows of the connection: besides those that it owns directly the parts of its
transactions, its runs, which have no tenant, its schedules, and its credential. -/
def Belongs (row : Row) : Prop :=
  db.OwnedDirectly connection row ∨
    (row.tenantId = some connection.tenantId ∧ ∃ id ∈ row.transactionIds,
      ∃ transaction ∈ db.rows, transaction.table = .transaction ∧ transaction.id = id ∧
        db.OwnedDirectly connection transaction) ∨
    (row.table = .syncRun ∧ row.connectionId = some connection.connectionId) ∨
    isSchedule connection row ∨
    (row.table = .credential ∧ row.id = connection.connectionId)

/-- The row stands on an account of the connection, refers to a transaction that is
deleted, or is of a run of the connection. -/
def Hangs (row : Row) : Prop :=
  db.onAccounts connection row ∨
    (∃ id ∈ row.transactionIds, db.TransactionGoes connection id) ∨
    (∃ id, some id ∈ row.clearedTransactionIds ∧ db.TransactionGoes connection id) ∨
    (row.table ∈ connectionModels ∧ row.connectionId = some connection.connectionId)

end Database

/-- The row refers to the account or transaction. -/
def Row.RefersTo (row : Row) (owner : RowKey) : Prop :=
  (owner.1 = .account ∧ row.accountId = some owner.2) ∨
    (owner.1 = .transaction ∧
      (owner.2 ∈ row.transactionIds ∨ some owner.2 ∈ row.clearedTransactionIds))

namespace Database

variable (db : Database) (connection : Connection)

/-- No row that remains refers to an account or a transaction that was deleted. -/
def NoOrphans (after : List Row) : Prop :=
  ∀ row ∈ after, ∀ owner ∈ db.rows.map Row.key, owner ∉ after.map Row.key →
    ¬ row.RefersTo owner

/-- Every row that does not belong to the connection is as it was. -/
def LeavesOthers (after : List Row) : Prop :=
  ∀ row ∈ db.rows, ¬ db.Belongs connection row → row ∈ after

def DeletesOwn : Prop :=
  ∃ after, db.delete connection = some after ∧ db.NoOrphans after ∧
    db.LeavesOthers connection after

end Database

section Remaining

open Database

variable {db : Database} {connection : Connection} {row : Row}

theorem disable_key : (disable connection row).key = row.key := by
  unfold disable
  split <;> rfl

/-- The row after the deletion. -/
def leftOf (db : Database) (connection : Connection) (row : Row) : Row :=
  disable connection (row.clear (foreignKeys.gone db.rows (db.statements connection)))

theorem mem_after_iff {after : List Row} (deleted : db.delete connection = some after) {left : Row} :
    left ∈ after ↔ ∃ row ∈ db.rows, ¬ db.Goes connection row ∧
      leftOf db connection row = left := by
  rw [delete_eq, Option.some.injEq] at deleted
  rw [← deleted, ForeignKeys.remaining, List.map_map]
  simp only [List.mem_map, List.mem_filter, kept_iff_not_goes, and_assoc, Function.comp_apply]
  rfl

/-- The accounts that are deleted. -/
theorem gone_account_iff {id : Uuid} :
    foreignKeys.gone db.rows (db.statements connection) (.account, id) ↔
      id ∈ db.accountIds connection := by
  simp only [ForeignKeys.gone, List.any_eq_true, Bool.and_eq_true, decide_eq_true_eq]
  constructor
  · rintro ⟨row, _, hits, isKey⟩
    have isAccount : row.table = .account := congrArg Prod.fst isKey
    rw [hit_account_iff isAccount] at hits
    have isId : row.id = id := congrArg Prod.snd isKey
    exact isId ▸ hits
  · intro owned
    obtain ⟨row, found, isId⟩ := List.mem_map.mp owned
    obtain ⟨isMem, holds⟩ := List.mem_filter.mp found
    simp only [Bool.and_eq_true, decide_eq_true_eq] at holds
    refine ⟨row, isMem, ?_, Prod.ext holds.1.1 isId⟩
    rw [hit_account_iff holds.1.1, isId]
    exact owned

theorem gone_transaction_iff {id : Uuid} :
    foreignKeys.gone db.rows (db.statements connection) (.transaction, id) ↔
      db.TransactionGoes connection id := by
  simp only [ForeignKeys.gone, List.any_eq_true, Bool.and_eq_true, decide_eq_true_eq]
  constructor
  · rintro ⟨row, isMem, hits, isKey⟩
    have isTransaction : row.table = .transaction := congrArg Prod.fst isKey
    rw [hit_transaction_iff isTransaction] at hits
    exact ⟨row, isMem, isTransaction, congrArg Prod.snd isKey, hits⟩
  · rintro ⟨row, isMem, isTransaction, isId, goes⟩
    exact ⟨row, isMem, (hit_transaction_iff isTransaction).mpr goes,
      Prod.ext isTransaction isId⟩

theorem key_leftOf : (leftOf db connection row).key = row.key := disable_key

theorem transactionIds_leftOf : (leftOf db connection row).transactionIds = row.transactionIds := by
  unfold leftOf disable
  split <;> rfl

/-- The reference to an account that a row has after the deletion. -/
theorem accountId_leftOf {id : Uuid} : (leftOf db connection row).accountId = some id ↔
    row.accountId = some id ∧ (row.table ∈ clearedTables → id ∉ db.accountIds connection) := by
  have same : (leftOf db connection row).accountId =
      (row.clear (foreignKeys.gone db.rows (db.statements connection))).accountId := by
    unfold leftOf disable
    split <;> rfl
  rw [same, Row.clear, ← gone_account_iff]
  dsimp only
  by_cases isCleared : row.table ∈ clearedTables
  · simp only [isCleared, if_true, Option.filter_eq_some_iff, Bool.not_eq_true',
      true_imp_iff, Bool.not_eq_true]
  · simp [isCleared]

/-- The references to transactions that a row may lose. -/
theorem clearedTransactionIds_leftOf :
    (leftOf db connection row).clearedTransactionIds =
      row.clearedTransactionIds.map (·.filter fun id =>
        !foreignKeys.gone db.rows (db.statements connection) (.transaction, id)) := by
  unfold leftOf disable
  split <;> rfl

/-- What stands on an account of the connection goes, or loses the reference. -/
theorem goes_or_cleared (columns : row.HasColumns) (stands : db.onAccounts connection row) :
    db.Goes connection row ∨ row.table ∈ clearedTables := by
  have hasAccount : row.accountId.isSome := by
    unfold onAccounts at stands
    cases isId : row.accountId with
    | none => rw [isId] at stands; contradiction
    | some id => rfl
  cases List.mem_cons.mp (columns.1 hasAccount) with
  | inl isRun =>
      right
      rw [isRun]
      decide
  | inr isModel => exact Or.inl (Or.inr (Or.inl ⟨isModel, stands⟩))

theorem goes_of_part (columns : row.HasColumns) {id : Uuid} (isPart : id ∈ row.transactionIds)
    (goes : db.TransactionGoes connection id) : db.Goes connection row :=
  Or.inl ⟨columns.2 (List.ne_nil_of_mem isPart), id, isPart, goes⟩

/-- An account or transaction that is not there any more has been deleted. -/
theorem gone_of_key_not_mem {after : List Row} (deleted : db.delete connection = some after)
    {owner : RowKey} (wasThere : owner ∈ db.rows.map Row.key)
    (isGone : owner ∉ after.map Row.key) :
    (owner.1 = .account → owner.2 ∈ db.accountIds connection) ∧
      (owner.1 = .transaction → db.TransactionGoes connection owner.2) := by
  obtain ⟨row, isMem, isKey⟩ := List.mem_map.mp wasThere
  subst isKey
  have goes := (key_not_mem_iff deleted isMem).mp isGone
  rw [← not_not (a := db.Goes connection row), ← kept_iff_not_goes, ForeignKeys.kept_iff] at goes
  have leaf : row.key.1 = .account ∨ row.key.1 = .transaction →
      ForeignKeys.hit (db.statements connection) row := by
    intro isOwner
    by_contra misses
    apply goes
    refine ⟨misses, fun gone _ _ cascades => ?_⟩
    have notOwner := Row.table_of_cascades cascades
    cases isOwner with
    | inl isAccount => exact notOwner.1 isAccount
    | inr isTransaction => exact notOwner.2.1 isTransaction
  constructor
  · intro isAccount
    exact (hit_account_iff isAccount).mp (leaf (Or.inl isAccount))
  · intro isTransaction
    exact ⟨row, isMem, isTransaction, rfl,
      (hit_transaction_iff isTransaction).mp (leaf (Or.inr isTransaction))⟩

/-- The deletion leaves no orphans. -/
theorem noOrphans {after : List Row} (deleted : db.delete connection = some after) :
    db.NoOrphans after := by
  intro left leftMem owner wasThere isGone refers
  obtain ⟨row, isMem, stays, isLeft⟩ := (mem_after_iff deleted).mp leftMem
  subst isLeft
  have columns := db.columns row isMem
  obtain ⟨account, transaction⟩ := gone_of_key_not_mem deleted wasThere isGone
  cases refers with
  | inl byAccount =>
      obtain ⟨standsOn, kept⟩ := accountId_leftOf.mp byAccount.2
      have owned := account byAccount.1
      have stands : db.onAccounts connection row := by
        rw [onAccounts, standsOn]
        exact decide_eq_true owned
      cases goes_or_cleared columns stands with
      | inl goes => exact stays goes
      | inr isCleared => exact kept isCleared owned
  | inr byTransaction =>
      have goes := transaction byTransaction.1
      cases byTransaction.2 with
      | inl isPart =>
          rw [transactionIds_leftOf] at isPart
          exact stays (goes_of_part columns isPart goes)
      | inr refersTo =>
          rw [clearedTransactionIds_leftOf] at refersTo
          obtain ⟨reference, _, isKept⟩ := List.mem_map.mp refersTo
          rw [Option.filter_eq_some_iff] at isKept
          simp [gone_transaction_iff.mpr goes] at isKept

/-- A row that neither belongs to the connection nor hangs on it stays. -/
theorem not_goes_of_not_hangs (isMem : row ∈ db.rows)
    (foreign : ¬ db.Belongs connection row) (free : ¬ db.Hangs connection row) :
    ¬ db.Goes connection row := by
  have notCarries : ¬ carriesConnection connection row := by
    intro carries
    simp only [carriesConnection, Bool.and_eq_true, decide_eq_true_eq] at carries
    exact foreign (Or.inl ⟨carries.1, Or.inl carries.2⟩)
  unfold Goes
  rintro (⟨_, part⟩ | ⟨_, stands⟩ | ⟨isAccount, owned⟩ | ⟨_, carries⟩ | run | credential)
  · exact free (Or.inr (Or.inl part))
  · exact free (Or.inl stands)
  · exact notCarries ((mem_accountIds_iff isMem isAccount).mp owned)
  · exact notCarries carries
  · exact free (Or.inr (Or.inr (Or.inr run)))
  · exact foreign (Or.inr (Or.inr (Or.inr (Or.inr credential))))

theorem leftOf_eq_of_not_hangs (foreign : ¬ db.Belongs connection row)
    (free : ¬ db.Hangs connection row) : leftOf db connection row = row := by
  have noSchedule : ¬ isSchedule connection row :=
    fun schedule => foreign (Or.inr (Or.inr (Or.inr (Or.inl schedule))))
  have sameAccount : row.accountId.filter (fun id =>
      !foreignKeys.gone db.rows (db.statements connection) (.account, id)) = row.accountId := by
    cases standsOn : row.accountId with
    | none => rfl
    | some id =>
        rw [Option.filter_some, if_pos]
        rw [Bool.not_eq_true', ← Bool.not_eq_true, gone_account_iff]
        intro owned
        apply free
        left
        rw [onAccounts, standsOn]
        exact decide_eq_true owned
  have sameReferences : row.clearedTransactionIds.map (·.filter fun id =>
      !foreignKeys.gone db.rows (db.statements connection) (.transaction, id)) =
        row.clearedTransactionIds := by
    conv_rhs => rw [← List.map_id row.clearedTransactionIds]
    apply List.map_congr_left
    intro reference refersTo
    cases reference with
    | none => rfl
    | some id =>
        rw [Option.filter_some, if_pos]
        · rfl
        · rw [Bool.not_eq_true', ← Bool.not_eq_true, gone_transaction_iff]
          exact fun goes => free (Or.inr (Or.inr (Or.inl ⟨id, refersTo, goes⟩)))
  have sameRow : row.clear (foreignKeys.gone db.rows (db.statements connection)) = row := by
    rw [Row.clear, sameAccount, sameReferences, ite_self]
  rw [leftOf, sameRow, disable, if_neg noSchedule]

/-- What hangs on the connection does not stay as it was. -/
theorem leftOf_ne_of_hangs (columns : row.HasColumns) (hangs : db.Hangs connection row)
    (stays : ¬ db.Goes connection row) : leftOf db connection row ≠ row := by
  intro same
  unfold Hangs at hangs
  rcases hangs with stands | ⟨id, isPart, goes⟩ | ⟨id, refersTo, goes⟩ | run
  · cases goes_or_cleared columns stands with
    | inl goes => exact stays goes
    | inr isCleared =>
        cases standsOn : row.accountId with
        | none => rw [onAccounts, standsOn] at stands; contradiction
        | some id =>
            have keepsReference : (leftOf db connection row).accountId = some id := by
              rw [same, standsOn]
            rw [onAccounts, standsOn] at stands
            exact (accountId_leftOf.mp keepsReference).2 isCleared (of_decide_eq_true stands)
  · exact stays (goes_of_part columns isPart goes)
  · have refersToLeft : some id ∈ (leftOf db connection row).clearedTransactionIds := by
      rw [same]
      exact refersTo
    rw [clearedTransactionIds_leftOf] at refersToLeft
    obtain ⟨reference, _, isKept⟩ := List.mem_map.mp refersToLeft
    rw [Option.filter_eq_some_iff] at isKept
    simp [gone_transaction_iff.mpr goes] at isKept
  · exact stays (Or.inr (Or.inr (Or.inr (Or.inr (Or.inl run)))))

/-- A row that does not belong to the connection is as it was exactly if it does not hang
on the connection. -/
theorem mem_after_iff_not_hangs {after : List Row}
    (deleted : db.delete connection = some after) (isMem : row ∈ db.rows)
    (foreign : ¬ db.Belongs connection row) : row ∈ after ↔ ¬ db.Hangs connection row := by
  rw [mem_after_iff deleted]
  constructor
  · rintro ⟨other, otherMem, stays, same⟩ hangs
    have isRow : other = row := by
      apply List.inj_on_of_nodup_map db.primaryKeys otherMem isMem
      rw [← same, key_leftOf]
    subst isRow
    exact leftOf_ne_of_hangs (db.columns other otherMem) hangs stays same
  · intro free
    exact ⟨row, isMem, not_goes_of_not_hangs isMem foreign free,
      leftOf_eq_of_not_hangs foreign free⟩

end Remaining

/-- A deletion leaves no orphans, and nothing else is touched exactly if every row that
stands on an account of the connection, refers to one of the deleted transactions or is
of a run of the connection belongs to it. -/
theorem deletesOwn_iff (db : Database) (connection : Connection) :
    db.DeletesOwn connection ↔
      ∀ row ∈ db.rows, db.Hangs connection row → db.Belongs connection row := by
  constructor
  · rintro ⟨after, deleted, _, leavesOthers⟩ row isMem hangs
    by_contra foreign
    exact (mem_after_iff_not_hangs deleted isMem foreign).mp
      (leavesOthers row isMem foreign) hangs
  · intro owned
    obtain ⟨after, deleted⟩ : ∃ after, db.delete connection = some after := ⟨_, delete_eq⟩
    refine ⟨after, deleted, noOrphans deleted, fun row isMem foreign => ?_⟩
    rw [mem_after_iff_not_hangs deleted isMem foreign]
    exact fun hangs => foreign (owned row isMem hangs)

/-- A transaction of the second of two connections of a tenant. -/
def sharedTransaction : Row where
  table := .transaction
  id := 2
  tenantId := some 1
  accountId := some 1
  connectionId := some 8

/-- It stands on the account of the first one. -/
def sharedAccount : Database where
  rows :=
    [{ table := .credential, id := 7, tenantId := some 1 },
      { table := .credential, id := 8, tenantId := some 1 },
      { table := .account, id := 1, tenantId := some 1, connectionId := some 7 },
      sharedTransaction]
  primaryKeys := by decide
  columns := by decide

/-- The deletion of the first connection deletes the transaction of the second. -/
theorem sharedAccount_not_deletesOwn : ¬ sharedAccount.DeletesOwn ⟨1, 7⟩ := by
  rintro ⟨after, deleted, _, leavesOthers⟩
  have isMem : sharedTransaction ∈ sharedAccount.rows := by decide
  have foreign : ¬ sharedAccount.Belongs ⟨1, 7⟩ sharedTransaction := by
    unfold Database.Belongs Database.OwnedDirectly
    decide
  have hangs : sharedAccount.Hangs ⟨1, 7⟩ sharedTransaction := Or.inl (by decide)
  exact (mem_after_iff_not_hangs deleted isMem foreign).mp
    (leavesOthers sharedTransaction isMem foreign) hangs

end FinanceSync.Deletion
