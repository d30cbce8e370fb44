import FinanceSync.Visibility.Agreement

/-!
# Writes and tenant-wide reads seen from a scope

A write changes one transaction and attaches rows to it.  Databases that agree
within a scope still do after the same write, and where the transaction is visible
nothing outside the scope changes.
-/

namespace FinanceSync.Visibility

open Lib Auth

variable {scope : ReadScope} {db first second : Database} {transaction : Transaction}

namespace Database

/-! ## Outside the scope -/

def hiddenTransactions (db : Database) (scope : ReadScope) : List Transaction :=
  db.transactions.rows.filter fun transaction => !db.isVisibleTransaction scope transaction

def hiddenAttached (db : Database) (scope : ReadScope) (table : AttachedTable) : List Attached :=
  (db.attached table).filter fun row =>
    !row.transactionId.any (· ∈ (db.visibleTransactions scope).map Transaction.id)

/-- Neither a transaction outside the scope nor what is attached to one differs. -/
def Untouched (scope : ReadScope) (before after : Database) : Prop :=
  before.hiddenTransactions scope = after.hiddenTransactions scope ∧
    ∀ table, before.hiddenAttached scope table = after.hiddenAttached scope table

theorem Untouched.refl (scope : ReadScope) (db : Database) : db.Untouched scope db :=
  ⟨rfl, fun _ => rfl⟩

/-- The transaction that was found is outside the scope. -/
def hides (db : Database) (scope : ReadScope) (found : Option Transaction) : Bool :=
  found.any fun transaction => !db.isVisibleTransaction scope transaction

/-! ## Committing -/

theorem mem_visibleIds_iff (stored : transaction ∈ db.transactions.rows) :
    transaction.id ∈ (db.visibleTransactions scope).map Transaction.id ↔
      db.isVisibleTransaction scope transaction := by
  constructor
  · intro isMem
    obtain ⟨other, otherMem, sameId⟩ := List.mem_map.mp isMem
    rw [visibleTransactions, List.mem_filter] at otherMem
    rw [← db.transactions.eq_of_key_eq otherMem.1 stored sameId]
    exact otherMem.2
  · intro isVisible
    apply List.mem_map_of_mem
    rw [visibleTransactions, List.mem_filter]
    exact ⟨stored, isVisible⟩

variable (write : Write transaction)

@[simp] theorem isVisibleTransaction_commit :
    (db.commit transaction write).isVisibleTransaction scope = db.isVisibleTransaction scope := rfl

/-- A write leaves a transaction inside or outside the scope as it was. -/
theorem isVisibleTransaction_changed :
    db.isVisibleTransaction scope write.changed = db.isVisibleTransaction scope transaction := by
  simp only [isVisibleTransaction, write.sameRow.2.1, write.sameRow.2.2]

/-- The visible transactions after a write, read off those before it. -/
theorem visibleTransactions_commit (stored : transaction ∈ db.transactions.rows) :
    (db.commit transaction write).visibleTransactions scope =
      (db.visibleTransactions scope).map fun row =>
        if row.id = write.changed.id then write.changed else row :=
  Table.filter_save stored write.sameRow.1 (isVisibleTransaction_changed write)

theorem visibleIds_commit (stored : transaction ∈ db.transactions.rows) :
    ((db.commit transaction write).visibleTransactions scope).map Transaction.id =
      (db.visibleTransactions scope).map Transaction.id := by
  rw [visibleTransactions_commit write stored, List.map_map]
  apply List.map_congr_left
  intro row _
  rw [Function.comp_apply]
  split
  · next same => exact same.symm
  · rfl

/-- The rows that a write attaches in a table. -/
def attachedBy (table : AttachedTable) : List Attached :=
  (write.rows.filter fun row => row.table = table).map (·.attachTo transaction)

/-- A condition on the transaction that a row belongs to lets through all rows of a
write, or none. -/
theorem filter_attachedBy (table : AttachedTable) (condition : Uuid → Bool) :
    (attachedBy write table).filter (fun row => row.transactionId.any condition) =
      if condition transaction.id then attachedBy write table else [] := by
  have belongs : ∀ row ∈ attachedBy write table,
      row.transactionId.any condition = condition transaction.id := by
    intro row isMem
    obtain ⟨added, _, rfl⟩ := List.mem_map.mp isMem
    rfl
  split
  · next lets =>
      apply List.filter_eq_self.mpr
      intro row isMem
      rw [belongs row isMem, lets]
  · next lets =>
      apply List.filter_eq_nil_iff.mpr
      intro row isMem
      rw [belongs row isMem]
      exact lets

theorem visibleAttached_commit (stored : transaction ∈ db.transactions.rows)
    (table : AttachedTable) :
    (db.commit transaction write).visibleAttached scope table =
      db.visibleAttached scope table ++
        if db.isVisibleTransaction scope transaction then attachedBy write table else [] := by
  rw [visibleAttached, visibleIds_commit write stored]
  have appended : (db.commit transaction write).attached table =
      db.attached table ++ attachedBy write table := rfl
  rw [appended, List.filter_append, filter_attachedBy]
  congr 1
  simp [mem_visibleIds_iff stored]

/-- A write outside the scope cannot be seen within it. -/
theorem agree_commit_hidden (stored : transaction ∈ db.transactions.rows)
    (hidden : db.isVisibleTransaction scope transaction = false) :
    db.Agree scope (db.commit transaction write) := by
  refine ⟨rfl, ?_, ?_, rfl, rfl, rfl, rfl, rfl⟩
  · exact (Table.filter_save_of_hidden stored write.sameRow.1 hidden
      ((isVisibleTransaction_changed write).trans hidden)).symm
  · intro table
    rw [visibleAttached_commit write stored, hidden, if_neg (by simp), List.append_nil]

/-- The same write within the scope keeps the agreement. -/
theorem Agree.commit (agree : first.Agree scope second)
    (firstStored : transaction ∈ first.transactions.rows)
    (secondStored : transaction ∈ second.transactions.rows) :
    (first.commit transaction write).Agree scope (second.commit transaction write) := by
  refine ⟨agree.accounts, ?_, ?_, agree.holdings, agree.taxLots, agree.securities, agree.prices,
    agree.credentials⟩
  · rw [visibleTransactions_commit write firstStored, visibleTransactions_commit write secondStored,
      agree.transactions]
  · intro table
    rw [visibleAttached_commit write firstStored, visibleAttached_commit write secondStored,
      agree.attached, agree.isVisibleTransaction]

/-- A write within the scope changes nothing outside it. -/
theorem untouched_commit (stored : transaction ∈ db.transactions.rows)
    (isVisible : db.isVisibleTransaction scope transaction) :
    db.Untouched scope (db.commit transaction write) := by
  constructor
  · apply Eq.symm
    apply Table.filter_save_of_hidden stored write.sameRow.1
    · simp [isVisible]
    · simp [isVisibleTransaction_changed, isVisible]
  · intro table
    have appended : (db.commit transaction write).attached table =
        db.attached table ++ attachedBy write table := rfl
    rw [hiddenAttached, hiddenAttached, visibleIds_commit write stored, appended,
      List.filter_append]
    apply Eq.symm
    apply List.append_right_eq_self.mpr
    apply List.filter_eq_nil_iff.mpr
    intro row isMem
    obtain ⟨added, _, rfl⟩ := List.mem_map.mp isMem
    simpa [NewRow.attachTo] using (mem_visibleIds_iff stored).mpr isVisible

/-! ## Finding -/

/-- An account lookup for a visible transaction finds the same account. -/
theorem Agree.find_account (agree : first.Agree scope second)
    (isVisible : first.isVisibleTransaction scope transaction) {condition : Account → Bool}
    (byId : ∀ account, condition account → account.id = transaction.accountId) :
    first.accounts.rows.find? condition = second.accounts.rows.find? condition := by
  have inView : ∀ {db : Database}, db.isVisibleTransaction scope transaction →
      ∀ account ∈ db.accounts.rows, condition account → scope.isVisible account := by
    intro db isVisible account stored isFound
    simp only [Database.isVisibleTransaction, Bool.and_eq_true, decide_eq_true_eq] at isVisible
    obtain ⟨own, ownMem, sameId⟩ := List.mem_map.mp isVisible.2
    rw [visibleAccounts, List.mem_filter] at ownMem
    have same := db.accounts.eq_of_key_eq ownMem.1 stored (sameId.trans (byId account isFound).symm)
    exact same ▸ ownMem.2
  apply find?_of_views agree.accounts (inView isVisible)
  rw [agree.isVisibleTransaction] at isVisible
  exact inView isVisible

theorem Agree.bankAccount (agree : first.Agree scope second)
    (isVisible : first.isVisibleTransaction scope transaction) :
    first.bankAccount transaction = second.bankAccount transaction := by
  apply agree.find_account isVisible
  intro account isFound
  simp only [Bool.and_eq_true, decide_eq_true_eq] at isFound
  exact isFound.1.1

theorem Agree.isBankTransaction (agree : first.Agree scope second)
    (isVisible : first.isVisibleTransaction scope transaction) (tenantId : Uuid) :
    first.isBankTransaction tenantId transaction =
      second.isBankTransaction tenantId transaction := by
  rw [Database.isBankTransaction, Database.isBankTransaction, agree.bankAccount isVisible]

theorem Agree.stored (agree : first.Agree scope second)
    (stored : transaction ∈ first.transactions.rows)
    (isVisible : first.isVisibleTransaction scope transaction) :
    transaction ∈ second.transactions.rows := by
  have isMem : transaction ∈ first.visibleTransactions scope :=
    List.mem_filter.mpr ⟨stored, isVisible⟩
  rw [agree.transactions] at isMem
  exact (List.mem_filter.mp isMem).1

theorem find_stored {tenantId transactionId : Uuid} (request : WriteRequest)
    (found : request.find db tenantId transactionId = some transaction) :
    transaction ∈ db.transactions.rows ∧ transaction.id = transactionId := by
  cases request <;>
    · have stored := List.mem_of_find?_eq_some found
      have isFound := List.find?_some found
      simp only [Bool.and_eq_true, decide_eq_true_eq] at isFound
      exact ⟨stored, isFound.1⟩

/-- A visible transaction that is found in one database is found in the other. -/
theorem Agree.find (agree : first.Agree scope second) {tenantId transactionId : Uuid}
    (request : WriteRequest)
    (found : request.find first tenantId transactionId = some transaction)
    (isVisible : first.isVisibleTransaction scope transaction) :
    request.find second tenantId transactionId = some transaction := by
  have stored := find_stored request found
  have byKey : ∀ (condition : Transaction → Bool), (∀ other, condition other →
      other.id = transactionId) → condition transaction →
      second.transactions.rows.find? condition = some transaction := by
    intro condition byId isFound
    apply Table.find?_eq_some (agree.stored stored.1 isVisible) isFound
    intro other _ otherFound
    rw [byId other otherFound, stored.2]
  cases request with
  | classifyBunqOther category =>
      have isFound := List.find?_some found
      rw [agree.isBankTransaction isVisible] at isFound
      apply byKey _ _ isFound
      intro other otherFound
      simp only [Bool.and_eq_true, decide_eq_true_eq] at otherFound
      exact otherFound.1
  | _ =>
      apply byKey _ _ (List.find?_some found)
      intro other otherFound
      simp only [Bool.and_eq_true, decide_eq_true_eq] at otherFound
      exact otherFound.1

/-- Where neither database finds a transaction outside the scope, both find the
same. -/
theorem Agree.find_eq (agree : first.Agree scope second) {tenantId transactionId : Uuid}
    (request : WriteRequest)
    (firstShown : first.hides scope (request.find first tenantId transactionId) = false)
    (secondShown : second.hides scope (request.find second tenantId transactionId) = false) :
    request.find first tenantId transactionId = request.find second tenantId transactionId := by
  cases foundFirst : request.find first tenantId transactionId with
  | some transaction =>
      rw [foundFirst, hides, Option.any_some, Bool.not_eq_false'] at firstShown
      rw [agree.find request foundFirst firstShown]
  | none =>
      cases foundSecond : request.find second tenantId transactionId with
      | none => rfl
      | some transaction =>
          rw [foundSecond, hides, Option.any_some, Bool.not_eq_false'] at secondShown
          rw [agree.symm.find request foundSecond secondShown] at foundFirst
          cases foundFirst

theorem Agree.attachedTo (agree : first.Agree scope second)
    (stored : transaction ∈ first.transactions.rows)
    (isVisible : first.isVisibleTransaction scope transaction) :
    first.attachedTo transaction = second.attachedTo transaction := by
  have inView : ∀ {db : Database}, transaction ∈ db.transactions.rows →
      db.isVisibleTransaction scope transaction → ∀ table,
      (db.visibleAttached scope table).filter (fun row =>
          row.transactionId = some transaction.id && row.tenantId = transaction.tenantId) =
        db.attachedTo transaction table := by
    intro db stored isVisible table
    apply filter_filter_of_imp
    intro row _ belongs
    simp only [Bool.and_eq_true, decide_eq_true_eq] at belongs
    rw [belongs.1, Option.any_some, decide_eq_true_eq, mem_visibleIds_iff stored]
    exact isVisible
  funext table
  rw [← inView stored isVisible, agree.attached]
  apply inView (agree.stored stored isVisible)
  rw [← agree.isVisibleTransaction]
  exact isVisible

end Database

end FinanceSync.Visibility
