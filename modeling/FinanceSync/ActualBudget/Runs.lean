import FinanceSync.ActualBudget.Exporter

/-!
# What a run leaves in the budget

A run resolves every account to one name in Actual Budget and keeps it.  The
transfers and the imported rows after the run are those before it with the legs
booked, and the payloads imported, of one account after the other.
-/

namespace FinanceSync.ActualBudget

open Lib

variable {runtime : Runtime} {run : ExportRun}

/-! ## Resolved accounts -/

/-- An account is mapped to an Actual account that exists. -/
def Resolved (state : ExportState) (account : Account) (name : String) : Prop :=
  state.mappings account.id = some name ∧ name ∈ state.budget.accounts

theorem mem_getOrCreateAccount (budget : Budget) (name : String) :
    name ∈ (budget.getOrCreateAccount name).accounts := by
  rw [Budget.getOrCreateAccount]
  split
  · next known => exact known
  · simp

theorem accounts_subset_getOrCreateAccount (budget : Budget) (name : String) :
    budget.accounts ⊆ (budget.getOrCreateAccount name).accounts := by
  rw [Budget.getOrCreateAccount]
  split
  · simp
  · simp

@[simp] theorem transfers_getOrCreateAccount (budget : Budget) (name : String) :
    (budget.getOrCreateAccount name).transfers = budget.transfers := by
  rw [Budget.getOrCreateAccount]
  split
  · rfl
  · rfl

@[simp] theorem imported_getOrCreateAccount (budget : Budget) (name : String) :
    (budget.getOrCreateAccount name).imported = budget.imported := by
  rw [Budget.getOrCreateAccount]
  split
  · rfl
  · rfl

theorem resolveAbAccount_of_resolved {state : ExportState} {account : Account} {name : String}
    (resolved : Resolved state account name) :
    resolveAbAccount run state account = (name, state) := by
  have known : (some name).filter (· ∈ state.budget.accounts) = some name := by
    simp [resolved.2]
  rw [resolveAbAccount, resolved.1, known]

variable (run) in
theorem resolved_resolveAbAccount (state : ExportState) (account : Account) :
    Resolved (resolveAbAccount run state account).2 account
      (resolveAbAccount run state account).1 := by
  rw [resolveAbAccount]
  split
  · next name found =>
      obtain ⟨mapped, known⟩ := Option.filter_eq_some_iff.mp found
      exact ⟨mapped, by simpa using known⟩
  · exact ⟨Function.update_self .., mem_getOrCreateAccount ..⟩

variable (run) in
/-- Resolving an account changes no row. -/
theorem rows_resolveAbAccount (state : ExportState) (account : Account) :
    (resolveAbAccount run state account).2.budget.transfers = state.budget.transfers ∧
      (resolveAbAccount run state account).2.budget.imported = state.budget.imported := by
  rw [resolveAbAccount]
  split
  · exact ⟨rfl, rfl⟩
  · exact ⟨transfers_getOrCreateAccount .., imported_getOrCreateAccount ..⟩

variable (run) in
theorem Resolved.resolveAbAccount {state : ExportState} {account : Account} {name : String}
    (resolved : Resolved state account name) (other : Account) :
    Resolved (resolveAbAccount run state other).2 account name := by
  by_cases same : other.id = account.id
  · have resolvedOther : Resolved state other name := by
      rw [Resolved, same]
      exact resolved
    rw [resolveAbAccount_of_resolved resolvedOther]
    exact resolved
  · rw [ActualBudget.resolveAbAccount]
    split
    · exact resolved
    · constructor
      · exact (Function.update_of_ne (Ne.symm same) ..).trans resolved.1
      · exact accounts_subset_getOrCreateAccount _ _ resolved.2

/-! ## The legs of an account -/

/-- The native transfer of a leg. -/
def nativeTransfer (runtime : Runtime) (abName destination : String) (leg : Transaction) :
    Transfer where
  date := Instant.date leg.occurredAt
  sourceAccount := if 0 < leg.amount.value then destination else abName
  destinationAccount := if 0 < leg.amount.value then abName else destination
  amount := runtime.decimalToCents |leg.amount.value|
  notes := transferReference leg

/-- Book a leg of an account unless it has no destination or is booked. -/
def bookLeg (runtime : Runtime) (run : ExportRun) (transfers : List Transfer)
    (leg : String × Transaction) : List Transfer :=
  match bookedDestination runtime run leg.2 with
  | none => transfers
  | some destination =>
      if transfers.any (·.notes = transferReference leg.2) then transfers
      else transfers ++ [nativeTransfer runtime leg.1 destination leg.2]

theorem budget_exportTransfer (abName : String) (progress : TransferProgress)
    (leg : Transaction) :
    (exportTransfer runtime run abName progress leg).budget.transfers =
        bookLeg runtime run progress.budget.transfers (abName, leg) ∧
      (exportTransfer runtime run abName progress leg).budget.imported =
        progress.budget.imported ∧
      progress.budget.accounts ⊆
        (exportTransfer runtime run abName progress leg).budget.accounts := by
  rw [exportTransfer, bookLeg]
  cases bookedDestination runtime run leg with
  | none => exact ⟨rfl, rfl, List.Subset.refl _⟩
  | some destination =>
      dsimp only
      by_cases booked : progress.budget.transferExists (transferReference leg) = true
      · have inList : progress.budget.transfers.any (·.notes = transferReference leg) = true :=
          booked
        rw [if_pos booked, if_pos inList]
        exact ⟨rfl, rfl, List.Subset.refl _⟩
      · have notInList : ¬progress.budget.transfers.any (·.notes = transferReference leg) = true :=
          booked
        rw [if_neg booked, if_neg notInList]
        refine ⟨?_, imported_getOrCreateAccount .., accounts_subset_getOrCreateAccount ..⟩
        simp only [Budget.createTransfer, nativeTransfer, transfers_getOrCreateAccount]
        split
        · rfl
        · rfl

variable (runtime run) in
theorem budget_exportTransfers (abName : String) (legs : List Transaction)
    (progress : TransferProgress) :
    (legs.foldl (exportTransfer runtime run abName) progress).budget.transfers =
        (legs.map (abName, ·)).foldl (bookLeg runtime run) progress.budget.transfers ∧
      (legs.foldl (exportTransfer runtime run abName) progress).budget.imported =
        progress.budget.imported ∧
      progress.budget.accounts ⊆
        (legs.foldl (exportTransfer runtime run abName) progress).budget.accounts := by
  induction legs generalizing progress with
  | nil => exact ⟨rfl, rfl, List.Subset.refl _⟩
  | cons leg legs ih =>
      obtain ⟨transfers, imported, accounts⟩ := budget_exportTransfer abName progress leg
      obtain ⟨restTransfers, restImported, restAccounts⟩ :=
        ih (exportTransfer runtime run abName progress leg)
      rw [transfers] at restTransfers
      rw [imported] at restImported
      exact ⟨restTransfers, restImported, List.Subset.trans accounts restAccounts⟩

/-! ## One account -/

/-- The writes that import the payloads of an account. -/
def importWrites (runtime : Runtime) (run : ExportRun) (abName : String) (account : Account) :
    List (Write (String × String) ImportedRow) :=
  (mappedTransactions runtime run abName account).map
    (importWrite runtime.decimalToCents abName)

/-- The legs that are booked for an account. -/
def bookedLegs (runtime : Runtime) (run : ExportRun) (abName : String) (account : Account) :
    List (String × Transaction) :=
  (transferTransactions runtime run account).map (abName, ·)

variable (runtime run) in
theorem rows_exportAccount (state : ExportState) (account : Account) :
    let abName := (resolveAbAccount run state account).1
    let exported := (exportAccount runtime run state account).1
    exported.budget.transfers =
        (bookedLegs runtime run abName account).foldl (bookLeg runtime run)
          state.budget.transfers ∧
      exported.budget.imported =
        Write.applyAll state.budget.imported (importWrites runtime run abName account) := by
  obtain ⟨transfers, imported⟩ := rows_resolveAbAccount run state account
  obtain ⟨legsTransfers, legsImported, _⟩ :=
    budget_exportTransfers runtime run (resolveAbAccount run state account).1
      (transferTransactions runtime run account)
      ⟨(resolveAbAccount run state account).2.budget, 0,
        ((fetchPendingTransactions runtime run account).filter isPositiveLeg).map (·.id)⟩
  dsimp only at legsTransfers legsImported
  rw [transfers] at legsTransfers
  rw [imported] at legsImported
  constructor
  · exact legsTransfers
  · rw [← legsImported]
    rfl

theorem Resolved.exportAccount {state : ExportState} {account : Account} {name : String}
    (resolved : Resolved state account name) (other : Account) :
    Resolved (exportAccount runtime run state other).1 account name := by
  obtain ⟨mapped, known⟩ := resolved.resolveAbAccount run other
  constructor
  · exact mapped
  · exact (budget_exportTransfers _ _ _ _ _).2.2 known

variable (runtime run) in
theorem resolved_exportAccount (state : ExportState) (account : Account) :
    Resolved (exportAccount runtime run state account).1 account
      (resolveAbAccount run state account).1 := by
  obtain ⟨mapped, known⟩ := resolved_resolveAbAccount run state account
  constructor
  · exact mapped
  · exact (budget_exportTransfers _ _ _ _ _).2.2 known

/-! ## All accounts -/

theorem Resolved.exportAccounts {account : Account} {name : String} (accounts : List Account) :
    ∀ {state : ExportState}, Resolved state account name →
      Resolved (exportAccounts runtime run state accounts).1 account name := by
  induction accounts with
  | nil =>
      intro state resolved
      exact resolved
  | cons other rest ih =>
      intro state resolved
      exact ih (resolved.exportAccount other)

/-- The name that an account is mapped to. -/
def mappedName (state : ExportState) (account : Account) : String :=
  (state.mappings account.id).getD ""

theorem Resolved.mappedName {state : ExportState} {account : Account} {name : String}
    (resolved : Resolved state account name) : mappedName state account = name := by
  rw [ActualBudget.mappedName, resolved.1, Option.getD_some]

variable (runtime run) in
/-- Every exported account is resolved, and its rows are booked under the name it is
mapped to. -/
theorem rows_exportAccounts (accounts : List Account) :
    ∀ state : ExportState,
      let last := (exportAccounts runtime run state accounts).1
      (∀ account ∈ accounts, Resolved last account (mappedName last account)) ∧
        last.budget.transfers =
          (accounts.flatMap fun account =>
            bookedLegs runtime run (mappedName last account) account).foldl
              (bookLeg runtime run) state.budget.transfers ∧
        last.budget.imported =
          Write.applyAll state.budget.imported (accounts.flatMap fun account =>
            importWrites runtime run (mappedName last account) account) := by
  induction accounts with
  | nil =>
      intro state
      exact ⟨by simp, rfl, rfl⟩
  | cons account rest ih =>
      intro state last
      obtain ⟨resolved, transfers, imported⟩ :=
        ih (exportAccount runtime run state account).1
      obtain ⟨ownTransfers, ownImported⟩ := rows_exportAccount runtime run state account
      have own : Resolved last account (resolveAbAccount run state account).1 :=
        (resolved_exportAccount runtime run state account).exportAccounts rest
      refine ⟨?_, ?_, ?_⟩
      · intro other otherMem
        cases List.mem_cons.mp otherMem with
        | inl same => rw [same, own.mappedName]; exact own
        | inr later => exact resolved other later
      · rw [List.flatMap_cons, List.foldl_append, own.mappedName, ← ownTransfers]
        exact transfers
      · rw [List.flatMap_cons, Write.applyAll_append, own.mappedName, ← ownImported]
        exact imported

/-! ## The whole run -/

/-- The writes of a run, under the names that the accounts are mapped to. -/
def runWrites (runtime : Runtime) (run : ExportRun) (state : ExportState) :
    List (Write (String × String) ImportedRow) :=
  (loadAccounts runtime run).flatMap fun account =>
    importWrites runtime run (mappedName state account) account

theorem imported_runExport (state : ExportState) :
    (runExport runtime run state).1.budget.imported =
      Write.applyAll state.budget.imported
        (runWrites runtime run (runExport runtime run state).1) :=
  (rows_exportAccounts runtime run (loadAccounts runtime run) state).2.2

theorem mem_runWrites {state : ExportState} {write : Write (String × String) ImportedRow} :
    write ∈ runWrites runtime run state ↔
      ∃ account ∈ loadAccounts runtime run,
        ∃ transaction ∈ importedTransactions runtime run account,
          write = importWrite runtime.decimalToCents (mappedName state account)
            (mapTransaction transaction (mappedName state account)
              (categoryName transaction)) := by
  simp only [runWrites, importWrites, mappedTransactions, List.mem_flatMap, List.mem_map]
  constructor
  · rintro ⟨account, exported, _, ⟨transaction, imported, rfl⟩, rfl⟩
    exact ⟨account, exported, transaction, imported, rfl⟩
  · rintro ⟨account, exported, transaction, imported, rfl⟩
    exact ⟨account, exported, _, ⟨transaction, imported, rfl⟩, rfl⟩

end FinanceSync.ActualBudget
