import FinanceSync.ActualBudget.Runs

/-!
# The legs of transfers in a run

A leg that becomes a native transfer does so once: it is told by its reference, and
neither its own later exports nor those of other legs add a transfer for it.
-/

namespace FinanceSync.ActualBudget

open Lib

variable {runtime : Runtime} {run : ExportRun}

/-- The legs of transfers among the transactions of an account. -/
def pendingLegs (runtime : Runtime) (run : ExportRun) (account : Account) : List Transaction :=
  (fetchPendingTransactions runtime run account).filter (·.transactionType = .transfer)

/-- The native transfers of a leg. -/
def transfersOf (transfers : List Transfer) (leg : Transaction) : List Transfer :=
  transfers.filter (·.notes = transferReference leg)

/-! ## The transfers of one leg -/

theorem transferReference_injective {first second : Transaction}
    (same : transferReference first = transferReference second) : first.id = second.id := by
  rw [transferReference, transferReference] at same
  exact (String.append_right_inj _).mp same

theorem transfersOf_eq_nil_iff {transfers : List Transfer} {leg : Transaction} :
    transfersOf transfers leg = [] ↔ ¬transfers.any (·.notes = transferReference leg) = true := by
  simp [transfersOf, List.filter_eq_nil_iff]

/-- A leg with another id leaves the transfers of a leg. -/
theorem transfersOf_bookLeg_of_ne {transfers : List Transfer} {leg : Transaction}
    {other : String × Transaction} (differs : other.2.id ≠ leg.id) :
    transfersOf (bookLeg runtime run transfers other) leg = transfersOf transfers leg := by
  rw [bookLeg]
  split
  · rfl
  · split
    · rfl
    · have notOf : ¬transferReference other.2 = transferReference leg :=
        fun same => differs (transferReference_injective same)
      simp [transfersOf, nativeTransfer, notOf]

variable (runtime run) in
/-- A leg that was exported is not exported again. -/
theorem transfersOf_bookLeg_of_ne_nil {transfers : List Transfer} {leg : Transaction}
    (exported : transfersOf transfers leg ≠ []) (other : String × Transaction) :
    transfersOf (bookLeg runtime run transfers other) leg = transfersOf transfers leg := by
  by_cases same : transferReference other.2 = transferReference leg
  · have booked : transfers.any (·.notes = transferReference other.2) = true := by
      rw [same]
      by_contra notBooked
      exact exported (transfersOf_eq_nil_iff.mpr notBooked)
    rw [bookLeg]
    split
    · rfl
    · rw [if_pos booked]
  · exact transfersOf_bookLeg_of_ne fun sameId =>
      same (by rw [transferReference, transferReference, sameId])

theorem transfersOf_bookLeg_self {transfers : List Transfer} {leg : String × Transaction}
    {destination : String} (new : transfersOf transfers leg.2 = [])
    (found : bookedDestination runtime run leg.2 = some destination) :
    transfersOf (bookLeg runtime run transfers leg) leg.2 =
      [nativeTransfer runtime leg.1 destination leg.2] := by
  have notBooked := transfersOf_eq_nil_iff.mp new
  rw [bookLeg, found]
  dsimp only
  rw [if_neg notBooked, transfersOf, List.filter_append]
  rw [transfersOf] at new
  rw [new]
  simp [nativeTransfer]

theorem transfersOf_foldl_of_ne_nil (legs : List (String × Transaction)) :
    ∀ {transfers : List Transfer} {leg : Transaction}, transfersOf transfers leg ≠ [] →
      transfersOf (legs.foldl (bookLeg runtime run) transfers) leg = transfersOf transfers leg := by
  induction legs with
  | nil =>
      intro transfers leg _
      rfl
  | cons first rest ih =>
      intro transfers leg exported
      have kept := transfersOf_bookLeg_of_ne_nil runtime run exported first
      rw [List.foldl_cons, ih (kept ▸ exported), kept]

theorem transfersOf_foldl_of_not_mem (legs : List (String × Transaction)) :
    ∀ {transfers : List Transfer} {leg : Transaction},
      (∀ other ∈ legs, other.2.id ≠ leg.id) →
      transfersOf (legs.foldl (bookLeg runtime run) transfers) leg = transfersOf transfers leg := by
  induction legs with
  | nil =>
      intro transfers leg _
      rfl
  | cons first rest ih =>
      intro transfers leg others
      rw [List.foldl_cons,
        ih fun other otherMem => others other (List.mem_cons_of_mem _ otherMem),
        transfersOf_bookLeg_of_ne (others first List.mem_cons_self)]

/-- A leg that was not exported is exported once. -/
theorem transfersOf_foldl_of_mem (legs : List (String × Transaction)) :
    ∀ {transfers : List Transfer} {leg : String × Transaction} {destination : String},
      leg ∈ legs → (∀ other ∈ legs, other.2.id = leg.2.id → other = leg) →
      transfersOf transfers leg.2 = [] →
      bookedDestination runtime run leg.2 = some destination →
      transfersOf (legs.foldl (bookLeg runtime run) transfers) leg.2 =
        [nativeTransfer runtime leg.1 destination leg.2] := by
  induction legs with
  | nil =>
      intro transfers leg destination legMem
      cases legMem
  | cons first rest ih =>
      intro transfers leg destination legMem unique new found
      have restUnique : ∀ other ∈ rest, other.2.id = leg.2.id → other = leg :=
        fun other otherMem => unique other (List.mem_cons_of_mem _ otherMem)
      rw [List.foldl_cons]
      by_cases isFirst : first = leg
      · have booked := transfersOf_bookLeg_self new found
        rw [isFirst, transfersOf_foldl_of_ne_nil rest (by rw [booked]; simp), booked]
      · have differs : first.2.id ≠ leg.2.id :=
          fun same => isFirst (unique first List.mem_cons_self same)
        have inRest : leg ∈ rest :=
          (List.mem_cons.mp legMem).resolve_left fun same => isFirst same.symm
        exact ih inRest restUnique
          ((transfersOf_bookLeg_of_ne differs).trans new) found

/-! ## The names of accounts -/

/-- The Actual account of an account, before a run. -/
def actualName (run : ExportRun) (state : ExportState) (account : Account) : String :=
  ((state.mappings account.id).filter (· ∈ state.budget.accounts)).getD
    (configuredName run account)

/-- An account that is mapped to an Actual account that was deleted is mapped to its
configured name. -/
def MappingsKept (runtime : Runtime) (run : ExportRun) (state : ExportState) : Prop :=
  ∀ account ∈ loadAccounts runtime run, ∀ name, state.mappings account.id = some name →
    name ∈ state.budget.accounts ∨ name = configuredName run account

/-- Resolving the account gives the name, now and after any other account. -/
def Steady (run : ExportRun) (state : ExportState) (account : Account) (name : String) : Prop :=
  Resolved state account name ∨
    name = configuredName run account ∧
      ∀ mapped, state.mappings account.id = some mapped → mapped = name

theorem Steady.resolveAbAccount_fst {state : ExportState} {account : Account} {name : String}
    (steady : Steady run state account name) :
    (resolveAbAccount run state account).1 = name := by
  cases steady with
  | inl resolved => rw [resolveAbAccount_of_resolved resolved]
  | inr configured =>
      obtain ⟨isConfigured, onlyName⟩ := configured
      rw [resolveAbAccount]
      split
      · next abAccountName found =>
          exact onlyName _ (Option.filter_eq_some_iff.mp found).1
      · exact isConfigured.symm

theorem mappings_exportAccount_of_ne {state : ExportState} {account other : Account}
    (differs : other.id ≠ account.id) :
    (exportAccount runtime run state other).1.mappings account.id = state.mappings account.id := by
  change (resolveAbAccount run state other).2.mappings account.id = _
  rw [resolveAbAccount]
  split
  · rfl
  · exact Function.update_of_ne (Ne.symm differs) ..

theorem Steady.exportAccount {state : ExportState} {account : Account} {name : String}
    (steady : Steady run state account name) (other : Account)
    (sameId : other.id = account.id → other = account) :
    Steady run (exportAccount runtime run state other).1 account name := by
  by_cases same : other.id = account.id
  · have own := resolved_exportAccount runtime run state account
    rw [steady.resolveAbAccount_fst] at own
    rw [sameId same]
    exact .inl own
  · cases steady with
    | inl resolved => exact .inl (resolved.exportAccount other)
    | inr configured =>
        right
        rw [mappings_exportAccount_of_ne same]
        exact configured

theorem mappedName_exportAccounts (accounts : List Account) :
    ∀ {state : ExportState} {account : Account} {name : String}, account ∈ accounts →
      (∀ other ∈ accounts, other.id = account.id → other = account) →
      Steady run state account name →
      mappedName (exportAccounts runtime run state accounts).1 account = name := by
  induction accounts with
  | nil =>
      intro state account name accountMem
      cases accountMem
  | cons first rest ih =>
      intro state account name accountMem sameId steady
      by_cases isFirst : first = account
      · have resolved := resolved_exportAccount runtime run state account
        rw [steady.resolveAbAccount_fst] at resolved
        rw [isFirst]
        exact (resolved.exportAccounts rest).mappedName
      · have inRest : account ∈ rest :=
          (List.mem_cons.mp accountMem).resolve_left fun same => isFirst same.symm
        exact ih inRest
          (fun other otherMem => sameId other (List.mem_cons_of_mem _ otherMem))
          (steady.exportAccount first (sameId first List.mem_cons_self))

theorem mem_loadAccounts {account : Account} :
    account ∈ loadAccounts runtime run ↔
      account ∈ run.source.accounts ∧
        (account.isActive ∧ (run.accountIds.isEmpty ∨ account.id ∈ run.accountIds)) ∧
        isActualBudgetEligibleAccount account := by
  rw [loadAccounts, List.mem_filter, OrderBy.mem_sort, List.mem_filter]
  simp [and_assoc]

theorem account_eq_of_id {first second : Account} (firstMem : first ∈ loadAccounts runtime run)
    (secondMem : second ∈ loadAccounts runtime run) (same : first.id = second.id) :
    first = second :=
  List.inj_on_of_nodup_map run.source.accountIds (mem_loadAccounts.mp firstMem).1
    (mem_loadAccounts.mp secondMem).1 same

/-- The account is mapped to the name that it had before the run. -/
theorem mappedName_runExport {state : ExportState} (kept : MappingsKept runtime run state)
    {account : Account} (exported : account ∈ loadAccounts runtime run) :
    mappedName (runExport runtime run state).1 account = actualName run state account := by
  apply mappedName_exportAccounts _ exported
    (fun other otherMem same => account_eq_of_id otherMem exported same)
  rw [actualName, Steady]
  cases mapped : state.mappings account.id with
  | none => exact .inr ⟨rfl, by simp⟩
  | some name =>
      by_cases known : name ∈ state.budget.accounts
      · have found : (some name).filter (· ∈ state.budget.accounts) = some name := by
          simp [known]
        rw [found]
        exact .inl ⟨mapped, known⟩
      · have notFound : (some name).filter (· ∈ state.budget.accounts) = none := by
          simp [known]
        rw [notFound]
        refine .inr ⟨rfl, ?_⟩
        intro other sameMapped
        cases sameMapped
        exact (kept account exported name mapped).resolve_left known

/-! ## The legs of a run -/

theorem mem_fetchPendingTransactions {account : Account} {transaction : Transaction} :
    transaction ∈ fetchPendingTransactions runtime run account ↔
      transaction ∈ run.source.transactions ∧
        (transaction.accountId = account.id ∧ run.since ≤ transaction.occurredAt ∧
          transaction.status ∈ [.booked, .pending] ∧ transaction.exportStatus = "active") := by
  rw [fetchPendingTransactions, OrderBy.mem_sort, List.mem_filter]
  simp [and_assoc]

theorem transaction_eq_of_id {first second : Transaction}
    (firstMem : first ∈ run.source.transactions) (secondMem : second ∈ run.source.transactions)
    (same : first.id = second.id) : first = second :=
  List.inj_on_of_nodup_map run.source.transactionIds firstMem secondMem same

/-- The legs that a run books, with the names of their accounts. -/
def runLegs (runtime : Runtime) (run : ExportRun) (state : ExportState) :
    List (String × Transaction) :=
  (loadAccounts runtime run).flatMap fun account =>
    bookedLegs runtime run (actualName run state account) account

theorem mem_runLegs {state : ExportState} {leg : String × Transaction} :
    leg ∈ runLegs runtime run state ↔
      ∃ account ∈ loadAccounts runtime run, leg.2 ∈ transferTransactions runtime run account ∧
        leg.1 = actualName run state account := by
  simp only [runLegs, bookedLegs, List.mem_flatMap, List.mem_map]
  constructor
  · rintro ⟨account, exported, leg, legMem, rfl⟩
    exact ⟨account, exported, legMem, rfl⟩
  · rintro ⟨account, exported, legMem, isName⟩
    exact ⟨account, exported, leg.2, legMem, by rw [← isName]⟩

theorem mem_transferTransactions {account : Account} {leg : Transaction} :
    leg ∈ transferTransactions runtime run account ↔
      leg ∈ fetchPendingTransactions runtime run account ∧ isNativeTransfer runtime run leg :=
  List.mem_filter

theorem mem_source_of_transferTransactions {account : Account} {leg : Transaction}
    (legMem : leg ∈ transferTransactions runtime run account) :
    leg ∈ run.source.transactions ∧ leg.accountId = account.id := by
  obtain ⟨inSource, ofAccount, _⟩ :=
    mem_fetchPendingTransactions.mp (mem_transferTransactions.mp legMem).1
  exact ⟨inSource, ofAccount⟩

theorem runLegs_unique {state : ExportState} {first second : String × Transaction}
    (firstMem : first ∈ runLegs runtime run state) (secondMem : second ∈ runLegs runtime run state)
    (same : first.2.id = second.2.id) : first = second := by
  obtain ⟨account, exported, legMem, isName⟩ := mem_runLegs.mp firstMem
  obtain ⟨other, otherExported, otherMem, otherName⟩ := mem_runLegs.mp secondMem
  obtain ⟨inSource, ofAccount⟩ := mem_source_of_transferTransactions legMem
  obtain ⟨otherInSource, ofOther⟩ := mem_source_of_transferTransactions otherMem
  have sameLeg := transaction_eq_of_id inSource otherInSource same
  have sameAccount : account = other :=
    account_eq_of_id exported otherExported (by rw [← ofAccount, ← ofOther, sameLeg])
  exact Prod.ext (by rw [isName, otherName, sameAccount]) sameLeg

theorem transfers_runExport {state : ExportState} (kept : MappingsKept runtime run state) :
    (runExport runtime run state).1.budget.transfers =
      (runLegs runtime run state).foldl (bookLeg runtime run) state.budget.transfers := by
  obtain ⟨_, transfers, _⟩ :=
    rows_exportAccounts runtime run (loadAccounts runtime run) state
  have sameLegs : ((loadAccounts runtime run).flatMap fun account => bookedLegs runtime run
      (mappedName (runExport runtime run state).1 account) account) = runLegs runtime run state :=
    List.flatMap_congr fun account exported => by rw [mappedName_runExport kept exported]
  rw [← sameLegs]
  exact transfers

theorem isNativeTransfer_transactionType {leg : Transaction}
    (native : isNativeTransfer runtime run leg) : leg.transactionType = .transfer := by
  rw [isNativeTransfer, Bool.and_eq_true] at native
  by_contra notTransfer
  rw [classifiedDestination, if_neg notTransfer] at native
  exact absurd native.2 (by simp)

theorem amount_nonpos_of_not_positive {leg : Transaction}
    (isTransfer : leg.transactionType = .transfer) (negative : ¬isPositiveLeg leg) : leg.amount.value ≤ 0 := by
  by_contra positive
  apply negative
  simp [isPositiveLeg, isTransfer, not_le.mp positive]

theorem not_positive_of_native {leg : Transaction} (native : isNativeTransfer runtime run leg) :
    ¬isPositiveLeg leg := by
  rw [isNativeTransfer, Bool.and_eq_true] at native
  simpa using native.1

theorem mem_importedTransactions {account : Account} {transaction : Transaction}
    (imported : transaction ∈ importedTransactions runtime run account) :
    transaction ∈ fetchPendingTransactions runtime run account ∧
      ¬isPositiveLeg transaction ∧ ¬isNativeTransfer runtime run transaction := by
  have selected : transaction ∈ (fetchPendingTransactions runtime run account).filter fun other =>
      !isPositiveLeg other && !isNativeTransfer runtime run other := by
    rw [importedTransactions] at imported
    split at imported
    · exact imported
    · exact List.mem_of_mem_take imported
  simpa using List.mem_filter.mp selected

/-! ## Reports -/

variable (runtime run) in
theorem report_exportTransfers (abName : String) (legs : List Transaction) :
    ∀ progress : TransferProgress,
      (legs.foldl (exportTransfer runtime run abName) progress).failed =
          progress.failed + (legs.filter (bookedDestination runtime run · = none)).length ∧
        ∀ id ∈ (legs.foldl (exportTransfer runtime run abName) progress).deliveredIds,
          id ∈ progress.deliveredIds ∨ ∃ leg ∈ legs, leg.id = id := by
  induction legs with
  | nil =>
      intro progress
      exact ⟨rfl, fun id idMem => .inl idMem⟩
  | cons leg legs ih =>
      intro progress
      obtain ⟨failed, delivered⟩ :=
        ih (exportTransfer runtime run abName progress leg)
      have step : (exportTransfer runtime run abName progress leg).failed =
            progress.failed + ([leg].filter (bookedDestination runtime run · = none)).length ∧
          ∀ id ∈ (exportTransfer runtime run abName progress leg).deliveredIds,
            id ∈ progress.deliveredIds ∨ id = leg.id := by
        rw [exportTransfer]
        cases found : bookedDestination runtime run leg with
        | none => exact ⟨by simp [found], fun id idMem => .inl idMem⟩
        | some destination =>
            dsimp only
            split
            · simp [found]
            · simp [found]
      have both : (leg :: legs).filter (bookedDestination runtime run · = none) =
          [leg].filter (bookedDestination runtime run · = none) ++
            legs.filter (bookedDestination runtime run · = none) := by
        rw [← List.filter_append, List.singleton_append]
      constructor
      · rw [List.foldl_cons, failed, step.1, both, List.length_append, add_assoc]
      · intro id idMem
        cases delivered id idMem with
        | inr later =>
            obtain ⟨other, otherMem, isId⟩ := later
            exact .inr ⟨other, List.mem_cons_of_mem _ otherMem, isId⟩
        | inl here =>
            cases step.2 id here with
            | inl before => exact .inl before
            | inr isLeg => exact .inr ⟨leg, List.mem_cons_self, isLeg.symm⟩

theorem failed_exportAccount (state : ExportState) (account : Account) :
    (exportAccount runtime run state account).2.failed =
      ((transferTransactions runtime run account).filter
        (bookedDestination runtime run · = none)).length := by
  have failed := (report_exportTransfers runtime run
    (resolveAbAccount run state account).1 (transferTransactions runtime run account)
    ⟨(resolveAbAccount run state account).2.budget, 0,
      ((fetchPendingTransactions runtime run account).filter isPositiveLeg).map (·.id)⟩).1
  rw [Nat.zero_add] at failed
  exact failed

/-- What is reported as delivered are transactions of the account. -/
theorem mem_exportedIds {state : ExportState} {account : Account} {id : String}
    (reported : id ∈ (exportAccount runtime run state account).2.exportedIds) :
    ∃ transaction ∈ fetchPendingTransactions runtime run account, transaction.id = id := by
  have delivered := (report_exportTransfers runtime run
    (resolveAbAccount run state account).1 (transferTransactions runtime run account)
    ⟨(resolveAbAccount run state account).2.budget, 0,
      ((fetchPendingTransactions runtime run account).filter isPositiveLeg).map (·.id)⟩).2 id
  have inPending : ∀ {kept : Transaction → Bool},
      id ∈ ((fetchPendingTransactions runtime run account).filter kept).map (·.id) →
        ∃ transaction ∈ fetchPendingTransactions runtime run account, transaction.id = id := by
    intro kept idMem
    obtain ⟨transaction, transactionMem, isId⟩ := List.mem_map.mp idMem
    exact ⟨transaction, (List.mem_filter.mp transactionMem).1, isId⟩
  cases List.mem_append.mp reported with
  | inr other => exact inPending (List.mem_of_mem_take other)
  | inl ofTransfers =>
      cases delivered ofTransfers with
      | inl positive => exact inPending positive
      | inr native =>
          obtain ⟨leg, legMem, isId⟩ := native
          exact ⟨leg, (mem_transferTransactions.mp legMem).1, isId⟩

/-- The reports of a run are those of its accounts. -/
theorem reports_exportAccounts (accounts : List Account) :
    ∀ state : ExportState,
      (∀ account ∈ accounts, ∃ before : ExportState,
        (exportAccount runtime run before account).2 ∈
          (exportAccounts runtime run state accounts).2) ∧
      ∀ report ∈ (exportAccounts runtime run state accounts).2, ∃ account ∈ accounts,
        ∃ before : ExportState, report = (exportAccount runtime run before account).2 := by
  induction accounts with
  | nil =>
      intro state
      exact ⟨by simp, by simp [exportAccounts]⟩
  | cons account rest ih =>
      intro state
      obtain ⟨reported, ofAccount⟩ :=
        ih (exportAccount runtime run state account).1
      constructor
      · intro other otherMem
        cases List.mem_cons.mp otherMem with
        | inl same => exact ⟨state, by rw [same]; exact List.mem_cons_self⟩
        | inr later =>
            obtain ⟨before, reportMem⟩ := reported other later
            exact ⟨before, List.mem_cons_of_mem _ reportMem⟩
      · intro report reportMem
        cases List.mem_cons.mp reportMem with
        | inl same => exact ⟨account, List.mem_cons_self, state, same⟩
        | inr later =>
            obtain ⟨other, otherMem, before, same⟩ := ofAccount report later
            exact ⟨other, List.mem_cons_of_mem _ otherMem, before, same⟩

/-- Without failures every leg that is exported has a destination. -/
theorem bookedDestination_of_noFailure {state : ExportState}
    (noFailure : ∀ report ∈ (runExport runtime run state).2, report.failed = 0)
    {account : Account} (exported : account ∈ loadAccounts runtime run) {leg : Transaction}
    (legMem : leg ∈ transferTransactions runtime run account) :
    ∃ destination, bookedDestination runtime run leg = some destination := by
  obtain ⟨before, reportMem⟩ :=
    (reports_exportAccounts (loadAccounts runtime run) state).1 account exported
  have failed := noFailure _ reportMem
  rw [failed_exportAccount, List.length_eq_zero_iff, List.filter_eq_nil_iff] at failed
  exact Option.ne_none_iff_exists'.mp (by simpa using failed leg legMem)

end FinanceSync.ActualBudget
