import FinanceSync.ActualBudget.Runs

/-!
# The same run again

After a run every account is resolved and every leg of a transfer is booked, so a
second run on the same data only imports the same payloads once more.  That changes
nothing but the children of split transactions, which are attached again.
-/

namespace FinanceSync.ActualBudget

open Lib

variable {runtime : Runtime} {run : ExportRun}

/-! ## Legs that are booked -/

/-- There is nothing left to book for the leg. -/
def LegSettled (runtime : Runtime) (run : ExportRun) (transfers : List Transfer)
    (leg : String × Transaction) : Prop :=
  bookLeg runtime run transfers leg = transfers

theorem bookLeg_of_booked {transfers : List Transfer} {leg : String × Transaction}
    (booked : transfers.any (·.notes = transferReference leg.2) = true) :
    LegSettled runtime run transfers leg := by
  rw [LegSettled, bookLeg]
  cases bookedDestination runtime run leg.2 with
  | none => rfl
  | some destination => exact if_pos booked

theorem legSettled_bookLeg (transfers : List Transfer) (leg : String × Transaction) :
    LegSettled runtime run (bookLeg runtime run transfers leg) leg := by
  cases found : bookedDestination runtime run leg.2 with
  | none => rw [LegSettled, bookLeg, found]
  | some destination =>
      apply bookLeg_of_booked
      rw [bookLeg, found]
      dsimp only
      split
      · next booked => exact booked
      · simp [nativeTransfer]

theorem LegSettled.booked {transfers : List Transfer} {leg : String × Transaction}
    (settled : LegSettled runtime run transfers leg) {destination : String}
    (found : bookedDestination runtime run leg.2 = some destination) :
    transfers.any (·.notes = transferReference leg.2) = true := by
  rw [LegSettled, bookLeg, found] at settled
  by_contra notBooked
  dsimp only at settled
  rw [if_neg notBooked] at settled
  simp at settled

theorem LegSettled.bookLeg {transfers : List Transfer} {leg : String × Transaction}
    (settled : LegSettled runtime run transfers leg) (other : String × Transaction) :
    LegSettled runtime run (bookLeg runtime run transfers other) leg := by
  cases found : bookedDestination runtime run leg.2 with
  | none => rw [LegSettled, ActualBudget.bookLeg, found]
  | some destination =>
      have booked := settled.booked found
      apply bookLeg_of_booked
      rw [ActualBudget.bookLeg]
      split
      · exact booked
      · split
        · exact booked
        · rw [List.any_append, booked, Bool.true_or]

theorem legSettled_foldl (legs : List (String × Transaction)) :
    ∀ {transfers : List Transfer} {leg : String × Transaction},
      (leg ∈ legs ∨ LegSettled runtime run transfers leg) →
      LegSettled runtime run (legs.foldl (bookLeg runtime run) transfers) leg := by
  induction legs with
  | nil =>
      intro transfers leg settled
      exact settled.resolve_left List.not_mem_nil
  | cons first rest ih =>
      intro transfers leg settled
      apply ih
      cases settled with
      | inr already => exact .inr (already.bookLeg first)
      | inl legMem =>
          cases List.mem_cons.mp legMem with
          | inl same =>
              rw [same]
              exact .inr (legSettled_bookLeg transfers first)
          | inr later => exact .inl later

theorem exportTransfer_of_settled {abName : String} {progress : TransferProgress}
    {leg : Transaction} (settled : LegSettled runtime run progress.budget.transfers (abName, leg)) :
    (exportTransfer runtime run abName progress leg).budget = progress.budget := by
  rw [exportTransfer]
  cases found : bookedDestination runtime run leg with
  | none => rfl
  | some destination =>
      have booked : progress.budget.transferExists (transferReference leg) = true :=
        settled.booked found
      dsimp only
      rw [if_pos booked]

/-! ## A state with nothing left but the import -/

/-- The account is resolved and its legs are booked. -/
def AccountSettled (runtime : Runtime) (run : ExportRun) (state : ExportState)
    (account : Account) : Prop :=
  Resolved state account (mappedName state account) ∧
    ∀ leg ∈ bookedLegs runtime run (mappedName state account) account,
      LegSettled runtime run state.budget.transfers leg

/-- The state after importing the payloads of accounts. -/
def reimported (runtime : Runtime) (run : ExportRun) (state : ExportState)
    (accounts : List Account) : ExportState :=
  { state with
    budget := { state.budget with
      imported := Write.applyAll state.budget.imported (accounts.flatMap fun account =>
        importWrites runtime run (mappedName state account) account) } }

theorem exportTransfers_of_settled (abName : String) (legs : List Transaction) :
    ∀ progress : TransferProgress,
      (∀ leg ∈ legs, LegSettled runtime run progress.budget.transfers (abName, leg)) →
      (legs.foldl (exportTransfer runtime run abName) progress).budget = progress.budget := by
  induction legs with
  | nil =>
      intro progress _
      rfl
  | cons leg legs ih =>
      intro progress settled
      have head := exportTransfer_of_settled (settled leg List.mem_cons_self)
      rw [List.foldl_cons, ih, head]
      intro later laterMem
      rw [head]
      exact settled later (List.mem_cons_of_mem _ laterMem)

theorem exportAccount_of_settled {state : ExportState} {account : Account}
    (settled : AccountSettled runtime run state account) :
    (exportAccount runtime run state account).1 = reimported runtime run state [account] := by
  obtain ⟨resolved, legs⟩ := settled
  have noTransfers := exportTransfers_of_settled (mappedName state account)
    (transferTransactions runtime run account)
    ⟨state.budget, 0,
      ((fetchPendingTransactions runtime run account).filter isPositiveLeg).map (·.id)⟩
    fun leg legMem => legs _ (List.mem_map_of_mem legMem)
  rw [exportAccount, resolveAbAccount_of_resolved resolved]
  dsimp only
  rw [noTransfers, reimported, List.flatMap_singleton]
  rfl

theorem exportAccounts_of_settled (accounts : List Account) :
    ∀ {state : ExportState}, (∀ account ∈ accounts, AccountSettled runtime run state account) →
      (exportAccounts runtime run state accounts).1 = reimported runtime run state accounts := by
  induction accounts with
  | nil =>
      intro state _
      rfl
  | cons account rest ih =>
      intro state settled
      have head := exportAccount_of_settled (settled account List.mem_cons_self)
      have restSettled : ∀ other ∈ rest,
          AccountSettled runtime run (reimported runtime run state [account]) other :=
        fun other otherMem => settled other (List.mem_cons_of_mem _ otherMem)
      rw [exportAccounts]
      dsimp only
      rw [head, ih restSettled, reimported, reimported, List.flatMap_singleton,
        reimported, List.flatMap_cons, Write.applyAll_append]
      rfl

/-! ## The second run -/

theorem accountSettled_runExport (state : ExportState) {account : Account}
    (exported : account ∈ loadAccounts runtime run) :
    AccountSettled runtime run (runExport runtime run state).1 account := by
  obtain ⟨resolved, transfers, _⟩ :=
    rows_exportAccounts runtime run (loadAccounts runtime run) state
  constructor
  · exact resolved account exported
  · intro leg legMem
    rw [runExport, transfers]
    exact legSettled_foldl _ (.inl (List.mem_flatMap.mpr ⟨account, exported, legMem⟩))

/-- The second run makes the writes of the first one again, and nothing else. -/
theorem second_run (state : ExportState) :
    (runExport runtime run (runExport runtime run state).1).1 =
      reimported runtime run (runExport runtime run state).1 (loadAccounts runtime run) :=
  exportAccounts_of_settled (loadAccounts runtime run) fun _ exported =>
    accountSettled_runExport state exported

/-! ## The children of split transactions -/

/-- No transaction that a run imports carries splits. -/
def NoSplits (runtime : Runtime) (run : ExportRun) : Prop :=
  ∀ account ∈ loadAccounts runtime run,
    ∀ transaction ∈ importedTransactions runtime run account, transaction.splits = []

/-- How many children a write adds to a row. -/
def addedChildren (write : Write (String × String) ImportedRow) : Nat :=
  (write.entry none).children.length

theorem length_children_importedRow (decimalToCents : ℚ → Int) (payload : Payload)
    (existing : Option ImportedRow) :
    (importedRow decimalToCents payload existing).children.length =
      (existing.map (·.children.length)).getD 0 + payload.splits.length := by
  rw [children_importedRow, List.length_append, List.length_map]
  cases existing with
  | none => rfl
  | some row => rfl

theorem addedChildren_importWrite (decimalToCents : ℚ → Int) (account : String)
    (transaction : Transaction) (category : Option String) :
    addedChildren (importWrite decimalToCents account
      (mapTransaction transaction account category)) = transaction.splits.length := by
  rw [addedChildren, importWrite_entry, length_children_importedRow, mapTransaction,
    List.length_map]
  exact Nat.zero_add _

theorem runWrites_adds (runtime : Runtime) (run : ExportRun) (state : ExportState) :
    ∀ write ∈ runWrites runtime run state, ∀ entry,
      (write.entry entry).children.length =
        (entry.map (·.children.length)).getD 0 + addedChildren write := by
  intro write writeMem entry
  obtain ⟨account, _, transaction, _, rfl⟩ := mem_runWrites.mp writeMem
  rw [addedChildren_importWrite, importWrite_entry, length_children_importedRow, mapTransaction,
    List.length_map]

theorem runWrites_absorb (state : ExportState) (noSplits : NoSplits runtime run) :
    ∀ second ∈ runWrites runtime run state, ∀ first ∈ runWrites runtime run state,
      Write.Absorbs second first := by
  have payloadSplits : ∀ account ∈ loadAccounts runtime run,
      ∀ transaction ∈ importedTransactions runtime run account, ∀ abName category,
        (mapTransaction transaction abName category).splits = [] := by
    intro account exported transaction imported abName category
    rw [mapTransaction, noSplits account exported transaction imported, List.map_nil]
  intro second secondMem first firstMem
  obtain ⟨other, otherExported, later, laterMem, rfl⟩ := mem_runWrites.mp secondMem
  obtain ⟨account, exported, earlier, earlierMem, rfl⟩ := mem_runWrites.mp firstMem
  exact importWrite_absorbs (payloadSplits account exported earlier earlierMem _ _)
    (payloadSplits other otherExported later laterMem _ _)

/-- Where the rows stay the same, no write attached a child. -/
theorem noSplits_of_unchanged {state : ExportState}
    {imported : String × String → Option ImportedRow}
    (unchanged : Write.applyAll imported (runWrites runtime run state) = imported) :
    NoSplits runtime run := by
  intro account exported transaction transactionMem
  have writeMem := mem_runWrites.mpr
    (⟨account, exported, transaction, transactionMem, rfl⟩ :
      ∃ other ∈ loadAccounts runtime run, ∃ txn ∈ importedTransactions runtime run other,
        importWrite runtime.decimalToCents (mappedName state account)
            (mapTransaction transaction (mappedName state account) (categoryName transaction)) =
          importWrite runtime.decimalToCents (mappedName state other)
            (mapTransaction txn (mappedName state other) (categoryName txn)))
  have grown := Write.sizeAt_applyAll (·.children.length) addedChildren
    (runWrites_adds runtime run state) imported
    (mappedName state account, buildImportedId transaction)
  rw [unchanged] at grown
  have nothingAdded := List.sum_eq_zero_iff.mp (Nat.add_eq_left.mp grown.symm)
  have added := nothingAdded _ (List.mem_map_of_mem
    (List.mem_filter.mpr ⟨writeMem, by simp [mapTransaction]⟩))
  rw [addedChildren_importWrite] at added
  exact List.length_eq_zero_iff.mp added

section Runs

private def splitPayment : Transaction where
  id := "11111111-1111-1111-1111-111111111111"
  accountId := "checking"
  providerKey := "bunq"
  externalTransactionId := "pay-1"
  amount := ⟨-1234, -2⟩
  currencyCode := "EUR"
  occurredAt := 0
  transactionType := .payment
  description := some "Example Shop"
  status := .booked
  cashflowBucket := some "groceries"
  splits := [{ amount := -7, destination := some "food" }]

private def splitRun : ExportRun where
  config := {}
  source :=
    { accounts := [{ id := "checking", name := "Checking", accountType := "checking",
                     providerKey := "bunq" }]
      transactions := [splitPayment]
      accountIds := by decide
      transactionIds := by decide }
  since := 0

/-- The amounts of the children of the payment in a budget. -/
private def paymentChildren (state : ExportState) : Option (List Int) :=
  (state.budget.imported ("Checking", "fs_pay-1")).map fun row => row.children.map (·.amount)

end Runs

end FinanceSync.ActualBudget
