import FinanceSync.ActualBudget.Legs
import FinanceSync.ActualBudget.Units

/-!
# Transfers are booked once on each side

The negative leg of a transfer is booked as a native transfer or as it is, on the
Actual account of its own account.  A positive leg is never booked itself.  Its
amount arrives only if the opposite leg becomes a native transfer into its account,
and nothing in a run sees to that.
-/

namespace FinanceSync.ActualBudget

open Lib
open Wealthfolio (cents cents_eq_iff cents_of_units WholeCents)

variable {runtime : Runtime} {run : ExportRun}

/-! ## What is booked for a leg -/

/-- The amounts that are booked for a leg on an Actual account. -/
def bookings (budget : Budget) (abName : String) (leg : Transaction) : List Int :=
  ((transfersOf budget.transfers leg).filter (·.sourceAccount = abName)).map (-·.amount) ++
    ((budget.imported (abName, buildImportedId leg)).map (·.amount)).toList

/-- A number of cents is the amount, where the amount has two decimals. -/
def InCents (stored : Int) (amount : ℚ) : Prop := WholeCents amount → (stored : ℚ) / 100 = amount

/-- The amount of a leg is booked once on an Actual account. -/
def BookedOnce (budget : Budget) (abName : String) (leg : Transaction) : Prop :=
  ∃ stored, bookings budget abName leg = [stored] ∧ InCents stored leg.amount.value

/-- A leg was exported as one native transfer of an amount into an Actual account. -/
def ExportedInto (transfers : List Transfer) (leg : Transaction) (abName : String)
    (amount : ℚ) : Prop :=
  ∃ transfer, transfersOf transfers leg = [transfer] ∧ transfer.destinationAccount = abName ∧
    InCents transfer.amount amount

/-- The leg is the negative side of a transfer with the positive side. -/
def Opposite (negative positive : Transaction) : Prop :=
  negative.transactionType = .transfer ∧ negative.amount.value = -positive.amount.value

/-- A negative leg is booked on the account of its own; a positive leg by the
transfer of its opposite leg. -/
def LegBooked (opposite : Transaction → Transaction) (state : ExportState) (account : Account)
    (leg : Transaction) : Prop :=
  if isPositiveLeg leg then
    Opposite (opposite leg) leg ∧
      ExportedInto state.budget.transfers (opposite leg) (mappedName state account)
        leg.amount.value
  else BookedOnce state.budget (mappedName state account) leg

/-- Two positive legs have two opposite legs. -/
def OppositesDiffer (runtime : Runtime) (run : ExportRun)
    (opposite : Transaction → Transaction) : Prop :=
  ∀ account ∈ loadAccounts runtime run, ∀ first ∈ pendingLegs runtime run account,
    ∀ other ∈ loadAccounts runtime run, ∀ second ∈ pendingLegs runtime run other,
      isPositiveLeg first → isPositiveLeg second → opposite first = opposite second →
        first = second

/-- Every leg is booked once on the account of its own, and so is every leg that is
reported as delivered. -/
structure TransfersBooked (runtime : Runtime) (run : ExportRun) (state : ExportState)
    (reports : List AccountReport) (opposite : Transaction → Transaction) : Prop where
  differ : OppositesDiffer runtime run opposite
  booked : ∀ account ∈ loadAccounts runtime run, ∀ leg ∈ pendingLegs runtime run account,
    LegBooked opposite state account leg
  delivered : ∀ report ∈ reports, ∀ leg ∈ run.source.transactions,
    leg.transactionType = .transfer → leg.id ∈ report.exportedIds →
      LegBooked opposite state report.account leg

/-! ## When it is -/

/-- A leg that is to be exported as a native transfer was not imported before, and
where it was exported before, it was exported once with its amount. -/
def NativeLegsOnce (runtime : Runtime) (run : ExportRun) (state : ExportState) : Prop :=
  ∀ account ∈ loadAccounts runtime run, ∀ leg ∈ transferTransactions runtime run account,
    state.budget.imported (actualName run state account, buildImportedId leg) = none ∧
      (transfersOf state.budget.transfers leg = [] ∨
        ∃ transfer, transfersOf state.budget.transfers leg = [transfer] ∧
          transfer.sourceAccount = actualName run state account ∧
          InCents (-transfer.amount) leg.amount.value)

/-- A leg that is to be imported is within the limit of the run, is imported in
cents, and was not exported as a native transfer before. -/
def OrdinaryLegsOnce (runtime : Runtime) (run : ExportRun) (state : ExportState) : Prop :=
  ∀ account ∈ loadAccounts runtime run, ∀ leg ∈ pendingLegs runtime run account,
    ¬isPositiveLeg leg → ¬isNativeTransfer runtime run leg →
      leg ∈ importedTransactions runtime run account ∧
        ((categoryName leg).isSome ∨ cents leg.amount.value = 0) ∧
        (transfersOf state.budget.transfers leg).filter
          (·.sourceAccount = actualName run state account) = []

/-- Nothing else is imported under the imported id of a negative leg. -/
def ImportedIdsDiffer (runtime : Runtime) (run : ExportRun) (state : ExportState) : Prop :=
  ∀ account ∈ loadAccounts runtime run, ∀ transaction ∈ importedTransactions runtime run account,
    ∀ other ∈ loadAccounts runtime run, ∀ leg ∈ pendingLegs runtime run other,
      ¬isPositiveLeg leg → actualName run state account = actualName run state other →
        buildImportedId transaction = buildImportedId leg → transaction = leg

/-- The opposite leg of a positive leg is exported by the run into the account of the
positive leg, or was so before. -/
def PositiveLegsPaired (runtime : Runtime) (run : ExportRun) (state : ExportState)
    (opposite : Transaction → Transaction) : Prop :=
  ∀ account ∈ loadAccounts runtime run, ∀ leg ∈ pendingLegs runtime run account,
    isPositiveLeg leg → Opposite (opposite leg) leg ∧
      (ExportedInto state.budget.transfers (opposite leg) (actualName run state account)
          leg.amount.value ∨
        transfersOf state.budget.transfers (opposite leg) = [] ∧
          (∃ other ∈ loadAccounts runtime run,
            opposite leg ∈ transferTransactions runtime run other) ∧
          bookedDestination runtime run (opposite leg) = some (actualName run state account))

/-- What a run needs to book every leg once. -/
structure Conserving (runtime : Runtime) (run : ExportRun) (state : ExportState)
    (opposite : Transaction → Transaction) : Prop where
  differ : OppositesDiffer runtime run opposite
  mappings : MappingsKept runtime run state
  native : NativeLegsOnce runtime run state
  ordinary : OrdinaryLegsOnce runtime run state
  importedIds : ImportedIdsDiffer runtime run state
  positive : PositiveLegsPaired runtime run state opposite

/-! ## Legs of each kind -/

/-- What is converted for a native transfer is the amount of its leg. -/
theorem inCents_native {decimalToCents : ℚ → Int} (converts : ConvertsCents decimalToCents)
    {amount : ℚ} (nonpos : amount ≤ 0) : InCents (-decimalToCents |amount|) amount := by
  rintro ⟨units, isUnits⟩
  have asUnits : |amount| = ((-units : Int) : ℚ) / 100 := by
    rw [abs_of_nonpos nonpos, isUnits]
    push_cast
    ring
  rw [asUnits, converts, isUnits, neg_neg]

section Booked

variable {state : ExportState} {account : Account} {leg : Transaction}

/-- What is imported under the key of a negative leg is that leg. -/
theorem transaction_of_write (kept : MappingsKept runtime run state)
    (differ : ImportedIdsDiffer runtime run state) (exported : account ∈ loadAccounts runtime run)
    (legMem : leg ∈ pendingLegs runtime run account) (negative : ¬isPositiveLeg leg)
    {write : Write (String × String) ImportedRow}
    (writeMem : write ∈ runWrites runtime run (runExport runtime run state).1)
    (isKey : write.key = (actualName run state account, buildImportedId leg)) :
    ¬isNativeTransfer runtime run leg ∧ ∀ entry, (write.entry entry).amount =
      runtime.decimalToCents (payloadAmount (categoryName leg) leg.amount.value) := by
  obtain ⟨other, otherExported, transaction, imported, rfl⟩ := mem_runWrites.mp writeMem
  rw [importWrite_key, mappedName_runExport kept otherExported] at isKey
  obtain ⟨sameName, sameId⟩ := Prod.mk.inj isKey
  have same := differ other otherExported transaction imported account exported leg legMem negative
    sameName sameId
  constructor
  · rw [← same]
    exact (mem_importedTransactions imported).2.2
  · intro entry
    rw [importWrite_entry, amount_importedRow, same]
    rfl

theorem bookedOnce_of_native (converts : ConvertsCents runtime.decimalToCents)
    (kept : MappingsKept runtime run state) (once : NativeLegsOnce runtime run state)
    (differ : ImportedIdsDiffer runtime run state) (exported : account ∈ loadAccounts runtime run)
    (legMem : leg ∈ transferTransactions runtime run account) {destination : String}
    (found : bookedDestination runtime run leg = some destination) :
    BookedOnce (runExport runtime run state).1.budget (actualName run state account) leg := by
  obtain ⟨pending, native⟩ := mem_transferTransactions.mp legMem
  have isTransfer := isNativeTransfer_transactionType native
  have negative := not_positive_of_native native
  have inLegs : leg ∈ pendingLegs runtime run account :=
    List.mem_filter.mpr ⟨pending, by simpa using isTransfer⟩
  obtain ⟨notBefore, transfersBefore⟩ := once account exported leg legMem
  have notImported : (runExport runtime run state).1.budget.imported
      (actualName run state account, buildImportedId leg) = none := by
    rw [imported_runExport, Write.applyAll_of_not_mem _ _, notBefore]
    intro write writeMem isKey
    exact (transaction_of_write kept differ exported inLegs negative writeMem isKey.symm).1 native
  have transfer : ∃ transfer,
      transfersOf (runExport runtime run state).1.budget.transfers leg = [transfer] ∧
        transfer.sourceAccount = actualName run state account ∧
        InCents (-transfer.amount) leg.amount.value := by
    rw [transfers_runExport kept]
    cases transfersBefore with
    | inr before =>
        obtain ⟨transfer, isOne, source, amount⟩ := before
        rw [transfersOf_foldl_of_ne_nil _ (by rw [isOne]; simp)]
        exact ⟨transfer, isOne, source, amount⟩
    | inl new =>
        have inRun : (actualName run state account, leg) ∈ runLegs runtime run state :=
          mem_runLegs.mpr ⟨account, exported, legMem, rfl⟩
        have nonpos := amount_nonpos_of_not_positive isTransfer negative
        rw [transfersOf_foldl_of_mem _ inRun
          (fun other otherMem same => runLegs_unique otherMem inRun same) new found]
        exact ⟨_, rfl, if_neg (not_lt.mpr nonpos), inCents_native converts nonpos⟩
  obtain ⟨transfer, isOne, source, amount⟩ := transfer
  refine ⟨-transfer.amount, ?_, amount⟩
  rw [bookings, notImported, isOne, List.filter_cons_of_pos (by simpa using source)]
  rfl

theorem bookedOnce_of_ordinary (converts : ConvertsCents runtime.decimalToCents)
    (kept : MappingsKept runtime run state) (once : OrdinaryLegsOnce runtime run state)
    (differ : ImportedIdsDiffer runtime run state) (exported : account ∈ loadAccounts runtime run)
    (legMem : leg ∈ pendingLegs runtime run account) (negative : ¬isPositiveLeg leg)
    (notNative : ¬isNativeTransfer runtime run leg) :
    BookedOnce (runExport runtime run state).1.budget (actualName run state account) leg := by
  obtain ⟨imported, inCents, noTransfers⟩ := once account exported leg legMem negative notNative
  have written : ∃ write ∈ runWrites runtime run (runExport runtime run state).1,
      write.key = (actualName run state account, buildImportedId leg) := by
    refine ⟨_, mem_runWrites.mpr ⟨account, exported, leg, imported, rfl⟩, ?_⟩
    rw [importWrite_key, mappedName_runExport kept exported]
    rfl
  obtain ⟨before, write, after, split, isKey, last⟩ := Write.exists_last written
  have writeMem : write ∈ runWrites runtime run (runExport runtime run state).1 := by
    rw [split]
    simp
  have amount := (transaction_of_write kept differ exported legMem negative writeMem isKey).2
  have stored : ((runExport runtime run state).1.budget.imported
      (actualName run state account, buildImportedId leg)).map (·.amount) =
        some (cents leg.amount.value) := by
    rw [imported_runExport, split, ← isKey, Write.applyAll_at write last, Option.map_some, amount,
      (decimalToCents_payloadAmount_iff converts _ _).mpr inCents]
  have sameTransfers : transfersOf (runExport runtime run state).1.budget.transfers leg =
      transfersOf state.budget.transfers leg := by
    rw [transfers_runExport kept]
    apply transfersOf_foldl_of_not_mem
    intro other otherMem sameId
    obtain ⟨otherAccount, _, otherLeg, _⟩ := mem_runLegs.mp otherMem
    have inSource := (mem_source_of_transferTransactions otherLeg).1
    have legInSource := (mem_fetchPendingTransactions.mp (List.mem_filter.mp legMem).1).1
    rw [transaction_eq_of_id inSource legInSource sameId] at otherLeg
    exact notNative (mem_transferTransactions.mp otherLeg).2
  refine ⟨cents leg.amount.value, ?_, fun whole => (cents_eq_iff _).mpr whole⟩
  rw [bookings, sameTransfers, noTransfers, stored]
  rfl

/-- The opposite leg of a positive leg arrives in the account of the positive leg. -/
theorem exportedInto_of_paired (converts : ConvertsCents runtime.decimalToCents)
    (kept : MappingsKept runtime run state) {opposite : Transaction → Transaction}
    (paired : PositiveLegsPaired runtime run state opposite)
    (exported : account ∈ loadAccounts runtime run)
    (legMem : leg ∈ pendingLegs runtime run account) (positive : isPositiveLeg leg) :
    Opposite (opposite leg) leg ∧
      ExportedInto (runExport runtime run state).1.budget.transfers (opposite leg)
        (actualName run state account) leg.amount.value := by
  obtain ⟨isOpposite, arrives⟩ := paired account exported leg legMem positive
  refine ⟨isOpposite, ?_⟩
  rw [transfers_runExport kept]
  cases arrives with
  | inl before =>
      obtain ⟨transfer, isOne, destination, amount⟩ := before
      refine ⟨transfer, ?_, destination, amount⟩
      rw [transfersOf_foldl_of_ne_nil _ (by rw [isOne]; simp), isOne]
  | inr now =>
      obtain ⟨new, ⟨other, otherExported, oppositeMem⟩, found⟩ := now
      have native := (mem_transferTransactions.mp oppositeMem).2
      have nonpos := amount_nonpos_of_not_positive isOpposite.1 (not_positive_of_native native)
      have inRun : (actualName run state other, opposite leg) ∈ runLegs runtime run state :=
        mem_runLegs.mpr ⟨other, otherExported, oppositeMem, rfl⟩
      have amount := inCents_native converts nonpos
      refine ⟨_, transfersOf_foldl_of_mem _ inRun
        (fun later laterMem same => runLegs_unique laterMem inRun same) new found,
        if_neg (not_lt.mpr nonpos), ?_⟩
      intro whole
      obtain ⟨units, isUnits⟩ := whole
      have negated : (opposite leg).amount.value = ((-units : Int) : ℚ) / 100 := by
        rw [isOpposite.2, isUnits]
        push_cast
        ring
      have same := amount ⟨-units, negated⟩
      rw [isOpposite.2] at same
      push_cast at same
      rw [nativeTransfer]
      dsimp only
      rw [isOpposite.2]
      linarith

end Booked

section Runs

private def checkingAccount : Account where
  id := "checking"
  name := "Checking"
  accountType := "checking"
  providerKey := "bunq"

private def savingsAccount : Account where
  id := "savings"
  name := "Savings"
  accountType := "savings"
  providerKey := "bunq"

private def outgoingLeg : Transaction where
  id := "11111111-1111-1111-1111-111111111111"
  accountId := "checking"
  providerKey := "bunq"
  externalTransactionId := "out-1"
  amount := -50
  currencyCode := "EUR"
  occurredAt := 0
  transactionType := .transfer
  status := .booked
  counterpartyAccountReference := some "NL02BUNQ0000000002"

private def incomingLeg : Transaction where
  id := "22222222-2222-2222-2222-222222222222"
  accountId := "savings"
  providerKey := "bunq"
  externalTransactionId := "in-1"
  amount := 50
  currencyCode := "EUR"
  occurredAt := 0
  transactionType := .transfer
  status := .booked
  counterpartyAccountReference := some "NL01BUNQ0000000001"

private def emptyState : ExportState := ⟨Budget.empty, fun _ => none⟩

/-- Both accounts of a transfer are exported, and the destination is configured. -/
private def pairedRun : ExportRun where
  config := { transferAccountNameOverrides := [("NL02BUNQ0000000002", "Savings")] }
  source :=
    { accounts := [checkingAccount, savingsAccount]
      transactions := [outgoingLeg, incomingLeg]
      accountIds := by decide
      transactionIds := by decide }
  since := 0

/-- Only the account with the positive leg is exported. -/
private def unpairedRun : ExportRun := { pairedRun with accountIds := ["savings"] }

private theorem incomingLeg_positive : isPositiveLeg incomingLeg :=
  decide_eq_true (by positivity : (0 : ℚ) < 50 * 10 ^ 0)

private theorem outgoingLeg_native : isNativeTransfer asciiRuntime pairedRun outgoingLeg := by
  decide +kernel

private theorem pairedRun_leg {account : Account} {leg : Transaction}
    (pending : leg ∈ fetchPendingTransactions asciiRuntime pairedRun account) :
    leg = outgoingLeg ∧ account.id = "checking" ∨ leg = incomingLeg ∧ account.id = "savings" := by
  obtain ⟨inSource, ofAccount, _⟩ := mem_fetchPendingTransactions.mp pending
  cases List.mem_cons.mp inSource with
  | inl isOutgoing =>
      rw [isOutgoing] at ofAccount
      exact .inl ⟨isOutgoing, ofAccount.symm⟩
  | inr rest =>
      have isIncoming := List.mem_singleton.mp rest
      rw [isIncoming] at ofAccount
      exact .inr ⟨isIncoming, ofAccount.symm⟩

private theorem pairedRun_nothing_imported {leg : Transaction} {account : Account}
    (pending : leg ∈ fetchPendingTransactions asciiRuntime pairedRun account)
    (negative : ¬isPositiveLeg leg) (notNative : ¬isNativeTransfer asciiRuntime pairedRun leg) :
    False := by
  cases pairedRun_leg pending with
  | inl outgoing => exact notNative (outgoing.1 ▸ outgoingLeg_native)
  | inr incoming => exact negative (incoming.1 ▸ incomingLeg_positive)

end Runs

end FinanceSync.ActualBudget
