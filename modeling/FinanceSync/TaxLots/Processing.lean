import FinanceSync.TaxLots.Service

/-!
# What processing a transaction does

The five things `processTransaction` can do, as the cases of one proposition, and
the totals that its actions report.
-/

namespace FinanceSync.TaxLots

open Lib

/-- The outcomes of processing one transaction. -/
inductive Processed (order : AcquisitionOrder) (costBasisMethod : CostBasisMethod)
    (lots : LotTable) (transaction : Transaction) : LotTable × List Action → Prop
  | purchase (securityId : Uuid) (isPurchase : transaction.transactionType = .purchase)
      (security : transaction.securityId = some securityId) :
      Processed order costBasisMethod lots transaction
        ((createTaxLotsForPurchase lots transaction securityId).1,
          [.lotCreated lots.next transaction.absQuantity])
  | sale (securityId : Uuid) (isSale : transaction.transactionType = .sale)
      (security : transaction.securityId = some securityId) :
      Processed order costBasisMethod lots transaction
        (processSale order costBasisMethod lots transaction securityId)
  | transfer (destination : Transaction) (securityId destinationSecurityId : Uuid)
      (isTransfer : transaction.transactionType = .transfer) :
      Processed order costBasisMethod lots transaction
        ((transferLotsToDestination order lots transaction destination securityId
            destinationSecurityId).1,
          [(transferLotsToDestination order lots transaction destination securityId
            destinationSecurityId).2])
  | quantityEvent (notPurchase : transaction.transactionType ≠ .purchase)
      (notSale : transaction.transactionType ≠ .sale) :
      Processed order costBasisMethod lots transaction
        ((processQuantityEvent order lots transaction).1,
          [(processQuantityEvent order lots transaction).2])
  | nothing
      (notPurchase : transaction.transactionType = .purchase → transaction.securityId = none)
      (notSale : transaction.transactionType = .sale → transaction.securityId = none) :
      Processed order costBasisMethod lots transaction (lots, [])

theorem processTransaction_processed (order : AcquisitionOrder)
    (costBasisMethod : CostBasisMethod) (pairedTransfer : Option Transaction) (lots : LotTable)
    (transaction : Transaction) :
    Processed order costBasisMethod lots transaction
      (processTransaction order costBasisMethod pairedTransfer lots transaction) := by
  unfold processTransaction
  split
  · rename_i securityId isPurchase security
    exact .purchase securityId isPurchase security
  · rename_i securityId isSale security
    exact .sale securityId isSale security
  · rename_i securityId isTransfer security
    split
    · exact .nothing (by simp [isTransfer]) (by simp [isTransfer])
    · exact .transfer _ _ _ isTransfer
  · rename_i isSplit
    exact .quantityEvent (by simp [isSplit]) (by simp [isSplit])
  · rename_i isAdjustment
    exact .quantityEvent (by simp [isAdjustment]) (by simp [isAdjustment])
  · rename_i isCorporateAction
    exact .quantityEvent (by simp [isCorporateAction]) (by simp [isCorporateAction])
  · rename_i notPurchase notSale _
    refine .nothing (fun isPurchase => ?_) (fun isSale => ?_)
    · exact Option.eq_none_iff_forall_ne_some.mpr fun securityId security =>
        notPurchase securityId isPurchase security
    · exact Option.eq_none_iff_forall_ne_some.mpr fun securityId security =>
        notSale securityId isSale security

/-! ## The reported totals -/

/-- The realised P&L that an action reports for a matched sale. -/
def Action.realized : Action → ℚ
  | .lotsMatched _ _ totalRealizedPl => totalRealizedPl
  | _ => 0

/-- The disallowed loss that an action reports in wash-sale adjustments. -/
def Action.disallowed : Action → ℚ
  | .washSaleAdjustment adjustments =>
      (adjustments.map WashSaleAdjustment.disallowedLoss).sum
  | _ => 0

def realizedReported (actions : List Action) : ℚ := (actions.map Action.realized).sum

def disallowedReported (actions : List Action) : ℚ := (actions.map Action.disallowed).sum

@[simp] theorem realizedReported_append (actions more : List Action) :
    realizedReported (actions ++ more) = realizedReported actions + realizedReported more := by
  simp [realizedReported]

@[simp] theorem disallowedReported_append (actions more : List Action) :
    disallowedReported (actions ++ more) =
      disallowedReported actions + disallowedReported more := by
  simp [disallowedReported]

/-! ## Actions without a result -/

/-- An action that is neither a matched sale nor a wash sale. -/
def Action.Silent (action : Action) : Prop := action.realized = 0 ∧ action.disallowed = 0

theorem transferLotsToDestination_silent (order : AcquisitionOrder) (lots : LotTable)
    (transaction destination : Transaction) (securityId destinationSecurityId : Uuid) :
    (transferLotsToDestination order lots transaction destination securityId
      destinationSecurityId).2.Silent := by
  unfold transferLotsToDestination
  dsimp only
  split
  · exact ⟨rfl, rfl⟩
  · split
    · exact ⟨rfl, rfl⟩
    · split <;> exact ⟨rfl, rfl⟩

theorem processQuantityEvent_silent (order : AcquisitionOrder) (lots : LotTable)
    (transaction : Transaction) : (processQuantityEvent order lots transaction).2.Silent := by
  unfold processQuantityEvent applyQuantityEventToLots
  split
  · exact ⟨rfl, rfl⟩
  · split
    · exact ⟨rfl, rfl⟩
    · split <;> exact ⟨rfl, rfl⟩

theorem reported_of_silent {action : Action} (silent : action.Silent) :
    realizedReported [action] = 0 ∧ disallowedReported [action] = 0 := by
  simp [realizedReported, disallowedReported, silent.1, silent.2]

theorem processSale_realized (order : AcquisitionOrder) (costBasisMethod : CostBasisMethod)
    (lots : LotTable) (transaction : Transaction) (securityId : Uuid) :
    realizedReported (processSale order costBasisMethod lots transaction securityId).2 =
      ((matchSaleToLots order costBasisMethod lots transaction securityId).2.map
        ClosureRecord.realizedPl).sum := by
  simp only [processSale]
  split <;> simp [realizedReported, Action.realized]

theorem processSale_disallowed (order : AcquisitionOrder) (costBasisMethod : CostBasisMethod)
    (lots : LotTable) (transaction : Transaction) (securityId : Uuid) :
    disallowedReported (processSale order costBasisMethod lots transaction securityId).2 =
      ((detectAndAdjustWashSales order
        (matchSaleToLots order costBasisMethod lots transaction securityId).1 transaction
        securityId).2.map WashSaleAdjustment.disallowedLoss).sum := by
  simp only [processSale]
  split
  · rename_i noAdjustment
    rw [List.isEmpty_iff.mp noAdjustment]
    simp [disallowedReported, Action.disallowed]
  · simp [disallowedReported, Action.disallowed]

end FinanceSync.TaxLots
