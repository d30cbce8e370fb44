import FinanceSync.TaxLots.CarriedBasis

/-!
# The accounting identity of a rebuild

What the matched sales realise, together with the losses disallowed by wash
sales, should be the proceeds less the purchase costs plus the basis still
carried by open lots.  Purchases, sales, quantity events and transfers keep the
identity; a wash sale keeps it exactly if the replacement lots it reaches still
hold all their units.
-/

namespace FinanceSync.TaxLots

open Lib

def saleProceeds (transaction : Transaction) : ℚ :=
  if transaction.transactionType = .sale then transaction.absAmount else 0

def purchaseCost (transaction : Transaction) : ℚ :=
  if transaction.transactionType = .purchase then transaction.absAmount else 0

/-! ## The domain -/

/-- Purchases and sales state how many units they move. -/
def HasQuantity (transaction : Transaction) : Prop :=
  transaction.transactionType = .purchase ∨ transaction.transactionType = .sale →
    transaction.absQuantity ≠ 0

instance (transaction : Transaction) : Decidable (HasQuantity transaction) :=
  inferInstanceAs (Decidable (_ → _))

/-- The open lots cover the sale. -/
def SaleCovered (order : AcquisitionOrder) (costBasisMethod : CostBasisMethod) (lots : LotTable)
    (transaction : Transaction) : Prop :=
  transaction.transactionType = .sale → ∀ securityId ∈ transaction.securityId,
    transaction.absQuantity ≤
      availableForSale order costBasisMethod lots transaction securityId

instance (order : AcquisitionOrder) (costBasisMethod : CostBasisMethod) (lots : LotTable)
    (transaction : Transaction) :
    Decidable (SaleCovered order costBasisMethod lots transaction) :=
  inferInstanceAs (Decidable (_ → _))

/-- Every sale of the rebuild is covered by the lots open at its turn. -/
def SalesCovered (order : AcquisitionOrder) (costBasisMethod : CostBasisMethod)
    (stored : List Transaction) : Prop :=
  Along (replayStep order costBasisMethod stored)
    (fun state transaction => SaleCovered order costBasisMethod state.lots transaction)
    emptyRebuild (replayedTransactions stored)

instance (order : AcquisitionOrder) (costBasisMethod : CostBasisMethod)
    (stored : List Transaction) : Decidable (SalesCovered order costBasisMethod stored) :=
  inferInstanceAs (Decidable (Along _ _ _ _))

/-! ## Wash sales -/

/-- No replacement lot that takes a part of the loss has been sold in part: a
lot takes a part if the basis of the lots before it does not use up the loss and
it has a basis itself. -/
def ReplacementsWhole (order : AcquisitionOrder) (lots : LotTable) (transaction : Transaction)
    (securityId : Uuid) : Prop :=
  ∀ before lot after,
    replacementLots order lots transaction securityId = before ++ lot :: after →
    (before.map TaxLot.costBasisTotal).sum < closedLoss lots transaction →
    lot.costBasisTotal ≠ 0 → lot.remainingQuantity = lot.quantity

/-- `ReplacementsWhole` at the moment the sale looks for wash sales, which is
after it has been matched. -/
def WashSaleWhole (order : AcquisitionOrder) (costBasisMethod : CostBasisMethod)
    (lots : LotTable) (transaction : Transaction) : Prop :=
  transaction.transactionType = .sale → ∀ securityId ∈ transaction.securityId,
    ReplacementsWhole order
      (matchSaleToLots order costBasisMethod lots transaction securityId).1
      transaction securityId

/-- No wash sale of the rebuild adjusts a replacement lot that has already been
sold in part. -/
def WashSalesWhole (order : AcquisitionOrder) (costBasisMethod : CostBasisMethod)
    (stored : List Transaction) : Prop :=
  Along (replayStep order costBasisMethod stored)
    (fun state transaction => WashSaleWhole order costBasisMethod state.lots transaction)
    emptyRebuild (replayedTransactions stored)

section WashSales

variable {order : AcquisitionOrder} {costBasisMethod : CostBasisMethod} {lots : LotTable}
  {transaction : Transaction} {securityId : Uuid}

private theorem lostBasis_term_nonneg (sound : ∀ lot ∈ lots.rows, SoundShares lot)
    {allocation : TaxLot × ℚ}
    (isMem : allocation ∈ disallowedLosses order lots transaction securityId) :
    0 ≤ allocation.2 *
      (1 - allocation.1.remainingQuantity / allocation.1.quantity) := by
  have totalNonneg : ∀ lot ∈ lots.rows, 0 ≤ lot.costBasisTotal :=
    fun lot lotMem => (sound lot lotMem).1.totalNonneg
  obtain ⟨stored, -, nonneg⟩ := disallowed_bounds totalNonneg isMem
  obtain ⟨soundLot, quantityPos⟩ := sound _ stored
  have share := div_le_one_of_le₀ soundLot.remainingLe quantityPos.le
  exact mul_nonneg nonneg (sub_nonneg.mpr share)

theorem lostBasis_nonneg (sound : ∀ lot ∈ lots.rows, SoundShares lot) :
    0 ≤ lostBasis (disallowedLosses order lots transaction securityId) := by
  refine List.sum_nonneg fun value valueMem => ?_
  obtain ⟨allocation, isMem, rfl⟩ := List.mem_map.mp valueMem
  exact lostBasis_term_nonneg sound isMem

/-- No basis is lost exactly if all replacement lots that are reached are whole. -/
theorem lostBasis_eq_zero_iff (sound : ∀ lot ∈ lots.rows, SoundShares lot) :
    lostBasis (disallowedLosses order lots transaction securityId) = 0 ↔
      ReplacementsWhole order lots transaction securityId := by
  have totalNonneg : ∀ lot ∈ replacementLots order lots transaction securityId,
      0 ≤ lot.costBasisTotal :=
    fun lot lotMem => (sound lot (mem_replacementLots lotMem).1).1.totalNonneg
  unfold lostBasis
  rw [sum_map_eq_zero_iff fun _ isMem => lostBasis_term_nonneg sound isMem]
  have wholeIff : ∀ lot ∈ lots.rows,
      1 - lot.remainingQuantity / lot.quantity = 0 ↔ lot.remainingQuantity = lot.quantity := by
    intro lot lotMem
    rw [sub_eq_zero, eq_comm, div_eq_one_iff_eq (sound lot lotMem).2.ne']
  constructor
  · intro allWhole before lot after split reached hasBasis
    have lotMem : lot ∈ replacementLots order lots transaction securityId := by
      rw [split]
      exact List.mem_append_right _ List.mem_cons_self
    have basisPos : 0 < lot.costBasisTotal :=
      lt_of_le_of_ne (totalNonneg lot lotMem) hasBasis.symm
    have taken : (lot, min (closedLoss lots transaction -
        (before.map TaxLot.costBasisTotal).sum) lot.costBasisTotal) ∈
        disallowedLosses order lots transaction securityId :=
      (mem_draw_iff _ totalNonneg _).mpr ⟨before, after, split, reached, rfl⟩
    have takenPos := lt_min (sub_pos.mpr reached) basisPos
    have factorZero := (mul_eq_zero.mp (allWhole _ taken)).resolve_left takenPos.ne'
    exact (wholeIff lot (mem_replacementLots lotMem).1).mp factorZero
  · intro whole allocation isMem
    obtain ⟨before, after, split, reached, amount⟩ := (mem_draw_iff _ totalNonneg _).mp isMem
    have stored := (mem_replacementLots (mem_of_mem_draw isMem)).1
    by_cases hasBasis : allocation.1.costBasisTotal = 0
    · have noAmount : allocation.2 = 0 := by
        rw [amount, hasBasis]
        exact min_eq_right (sub_nonneg.mpr reached.le)
      rw [noAmount, zero_mul]
    · rw [(wholeIff _ stored).mpr (whole _ _ _ split reached hasBasis), mul_zero]

/-- The basis that is lost when a transaction is processed: only sales lose any. -/
def basisLost (order : AcquisitionOrder) (costBasisMethod : CostBasisMethod) (lots : LotTable)
    (transaction : Transaction) : ℚ :=
  match transaction.transactionType, transaction.securityId with
  | .sale, some securityId =>
      lostBasis (disallowedLosses order
        (matchSaleToLots order costBasisMethod lots transaction securityId).1
        transaction securityId)
  | _, _ => 0

end WashSales

/-! ## One transaction -/

section Step

variable {order : AcquisitionOrder} {costBasisMethod : CostBasisMethod} {lots : LotTable}
  {transaction : Transaction}

private theorem soundShares_matchSaleToLots (order : AcquisitionOrder)
    (costBasisMethod : CostBasisMethod) (sound : ∀ lot ∈ lots.rows, SoundShares lot)
    (isSale : transaction.transactionType = .sale) (securityId : Uuid) :
    ∀ lot ∈ (matchSaleToLots order costBasisMethod lots transaction securityId).1.rows,
      SoundShares lot :=
  matchSaleToLots_forall order costBasisMethod securityId
    (soundShares_closed fun isPurchase => by rw [isSale] at isPurchase; contradiction) sound

theorem basisLost_nonneg (order : AcquisitionOrder) (costBasisMethod : CostBasisMethod)
    (transaction : Transaction) (sound : ∀ lot ∈ lots.rows, SoundShares lot) :
    0 ≤ basisLost order costBasisMethod lots transaction := by
  unfold basisLost
  split
  · rename_i isSale _
    exact lostBasis_nonneg (soundShares_matchSaleToLots _ _ sound isSale _)
  · exact le_rfl

theorem basisLost_eq_zero_iff (order : AcquisitionOrder) (costBasisMethod : CostBasisMethod)
    (transaction : Transaction) (sound : ∀ lot ∈ lots.rows, SoundShares lot) :
    basisLost order costBasisMethod lots transaction = 0 ↔
      WashSaleWhole order costBasisMethod lots transaction := by
  unfold basisLost WashSaleWhole
  split
  · rename_i securityId isSale hasSecurity
    rw [lostBasis_eq_zero_iff (soundShares_matchSaleToLots _ _ sound isSale _)]
    simp [isSale, hasSecurity]
  · rename_i notSale
    refine iff_of_true rfl ?_
    intro isSale securityId hasSecurity
    exact absurd hasSecurity (notSale securityId isSale)

/-- What processing a transaction adds to the reported totals less the carried
basis. -/
def balance (processed : LotTable × List Action) : ℚ :=
  realizedReported processed.2 + disallowedReported processed.2 - carried processed.1

theorem sale_balance (order : AcquisitionOrder) (costBasisMethod : CostBasisMethod)
    {securityId : Uuid} (sound : ∀ lot ∈ lots.rows, SoundShares lot)
    (isSale : transaction.transactionType = .sale)
    (security : transaction.securityId = some securityId)
    (hasQuantity : transaction.absQuantity ≠ 0)
    (covered : transaction.absQuantity ≤
      availableForSale order costBasisMethod lots transaction securityId) :
    balance (processSale order costBasisMethod lots transaction securityId) =
      transaction.absAmount + basisLost order costBasisMethod lots transaction -
        carried lots := by
  have matched := matchSaleToLots_carried order costBasisMethod lots securityId hasQuantity
  rw [drawn_saleAllocations covered, mul_div_cancel₀ _ hasQuantity] at matched
  have washed := detectAndAdjustWashSales_carried order securityId
    (soundShares_matchSaleToLots order costBasisMethod sound isSale securityId) hasQuantity
  rw [balance, processSale_realized, processSale_disallowed, matched]
  simp only [basisLost, isSale, security]
  change _ - carried (detectAndAdjustWashSales order
    (matchSaleToLots order costBasisMethod lots transaction securityId).1 transaction
    securityId).1 = _
  rw [washed]
  ring

/-- What one transaction adds to the reported totals less the carried basis. -/
theorem processTransaction_balance (sound : ∀ lot ∈ lots.rows, SoundShares lot)
    (pairedTransfer : Option Transaction) (hasSecurity : transaction.securityId.isSome)
    (hasQuantity : HasQuantity transaction)
    (covered : SaleCovered order costBasisMethod lots transaction) :
    balance (processTransaction order costBasisMethod pairedTransfer lots transaction) =
      saleProceeds transaction - purchaseCost transaction +
        basisLost order costBasisMethod lots transaction - carried lots := by
  have outcome := processTransaction_processed order costBasisMethod pairedTransfer lots transaction
  generalize processTransaction order costBasisMethod pairedTransfer lots transaction =
    processed at outcome
  cases outcome with
  | purchase securityId isPurchase _ =>
      have carriedAfter := createTaxLotsForPurchase_carried lots securityId
        (hasQuantity (Or.inl isPurchase))
      simp only [balance, carriedAfter, realizedReported, disallowedReported, List.map_cons,
        List.map_nil, List.sum_cons, List.sum_nil, Action.realized, Action.disallowed,
        saleProceeds, purchaseCost, basisLost, isPurchase, reduceCtorEq, if_false, if_true]
      ring
  | sale securityId isSale security =>
      rw [sale_balance order costBasisMethod sound isSale security (hasQuantity (Or.inr isSale))
        (covered isSale securityId security)]
      simp [saleProceeds, purchaseCost, isSale]
  | transfer destination securityId destinationSecurityId isTransfer =>
      have silent := reported_of_silent (transferLotsToDestination_silent order lots transaction
        destination securityId destinationSecurityId)
      rw [balance, silent.1, silent.2, carried,
        sum_transferLotsToDestination openBasis_passedOn fun _ _ => trivial, carried]
      simp [saleProceeds, purchaseCost, basisLost, isTransfer]
  | quantityEvent notPurchase notSale =>
      have silent := reported_of_silent (processQuantityEvent_silent order lots transaction)
      rw [balance, silent.1, silent.2, carried, sum_processQuantityEvent openBasis_passedOn,
        carried]
      simp [saleProceeds, purchaseCost, basisLost, notPurchase, notSale]
  | nothing notPurchase notSale =>
      have noPurchase : transaction.transactionType ≠ .purchase := fun isPurchase => by
        simp [notPurchase isPurchase] at hasSecurity
      have noSale : transaction.transactionType ≠ .sale := fun isSale => by
        simp [notSale isSale] at hasSecurity
      simp [balance, realizedReported, disallowedReported, saleProceeds, purchaseCost, basisLost,
        noPurchase, noSale]

end Step

/-! ## The rebuild -/

section Rebuild

variable {order : AcquisitionOrder} {costBasisMethod : CostBasisMethod}

/-- The reported totals less the carried basis, over a rebuild so far. -/
def Rebuild.balance (state : Rebuild) : ℚ := TaxLots.balance (state.lots, state.actions)

/-- The condition on a step of the rebuild under which the identity is claimed. -/
def StepInDomain (order : AcquisitionOrder) (costBasisMethod : CostBasisMethod)
    (state : Rebuild) (transaction : Transaction) : Prop :=
  (transaction.securityId.isSome ∧ HasQuantity transaction) ∧
    SaleCovered order costBasisMethod state.lots transaction

/-- The invariant of the rebuild: all lots are sound and have shares. -/
def SoundRebuild (state : Rebuild) : Prop := ∀ lot ∈ state.lots.rows, SoundShares lot

theorem soundRebuild_empty : SoundRebuild emptyRebuild := by
  simp [SoundRebuild, emptyRebuild]

theorem replayStep_sound {stored : List Transaction} (state : Rebuild)
    (transaction : Transaction) (sound : SoundRebuild state)
    (inDomain : StepInDomain order costBasisMethod state transaction) :
    SoundRebuild (replayStep order costBasisMethod stored state transaction) :=
  processTransaction_forall
    (soundShares_closed fun isPurchase => inDomain.1.2 (Or.inl isPurchase)) _ sound

theorem replayStep_balance {stored : List Transaction} (state : Rebuild)
    (transaction : Transaction) (sound : SoundRebuild state)
    (inDomain : StepInDomain order costBasisMethod state transaction) :
    (replayStep order costBasisMethod stored state transaction).balance =
      state.balance + (saleProceeds transaction - purchaseCost transaction +
        basisLost order costBasisMethod state.lots transaction) := by
  have step := processTransaction_balance sound
    ((pairSecurityTransferLegs (replayedTransactions stored)).lookup transaction.id)
    inDomain.1.1 inDomain.1.2 inDomain.2
  simp only [Rebuild.balance, balance, replayStep, rebuildStep, realizedReported_append,
    disallowedReported_append] at step ⊢
  linarith

theorem securityId_isSome_of_replayed {stored : List Transaction} {transaction : Transaction}
    (isMem : transaction ∈ replayedTransactions stored) :
    transaction.securityId.isSome := by
  rw [replayedTransactions, OrderBy.mem_sort, List.mem_filter] at isMem
  exact (of_decide_eq_true isMem.2).2

theorem mem_stored_of_replayed {stored : List Transaction} {transaction : Transaction}
    (isMem : transaction ∈ replayedTransactions stored) : transaction ∈ stored := by
  rw [replayedTransactions, OrderBy.mem_sort, List.mem_filter] at isMem
  exact isMem.1

end Rebuild

/-- The identity: realised P&L and disallowed losses are the proceeds less the
purchase costs plus the basis carried by open lots. -/
def AccountingIdentity (order : AcquisitionOrder) (costBasisMethod : CostBasisMethod)
    (stored : List Transaction) : Prop :=
  let rebuilt := computeAllTaxLots order costBasisMethod stored
  realizedReported rebuilt.actions + disallowedReported rebuilt.actions =
    ((replayedTransactions stored).map saleProceeds).sum -
      ((replayedTransactions stored).map purchaseCost).sum + carried rebuilt.lots

section Identity

variable {order : AcquisitionOrder} {costBasisMethod : CostBasisMethod}
  {stored : List Transaction}

theorem along_stepInDomain (haveQuantity : ∀ transaction ∈ stored, HasQuantity transaction)
    (covered : SalesCovered order costBasisMethod stored) :
    Along (replayStep order costBasisMethod stored) (StepInDomain order costBasisMethod)
      emptyRebuild (replayedTransactions stored) := by
  refine along_and _ (along_of_forall _ fun transaction isMem => ?_) covered
  exact ⟨securityId_isSome_of_replayed isMem,
    haveQuantity transaction (mem_stored_of_replayed isMem)⟩

/-- The balance of a rebuild is what its transactions account for, plus the
basis lost in wash sales. -/
theorem computeAllTaxLots_balance
    (haveQuantity : ∀ transaction ∈ stored, HasQuantity transaction)
    (covered : SalesCovered order costBasisMethod stored) :
    (computeAllTaxLots order costBasisMethod stored).balance =
      ((replayedTransactions stored).map saleProceeds).sum -
        ((replayedTransactions stored).map purchaseCost).sum +
      totalCost (replayStep order costBasisMethod stored)
        (fun state transaction => basisLost order costBasisMethod state.lots transaction)
        emptyRebuild (replayedTransactions stored) := by
  have total := runAll_measure replayStep_sound replayStep_balance
    (replayedTransactions stored) soundRebuild_empty (along_stepInDomain haveQuantity covered)
  rw [totalCost_add, totalCost_inputs] at total
  have accounted : ((replayedTransactions stored).map fun transaction =>
        saleProceeds transaction - purchaseCost transaction).sum =
      ((replayedTransactions stored).map saleProceeds).sum -
        ((replayedTransactions stored).map purchaseCost).sum := by
    induction replayedTransactions stored with
    | nil => simp
    | cons transaction rest ih =>
        simp only [List.map_cons, List.sum_cons, ih]
        ring
  rw [computeAllTaxLots, total, accounted]
  simp [Rebuild.balance, balance, emptyRebuild, realizedReported, disallowedReported, carried]

instance : Decidable (AccountingIdentity order costBasisMethod stored) :=
  inferInstanceAs (Decidable (_ = _))

/-- The identity holds of a rebuild exactly if no wash sale adjusts a replacement
lot that has already been sold in part. -/
theorem accountingIdentity_iff (haveQuantity : ∀ transaction ∈ stored, HasQuantity transaction)
    (covered : SalesCovered order costBasisMethod stored) :
    AccountingIdentity order costBasisMethod stored ↔
      WashSalesWhole order costBasisMethod stored := by
  have inDomain := along_stepInDomain haveQuantity covered
  have balanced := computeAllTaxLots_balance haveQuantity covered
  have nothingLost := (totalCost_eq_zero_iff replayStep_sound
    (fun _ transaction sound _ => basisLost_nonneg order costBasisMethod transaction sound) _
    soundRebuild_empty inDomain).2
  have whole := along_congr replayStep_sound
    (fun _ transaction sound _ => basisLost_eq_zero_iff order costBasisMethod transaction sound)
    _ soundRebuild_empty inDomain
  rw [WashSalesWhole, ← whole, ← nothingLost, AccountingIdentity]
  simp only [Rebuild.balance, balance] at balanced
  constructor
  · intro identity
    linarith
  · intro lost
    linarith

end Identity

/-- Two purchases of 10 units for 1000 on consecutive days, and a sale on the
day after. -/
def twoPurchasesAndSale (soldQuantity proceeds : Nat) : List Transaction :=
  [ { id := 1, accountId := 1, securityId := some 1, transactionType := .purchase
      amount := ⟨-1000, 0⟩, currencyCode := "EUR", quantity := some ⟨10, 0⟩
      occurredAt := Instant.days 1 },
    { id := 2, accountId := 1, securityId := some 1, transactionType := .purchase
      amount := ⟨-1000, 0⟩, currencyCode := "EUR", quantity := some ⟨10, 0⟩
      occurredAt := Instant.days 2 },
    { id := 3, accountId := 1, securityId := some 1, transactionType := .sale
      amount := ⟨proceeds, 0⟩, currencyCode := "EUR", quantity := some ⟨soldQuantity, 0⟩
      occurredAt := Instant.days 3 } ]

/-- A sale of exactly the first lot: the replacement lot takes the loss whole. -/
theorem washSalesWhole_of_firstLotSold :
    WashSalesWhole (.stable _) .fifo (twoPurchasesAndSale 10 500) :=
  (accountingIdentity_iff (by decide +kernel) (by decide +kernel)).mp (by decide +kernel)

/-- A sale that also takes half of the second lot disallows a loss of 500 of
which the second lot carries only 250. -/
theorem accountingIdentity_fails_of_partial_replacement :
    (∀ transaction ∈ twoPurchasesAndSale 15 750, HasQuantity transaction) ∧
      SalesCovered (.stable _) .fifo (twoPurchasesAndSale 15 750) ∧
      ¬ AccountingIdentity (.stable _) .fifo (twoPurchasesAndSale 15 750) := by
  decide +kernel

end FinanceSync.TaxLots
