import FinanceSync.TaxLots.AccountingIdentity
import FinanceSync.TaxLots.Origins
import Mathlib.Data.List.Induction

/-!
# Wash sales on both sides of a sale

A loss should be disallowed against the other purchases around the sale, and a
lot should say how much was added to its basis.  The engine sees the loss of the
lots that a sale uses up only, looks for replacement lots among those that are
there at the turn of the sale, and writes the last amount over the ones before.
-/

namespace FinanceSync.TaxLots

open Lib

/-! ## Losses -/

/-- The loss on the part of a lot that a sale takes. -/
def partLoss (proceedsPerUnit : ℚ) (part : TaxLot × ℚ) : ℚ :=
  let realizedPl := part.2 * proceedsPerUnit - part.2 * part.1.costBasisPerUnit
  if realizedPl < 0 then |realizedPl| else 0

section Losses

variable (order : AcquisitionOrder) (costBasisMethod : CostBasisMethod) (lots : LotTable)
  (sale : Transaction) (securityId : Uuid)

/-- What a sale loses on the lots it uses up and on the one it leaves open. -/
def saleLoss : ℚ :=
  ((saleAllocations order costBasisMethod lots sale securityId).map
    (partLoss (sale.absAmount / sale.absQuantity))).sum

/-- What a sale loses on the lots that it uses up. -/
def usedUpLoss : ℚ :=
  ((saleAllocations order costBasisMethod lots sale securityId).map fun part =>
    if part.1.remainingQuantity = part.2 then
      partLoss (sale.absAmount / sale.absQuantity) part
    else 0).sum

/-- The replacement lots at the moment the sale has been matched. -/
def replacementsAfter : List TaxLot :=
  replacementLots order (matchSaleToLots order costBasisMethod lots sale securityId).1 sale
    securityId

/-- What the sale reports to have disallowed. -/
def washSaleAdjustments : List WashSaleAdjustment :=
  (detectAndAdjustWashSales order
    (matchSaleToLots order costBasisMethod lots sale securityId).1 sale securityId).2

end Losses

section Rebuild

variable (order : AcquisitionOrder) (costBasisMethod : CostBasisMethod)
  (stored : List Transaction)

/-- The state of the rebuild after some of its transactions. -/
def rebuiltBefore (before : List Transaction) : Rebuild :=
  runAll (replayStep order costBasisMethod stored) emptyRebuild before

/-- The rebuild reaches a sale after some transactions. -/
def AtSale (before : List Transaction) (sale : Transaction) (securityId : Uuid) : Prop :=
  sale.transactionType = .sale ∧ sale.securityId = some securityId ∧
    ∃ after, replayedTransactions stored = before ++ sale :: after

/-- The other purchases of the security in the account within the window around
a sale, before it or after it, whose lot is open at the end. -/
def replacementPurchases (sale : Transaction) (securityId : Uuid) : List Transaction :=
  (replayedTransactions stored).filter fun purchase =>
    purchase.transactionType = .purchase ∧ purchase.id ≠ sale.id ∧
      purchase.accountId = sale.accountId ∧ purchase.securityId = some securityId ∧
      |purchase.occurredAt - sale.occurredAt| ≤ Instant.days washSaleLookbackDays ∧
      ∃ lot ∈ (computeAllTaxLots order costBasisMethod stored).lots.rows,
        lot.purchaseTransactionId = some purchase.id ∧ lot.isOpen

/-- What the replacement purchases cost. -/
def replacementCost (sale : Transaction) (securityId : Uuid) : ℚ :=
  ((replacementPurchases order costBasisMethod stored sale securityId).map
    Transaction.absAmount).sum

/-- The loss of a sale is disallowed against open lots of the window, each up to
its basis: as much of it as the replacement purchases cost, and no more than it. -/
structure LossDisallowed (lots : LotTable) (sale : Transaction) (securityId : Uuid) : Prop where
  upToBasis : ∀ adjustment ∈ washSaleAdjustments order costBasisMethod lots sale securityId,
    ∃ lot ∈ replacementsAfter order costBasisMethod lots sale securityId,
      lot.id = adjustment.replacementLotId ∧ adjustment.disallowedLoss ≤ lot.costBasisTotal
  upToLoss : ((washSaleAdjustments order costBasisMethod lots sale securityId).map
      WashSaleAdjustment.disallowedLoss).sum ≤
    saleLoss order costBasisMethod lots sale securityId
  disallowed : min (saleLoss order costBasisMethod lots sale securityId)
      (replacementCost order costBasisMethod stored sale securityId) ≤
    ((washSaleAdjustments order costBasisMethod lots sale securityId).map
      WashSaleAdjustment.disallowedLoss).sum

/-- The losses on lots that the sale uses up, and the basis of the replacement
lots of its moment, are enough. -/
def LossSeen (lots : LotTable) (sale : Transaction) (securityId : Uuid) : Prop :=
  min (saleLoss order costBasisMethod lots sale securityId)
      (replacementCost order costBasisMethod stored sale securityId) ≤
    min (usedUpLoss order costBasisMethod lots sale securityId)
      ((replacementsAfter order costBasisMethod lots sale securityId).map
        TaxLot.costBasisTotal).sum

/-- No replacement lot that takes a part of the loss has taken one before. -/
def AdjustedOnce (lots : LotTable) (sale : Transaction) (securityId : Uuid) : Prop :=
  ∀ before lot after,
    replacementsAfter order costBasisMethod lots sale securityId = before ++ lot :: after →
    (before.map TaxLot.costBasisTotal).sum <
      usedUpLoss order costBasisMethod lots sale securityId →
    lot.disallowedLoss.getD 0 = 0

end Rebuild

/-- What an action adds to the basis of a lot. -/
def Action.addedTo (lotId : Uuid) : Action → ℚ
  | .washSaleAdjustment adjustments =>
      (adjustments.map fun adjustment =>
        if adjustment.replacementLotId = lotId then adjustment.disallowedLoss else 0).sum
  | _ => 0

/-- All amounts that were added to the basis of a lot. -/
def addedTo (lotId : Uuid) (actions : List Action) : ℚ :=
  (actions.map (Action.addedTo lotId)).sum

/-! ## What is known of every lot -/

/-- A sound lot, whose disallowed loss is not negative and which is linked to
some transactions only. -/
structure Audited (transactionIds : List Uuid) (lot : TaxLot) : Prop where
  sound : SoundLot lot
  disallowedNonneg : 0 ≤ lot.disallowedLoss.getD 0
  purchased : ∀ id ∈ lot.purchaseTransactionId, id ∈ transactionIds
  sold : ∀ id ∈ lot.saleTransactionId, id ∈ transactionIds

theorem Audited.mono {transactionIds more : List Uuid} {lot : TaxLot}
    (audited : Audited transactionIds lot) (included : transactionIds ⊆ more) :
    Audited more lot :=
  { audited with
    purchased := fun id isMem => included (audited.purchased id isMem)
    sold := fun id isMem => included (audited.sold id isMem) }

theorem audited_closed {transactionIds : List Uuid} {transaction : Transaction}
    (own : transaction.id ∈ transactionIds) :
    LotClosed transaction (Audited transactionIds) where
  totalNonneg := fun audited => audited.sound.totalNonneg
  purchased := fun id securityId _ =>
    { sound := purchasedLot_sound id transaction securityId
      disallowedNonneg := le_rfl
      purchased := by simpa [purchasedLot] using own
      sold := by simp [purchasedLot] }
  sold := by
    intro lot qtySold proceedsPerUnit audited isOpen positive available
    have sound := audited.sound.sellFromLot isOpen transaction proceedsPerUnit positive.le
      available
    by_cases usedUp : lot.remainingQuantity - qtySold = 0
    · simp only [sellFromLot, usedUp, if_true] at sound ⊢
      exact ⟨sound, audited.disallowedNonneg, audited.purchased, by simpa using own⟩
    · simp only [sellFromLot, usedUp, if_false] at sound ⊢
      exact ⟨sound, audited.disallowedNonneg, audited.purchased, audited.sold⟩
  adjusted := fun audited _ nonneg =>
    { audited with
      sound := audited.sound.adjustReplacement nonneg
      disallowedNonneg := nonneg }
  rescaled := fun audited _ positive =>
    { audited with sound := audited.sound.rescaleLot positive }
  moved := by
    intro lot movedQuantity audited isOpen positive available
    have sound := audited.sound.moveFromLot isOpen transaction positive.le available
    by_cases usedUp : lot.remainingQuantity - movedQuantity = 0
    · simp only [moveFromLot, usedUp, if_true] at sound ⊢
      exact ⟨sound, audited.disallowedNonneg, audited.purchased, audited.sold⟩
    · simp only [moveFromLot, usedUp, if_false] at sound ⊢
      exact ⟨sound, audited.disallowedNonneg, audited.purchased, audited.sold⟩
  received := fun id destination securityId audited _ positive available =>
    { sound := audited.sound.receivedLot id destination securityId positive available
      disallowedNonneg := le_rfl
      purchased := by simp [receivedLot]
      sold := by simp [receivedLot] }

/-- A lot of a rebuild is linked to transactions that came before. -/
theorem rebuiltBefore_audited (order : AcquisitionOrder) (costBasisMethod : CostBasisMethod)
    (stored before : List Transaction) :
    ∀ lot ∈ (rebuiltBefore order costBasisMethod stored before).lots.rows,
      Audited (before.map Transaction.id) lot := by
  induction before using List.reverseRecOn with
  | nil => simp [rebuiltBefore, emptyRebuild]
  | append_singleton before transaction ih =>
      rw [rebuiltBefore, runAll_append]
      apply processTransaction_forall (audited_closed (by simp))
      intro lot isMem
      exact (ih lot isMem).mono (by simp)

/-! ## What a sale disallows -/

section Sale

variable {order : AcquisitionOrder} {costBasisMethod : CostBasisMethod} {lots : LotTable}
  {sale : Transaction} {securityId : Uuid}

theorem partLoss_nonneg (proceedsPerUnit : ℚ) (part : TaxLot × ℚ) :
    0 ≤ partLoss proceedsPerUnit part := by
  unfold partLoss
  dsimp only
  split
  · exact abs_nonneg _
  · exact le_rfl

theorem usedUpLoss_le_saleLoss :
    usedUpLoss order costBasisMethod lots sale securityId ≤
      saleLoss order costBasisMethod lots sale securityId := by
  apply List.sum_le_sum
  intro part _
  split
  · exact le_rfl
  · exact partLoss_nonneg _ _

theorem usedUpLoss_nonneg : 0 ≤ usedUpLoss order costBasisMethod lots sale securityId := by
  apply sum_offers_nonneg
  intro part _
  split
  · exact partLoss_nonneg _ _
  · exact le_rfl

/-- What a lot adds to the loss that the check for wash sales finds. -/
def linkedLoss (saleId : Uuid) (lot : TaxLot) : ℚ :=
  if lot.purchaseTransactionId = some saleId ∨ lot.saleTransactionId = some saleId then
    match lot.realizedPl with
    | some realizedPl => if realizedPl < 0 then |realizedPl| else 0
    | none => 0
  else 0

theorem closedLoss_eq (lots : LotTable) (sale : Transaction) :
    closedLoss lots sale = lots.sum (linkedLoss sale.id) := by
  unfold closedLoss findLotsForTransaction
  rw [sum_filter_eq]
  simp only [decide_eq_true_eq]
  rfl

/-- No lot is linked to the sale yet. -/
def Unlinked (lots : LotTable) (sale : Transaction) : Prop :=
  ∀ lot ∈ lots.rows,
    lot.purchaseTransactionId ≠ some sale.id ∧ lot.saleTransactionId ≠ some sale.id

/-- The loss that is found is the loss on the lots that are used up. -/
theorem closedLoss_matchSaleToLots (order : AcquisitionOrder)
    (costBasisMethod : CostBasisMethod) (securityId : Uuid) (unlinked : Unlinked lots sale)
    (hasQuantity : 0 < sale.absQuantity) :
    closedLoss (matchSaleToLots order costBasisMethod lots sale securityId).1 sale =
      usedUpLoss order costBasisMethod lots sale securityId := by
  have saved := sum_saveAll_updates lots (linkedLoss sale.id)
    (sellFromLot sale (sale.absAmount / sale.absQuantity)) (id_sellFromLot _)
    (saleAllocations order costBasisMethod lots sale securityId)
    (fun allocation isMem => (sold_bounds isMem).1)
    (ids_draw_nodup ids_lotsForSale_nodup)
  have nothingBefore : lots.sum (linkedLoss sale.id) = 0 := by
    apply List.sum_eq_zero
    intro value valueMem
    obtain ⟨lot, lotMem, rfl⟩ := List.mem_map.mp valueMem
    simp [linkedLoss, unlinked lot lotMem]
  have partOf : ∀ part ∈ saleAllocations order costBasisMethod lots sale securityId,
      linkedLoss sale.id
          (sellFromLot sale (sale.absAmount / sale.absQuantity) part.1 part.2) -
        linkedLoss sale.id part.1 =
      if part.1.remainingQuantity = part.2 then
        partLoss (sale.absAmount / sale.absQuantity) part
      else 0 := by
    intro part isMem
    have free := unlinked part.1 (sold_bounds isMem).1
    have before : linkedLoss sale.id part.1 = 0 := by simp [linkedLoss, free]
    rw [before, sub_zero]
    by_cases usedUp : part.1.remainingQuantity = part.2
    · simp [sellFromLot, linkedLoss, partLoss, usedUp]
    · simp [sellFromLot, linkedLoss, sub_eq_zero, usedUp, free]
  rw [closedLoss_eq]
  simp only [matchSaleToLots, not_le.mpr hasQuantity, if_false]
  rw [saved, nothingBefore, zero_add, List.map_congr_left partOf]
  rfl

/-- The records of a draw name its lots. -/
theorem mem_of_mem_adjustmentRecords {adjusted : List (TaxLot × ℚ)}
    {adjustment : WashSaleAdjustment} :
    ∀ {remainingLoss : ℚ}, adjustment ∈ adjustmentRecords remainingLoss adjusted →
      ∃ part ∈ adjusted, part.1.id = adjustment.replacementLotId ∧
        part.2 = adjustment.disallowedLoss := by
  induction adjusted with
  | nil => simp [adjustmentRecords]
  | cons part rest ih =>
      intro remainingLoss isMem
      rw [adjustmentRecords] at isMem
      cases List.mem_cons.mp isMem with
      | inl head => exact ⟨part, List.mem_cons_self, by simp [head]⟩
      | inr tail =>
          obtain ⟨other, otherMem, named⟩ := ih tail
          exact ⟨other, List.mem_cons_of_mem _ otherMem, named⟩

/-- The sale disallows the loss that is found, up to the basis of the
replacement lots of its moment. -/
theorem sum_washSaleAdjustments (unlinked : Unlinked lots sale)
    (basisNonneg : ∀ lot ∈ replacementsAfter order costBasisMethod lots sale securityId,
      0 ≤ lot.costBasisTotal) :
    ((washSaleAdjustments order costBasisMethod lots sale securityId).map
        WashSaleAdjustment.disallowedLoss).sum =
      min (usedUpLoss order costBasisMethod lots sale securityId)
        ((replacementsAfter order costBasisMethod lots sale securityId).map
          TaxLot.costBasisTotal).sum := by
  unfold washSaleAdjustments detectAndAdjustWashSales
  by_cases noQuantity : sale.absQuantity ≤ 0
  · have nothingSold : usedUpLoss order costBasisMethod lots sale securityId = 0 := by
      simp [usedUpLoss, saleAllocations, draw_of_nonpos _ noQuantity]
    simp [noQuantity, nothingSold, sum_offers_nonneg basisNonneg]
  · have found := closedLoss_matchSaleToLots order costBasisMethod securityId unlinked
      (not_le.mp noQuantity)
    simp only [noQuantity, if_false, sum_adjustmentRecords, disallowedLosses]
    rw [← replacementsAfter, found, drawn_draw _ basisNonneg usedUpLoss_nonneg]

theorem replacementsAfter_nonneg (sound : ∀ lot ∈ lots.rows, SoundLot lot) :
    ∀ lot ∈ replacementsAfter order costBasisMethod lots sale securityId,
      0 ≤ lot.costBasisTotal := by
  intro lot isMem
  exact (matchSaleToLots_forall order costBasisMethod securityId (soundLot_closed sale) sound lot
    (mem_replacementLots isMem).1).totalNonneg

/-- A sale disallows its loss exactly if it sees enough of it. -/
theorem lossDisallowed_iff {stored : List Transaction} (unlinked : Unlinked lots sale)
    (sound : ∀ lot ∈ lots.rows, SoundLot lot) :
    LossDisallowed order costBasisMethod stored lots sale securityId ↔
      LossSeen order costBasisMethod stored lots sale securityId := by
  have basisNonneg : ∀ lot ∈ replacementsAfter order costBasisMethod lots sale securityId,
      0 ≤ lot.costBasisTotal := replacementsAfter_nonneg sound
  have total := sum_washSaleAdjustments unlinked basisNonneg
  constructor
  · intro disallowed
    unfold LossSeen
    rw [← total]
    exact disallowed.disallowed
  · intro seen
    refine ⟨?_, ?_, ?_⟩
    · intro adjustment isMem
      unfold washSaleAdjustments detectAndAdjustWashSales at isMem
      by_cases noQuantity : sale.absQuantity ≤ 0
      · simp [noQuantity] at isMem
      · simp only [noQuantity, if_false] at isMem
        obtain ⟨part, partMem, sameId, amount⟩ := mem_of_mem_adjustmentRecords isMem
        refine ⟨part.1, mem_of_mem_draw partMem, sameId, ?_⟩
        rw [← amount]
        exact given_le_offer basisNonneg partMem
    · rw [total]
      exact (min_le_left _ _).trans usedUpLoss_le_saleLoss
    · rw [total]
      exact seen

end Sale

/-! ## What is added to a lot -/

@[simp] theorem addedTo_append (lotId : Uuid) (actions more : List Action) :
    addedTo lotId (actions ++ more) = addedTo lotId actions + addedTo lotId more := by
  simp [addedTo]

@[simp] theorem addedTo_singleton (lotId : Uuid) (action : Action) :
    addedTo lotId [action] = action.addedTo lotId := by
  simp [addedTo]

/-- What a lot with the id says was disallowed. -/
def disallowedOf (lotId : Uuid) (lot : TaxLot) : ℚ :=
  if lot.id = lotId then lot.disallowedLoss.getD 0 else 0

/-- What was added to a lot beyond what it says was disallowed. -/
def unrecorded (lotId : Uuid) (processed : LotTable × List Action) : ℚ :=
  addedTo lotId processed.2 - processed.1.sum (disallowedOf lotId)

/-- The replacement lots that a sale adjusts, with the amounts. -/
def adjustedLots (order : AcquisitionOrder) (costBasisMethod : CostBasisMethod)
    (lots : LotTable) (sale : Transaction) (securityId : Uuid) : List (TaxLot × ℚ) :=
  if sale.absQuantity ≤ 0 then []
  else
    disallowedLosses order (matchSaleToLots order costBasisMethod lots sale securityId).1 sale
      securityId

/-- What a transaction writes over in a lot. -/
def overwritten (order : AcquisitionOrder) (costBasisMethod : CostBasisMethod) (lotId : Uuid)
    (lots : LotTable) (transaction : Transaction) : ℚ :=
  match transaction.transactionType, transaction.securityId with
  | .sale, some securityId =>
      ((adjustedLots order costBasisMethod lots transaction securityId).map fun part =>
        disallowedOf lotId part.1).sum
  | _, _ => 0

section Added

variable {order : AcquisitionOrder} {costBasisMethod : CostBasisMethod} {lots : LotTable}
  {transaction : Transaction} {securityId : Uuid} {lotId : Uuid}

theorem disallowedOf_passedOn :
    PassedOn transaction (fun _ => True) (disallowedOf lotId) where
  rescaled := fun _ => rfl
  moved := by
    intro lot movedQuantity id destination securityId _ _
    have received : disallowedOf lotId
        (receivedLot id destination securityId lot movedQuantity) = 0 := by
      unfold disallowedOf receivedLot
      split <;> rfl
    rw [received, add_zero]
    unfold moveFromLot disallowedOf
    dsimp only
    split <;> rfl

theorem disallowedOf_sellFromLot (proceedsPerUnit : ℚ) (lot : TaxLot) (qtySold : ℚ) :
    disallowedOf lotId (sellFromLot transaction proceedsPerUnit lot qtySold) =
      disallowedOf lotId lot := by
  unfold sellFromLot disallowedOf
  dsimp only
  split <;> rfl

theorem matchSaleToLots_disallowedOf (order : AcquisitionOrder)
    (costBasisMethod : CostBasisMethod) (lots : LotTable) (transaction : Transaction)
    (securityId : Uuid) :
    (matchSaleToLots order costBasisMethod lots transaction securityId).1.sum
        (disallowedOf lotId) = lots.sum (disallowedOf lotId) := by
  unfold matchSaleToLots
  by_cases noQuantity : transaction.absQuantity ≤ 0
  · simp only [noQuantity, if_true]
  · simp only [noQuantity, if_false]
    rw [sum_saveAll_updates lots (disallowedOf lotId) _ (id_sellFromLot _) _
      (fun allocation isMem => (sold_bounds isMem).1)
      (ids_draw_nodup ids_lotsForSale_nodup)]
    simp [disallowedOf_sellFromLot]

theorem addedTo_adjustmentRecords (adjusted : List (TaxLot × ℚ)) :
    ∀ remainingLoss : ℚ,
      ((adjustmentRecords remainingLoss adjusted).map fun adjustment =>
        if adjustment.replacementLotId = lotId then adjustment.disallowedLoss else 0).sum =
      (adjusted.map fun part => if part.1.id = lotId then part.2 else 0).sum := by
  induction adjusted with
  | nil => intro remainingLoss; rfl
  | cons part rest ih =>
      intro remainingLoss
      simp [adjustmentRecords, ih]

theorem processSale_addedTo :
    addedTo lotId (processSale order costBasisMethod lots transaction securityId).2 =
      ((adjustedLots order costBasisMethod lots transaction securityId).map fun part =>
        if part.1.id = lotId then part.2 else 0).sum := by
  have records : ((detectAndAdjustWashSales order
      (matchSaleToLots order costBasisMethod lots transaction securityId).1 transaction
      securityId).2.map fun adjustment =>
        if adjustment.replacementLotId = lotId then adjustment.disallowedLoss else 0).sum =
      ((adjustedLots order costBasisMethod lots transaction securityId).map fun part =>
        if part.1.id = lotId then part.2 else 0).sum := by
    unfold detectAndAdjustWashSales adjustedLots
    by_cases noQuantity : transaction.absQuantity ≤ 0
    · simp [noQuantity]
    · simp only [noQuantity, if_false]
      exact addedTo_adjustmentRecords _ _
  rw [← records]
  simp only [processSale]
  split
  · rename_i nothing
    rw [List.isEmpty_iff.mp nothing]
    simp [addedTo, Action.addedTo]
  · simp [addedTo, Action.addedTo]

/-- Booking a wash sale replaces what the adjusted lots said before. -/
theorem processSale_disallowedOf
    (sound : ∀ lot ∈ lots.rows, SoundLot lot) :
    (processSale order costBasisMethod lots transaction securityId).1.sum (disallowedOf lotId) =
      lots.sum (disallowedOf lotId) +
        (((adjustedLots order costBasisMethod lots transaction securityId).map fun part =>
            if part.1.id = lotId then part.2 else 0).sum -
          ((adjustedLots order costBasisMethod lots transaction securityId).map fun part =>
            disallowedOf lotId part.1).sum) := by
  rw [← matchSaleToLots_disallowedOf order costBasisMethod lots transaction securityId]
  have matchedSound := matchSaleToLots_forall order costBasisMethod securityId
    (soundLot_closed transaction) sound
  change (detectAndAdjustWashSales order
    (matchSaleToLots order costBasisMethod lots transaction securityId).1 transaction
    securityId).1.sum (disallowedOf lotId) = _
  unfold detectAndAdjustWashSales adjustedLots
  by_cases noQuantity : transaction.absQuantity ≤ 0
  · simp [noQuantity]
  · simp only [noQuantity, if_false]
    rw [sum_saveAll_updates _ (disallowedOf lotId) adjustReplacement (fun _ _ => rfl) _
      (fun allocation isMem =>
        (disallowed_bounds (fun lot lotMem => (matchedSound lot lotMem).totalNonneg)
          isMem).1)
      (ids_draw_nodup ids_replacementLots_nodup)]
    congr 1
    generalize disallowedLosses order
      (matchSaleToLots order costBasisMethod lots transaction securityId).1 transaction
      securityId = adjusted
    induction adjusted with
    | nil => simp
    | cons part rest ih =>
        have written : disallowedOf lotId (adjustReplacement part.1 part.2) =
            if part.1.id = lotId then part.2 else 0 := rfl
        simp only [List.map_cons, List.sum_cons, ih, written]
        ring

theorem transferLotsToDestination_addedTo (destination : Transaction)
    (destinationSecurityId : Uuid) :
    (transferLotsToDestination order lots transaction destination securityId
      destinationSecurityId).2.addedTo lotId = 0 := by
  unfold transferLotsToDestination
  dsimp only
  split
  · rfl
  · split
    · rfl
    · split <;> rfl

theorem processQuantityEvent_addedTo :
    (processQuantityEvent order lots transaction).2.addedTo lotId = 0 := by
  unfold processQuantityEvent applyQuantityEventToLots
  split
  · rfl
  · split
    · rfl
    · split <;> rfl

theorem overwritten_of_notSale
    (notSale : transaction.transactionType = .sale → transaction.securityId = none) :
    overwritten order costBasisMethod lotId lots transaction = 0 := by
  unfold overwritten
  split
  · rename_i isSale security
    rw [notSale isSale] at security
    contradiction
  · rfl

/-- What one transaction leaves unrecorded is what it writes over. -/
theorem processTransaction_unrecorded (order : AcquisitionOrder)
    (costBasisMethod : CostBasisMethod) (transaction : Transaction) (lotId : Uuid)
    (sound : ∀ lot ∈ lots.rows, SoundLot lot) (pairedTransfer : Option Transaction) :
    unrecorded lotId
        (processTransaction order costBasisMethod pairedTransfer lots transaction) =
      overwritten order costBasisMethod lotId lots transaction -
        lots.sum (disallowedOf lotId) := by
  have outcome := processTransaction_processed order costBasisMethod pairedTransfer lots transaction
  generalize processTransaction order costBasisMethod pairedTransfer lots transaction =
    processed at outcome
  cases outcome with
  | purchase securityId isPurchase _ =>
      have opened : (createTaxLotsForPurchase lots transaction securityId).1.sum
          (disallowedOf lotId) = lots.sum (disallowedOf lotId) := by
        refine (Table.sum_insert lots _ rfl _).trans ?_
        simp [disallowedOf, purchasedLot]
      simp [unrecorded, opened, addedTo, Action.addedTo, overwritten, isPurchase]
  | sale securityId isSale security =>
      simp only [unrecorded, processSale_addedTo, processSale_disallowedOf sound, overwritten,
        isSale, security]
      ring
  | transfer destination securityId destinationSecurityId isTransfer =>
      rw [unrecorded, addedTo_singleton, transferLotsToDestination_addedTo,
        sum_transferLotsToDestination disallowedOf_passedOn fun _ _ => trivial,
        overwritten_of_notSale (by simp [isTransfer])]
  | quantityEvent notPurchase notSale =>
      rw [unrecorded, addedTo_singleton, processQuantityEvent_addedTo,
        sum_processQuantityEvent disallowedOf_passedOn,
        overwritten_of_notSale fun isSale => absurd isSale notSale]
  | nothing _ notSale =>
      rw [unrecorded, overwritten_of_notSale notSale]
      rfl

end Added

/-! ## The rebuild -/

section Rebuild

variable {order : AcquisitionOrder} {costBasisMethod : CostBasisMethod}
  {stored : List Transaction} {lotId : Uuid}

/-- The lots of a rebuild are linked to some transactions. -/
def AuditedRebuild (state : Rebuild) : Prop :=
  ∃ transactionIds, ∀ lot ∈ state.lots.rows, Audited transactionIds lot

theorem auditedRebuild_empty : AuditedRebuild emptyRebuild :=
  ⟨[], by simp [emptyRebuild]⟩

theorem replayStep_audited (state : Rebuild) (transaction : Transaction)
    (audited : AuditedRebuild state) (_ : True) :
    AuditedRebuild (replayStep order costBasisMethod stored state transaction) := by
  obtain ⟨transactionIds, all⟩ := audited
  refine ⟨transaction.id :: transactionIds, ?_⟩
  apply processTransaction_forall (audited_closed List.mem_cons_self)
  intro lot isMem
  exact (all lot isMem).mono (List.subset_cons_self _ _)

/-- What was added to a lot so far beyond what it says was disallowed. -/
def Rebuild.unrecorded (lotId : Uuid) (state : Rebuild) : ℚ :=
  TaxLots.unrecorded lotId (state.lots, state.actions)

theorem replayStep_unrecorded (lotId : Uuid) (state : Rebuild) (transaction : Transaction)
    (audited : AuditedRebuild state) (_ : True) :
    (replayStep order costBasisMethod stored state transaction).unrecorded lotId =
      state.unrecorded lotId +
        overwritten order costBasisMethod lotId state.lots transaction := by
  obtain ⟨_, all⟩ := audited
  have step := processTransaction_unrecorded order costBasisMethod transaction lotId
    (fun lot isMem => (all lot isMem).sound)
    ((pairSecurityTransferLegs (replayedTransactions stored)).lookup transaction.id)
  simp only [Rebuild.unrecorded, unrecorded, replayStep, rebuildStep, addedTo_append] at step ⊢
  linarith

/-- A lot that a sale adjusts is audited like the stored ones. -/
theorem audited_of_mem_adjustedLots {lots : LotTable} {sale : Transaction} {securityId : Uuid}
    {transactionIds : List Uuid} (own : sale.id ∈ transactionIds)
    (all : ∀ lot ∈ lots.rows, Audited transactionIds lot) {part : TaxLot × ℚ}
    (isMem : part ∈ adjustedLots order costBasisMethod lots sale securityId) :
    Audited transactionIds part.1 := by
  unfold adjustedLots at isMem
  split at isMem
  · contradiction
  · exact matchSaleToLots_forall order costBasisMethod securityId (audited_closed own) all _
      (mem_replacementLots (mem_of_mem_draw isMem)).1

/-- A lot that a sale adjusts is stored before the sale. -/
theorem id_of_mem_adjustedLots {lots : LotTable} {sale : Transaction} {securityId : Uuid}
    {part : TaxLot × ℚ}
    (isMem : part ∈ adjustedLots order costBasisMethod lots sale securityId) :
    ∃ lot ∈ lots.rows, lot.id = part.1.id := by
  unfold adjustedLots at isMem
  split at isMem
  · contradiction
  · obtain ⟨lot, lotMem, sameOrigin⟩ := mem_of_origins_eq
      (matchSaleToLots_origins order costBasisMethod lots sale securityId).symm
      (mem_replacementLots (mem_of_mem_draw isMem)).1
    exact ⟨lot, lotMem, congrArg Origin.id sameOrigin⟩

theorem disallowedOf_nonneg {lots : LotTable} {sale : Transaction} {securityId : Uuid}
    {transactionIds : List Uuid} (all : ∀ lot ∈ lots.rows, Audited transactionIds lot)
    (lotId : Uuid) {part : TaxLot × ℚ}
    (isMem : part ∈ adjustedLots order costBasisMethod lots sale securityId) :
    0 ≤ disallowedOf lotId part.1 := by
  have allNow : ∀ lot ∈ lots.rows, Audited (sale.id :: transactionIds) lot :=
    fun lot lotMem => (all lot lotMem).mono (List.subset_cons_self _ _)
  have audited := audited_of_mem_adjustedLots List.mem_cons_self allNow isMem
  unfold disallowedOf
  split
  · exact audited.disallowedNonneg
  · exact le_rfl

theorem overwritten_nonneg (lotId : Uuid) (state : Rebuild) (transaction : Transaction)
    (audited : AuditedRebuild state) (_ : True) :
    0 ≤ overwritten order costBasisMethod lotId state.lots transaction := by
  obtain ⟨transactionIds, all⟩ := audited
  unfold overwritten
  split
  · apply sum_offers_nonneg
    intro part isMem
    exact disallowedOf_nonneg all lotId isMem
  · exact le_rfl

/-- All that was added to a lot is recorded at the end exactly if no transaction
writes over a part of it. -/
theorem unrecorded_eq_zero_iff (order : AcquisitionOrder) (costBasisMethod : CostBasisMethod)
    (stored : List Transaction) (lotId : Uuid) :
    (computeAllTaxLots order costBasisMethod stored).unrecorded lotId = 0 ↔
      ∀ before transaction after,
        replayedTransactions stored = before ++ transaction :: after →
        overwritten order costBasisMethod lotId
          (rebuiltBefore order costBasisMethod stored before).lots transaction = 0 := by
  have anyStep : Along (replayStep order costBasisMethod stored) (fun _ _ => True) emptyRebuild
      (replayedTransactions stored) := along_of_forall _ fun _ _ => trivial
  have nothingAtFirst : emptyRebuild.unrecorded lotId = 0 := by
    simp [Rebuild.unrecorded, unrecorded, emptyRebuild, addedTo]
  have total := runAll_measure replayStep_audited (replayStep_unrecorded lotId)
    (replayedTransactions stored) auditedRebuild_empty anyStep
  rw [nothingAtFirst, zero_add] at total
  rw [computeAllTaxLots, total,
    (totalCost_eq_zero_iff replayStep_audited (overwritten_nonneg lotId) _ auditedRebuild_empty
      anyStep).2, along_iff_forall]
  rfl

theorem runAll_origins (transactions : List Transaction) :
    ∀ state : Rebuild, origins state.lots <+:
      origins (runAll (replayStep order costBasisMethod stored) state transactions).lots := by
  induction transactions with
  | nil => intro state; exact List.prefix_rfl
  | cons transaction rest ih =>
      intro state
      have step := processTransaction_origins order costBasisMethod
        ((pairSecurityTransferLegs (replayedTransactions stored)).lookup transaction.id)
        state.lots transaction
      exact step.trans
        (ih (replayStep order costBasisMethod stored state transaction))

/-- Lots stay in the table to the end of the rebuild. -/
theorem rebuilt_keeps {before after : List Transaction}
    (split : replayedTransactions stored = before ++ after) {lot : TaxLot}
    (isMem : lot ∈ (rebuiltBefore order costBasisMethod stored before).lots.rows) :
    ∃ now ∈ (computeAllTaxLots order costBasisMethod stored).lots.rows,
      now.origin = lot.origin := by
  have kept : lot.origin ∈ origins (computeAllTaxLots order costBasisMethod stored).lots := by
    rw [computeAllTaxLots, split, runAll_append]
    exact (runAll_origins after _).subset (List.mem_map_of_mem isMem)
  exact List.mem_map.mp kept

theorem adjustedOnce_iff {lots : LotTable} {sale : Transaction} {securityId : Uuid}
    (unlinked : Unlinked lots sale) (sound : ∀ lot ∈ lots.rows, SoundLot lot) :
    AdjustedOnce order costBasisMethod lots sale securityId ↔
      ∀ part ∈ adjustedLots order costBasisMethod lots sale securityId,
        part.1.disallowedLoss.getD 0 = 0 := by
  have basisNonneg : ∀ lot ∈ replacementsAfter order costBasisMethod lots sale securityId,
      0 ≤ lot.costBasisTotal := replacementsAfter_nonneg sound
  unfold AdjustedOnce adjustedLots
  by_cases noQuantity : sale.absQuantity ≤ 0
  · have nothingSold : usedUpLoss order costBasisMethod lots sale securityId = 0 := by
      simp [usedUpLoss, saleAllocations, draw_of_nonpos _ noQuantity]
    simp only [noQuantity, if_true, nothingSold, List.not_mem_nil, false_implies, implies_true,
      iff_true]
    intro before lot after split reached
    have nonneg : 0 ≤ (before.map TaxLot.costBasisTotal).sum :=
      sum_offers_nonneg fun other otherMem =>
        basisNonneg other (by rw [split]; exact List.mem_append_left _ otherMem)
    exact absurd reached (not_lt.mpr nonneg)
  · simp only [noQuantity, if_false, disallowedLosses,
      closedLoss_matchSaleToLots order costBasisMethod securityId unlinked
        (not_le.mp noQuantity)]
    rw [← replacementsAfter]
    constructor
    · intro once part isMem
      obtain ⟨before, after, split, reached, _⟩ := (mem_draw_iff _ basisNonneg _).mp isMem
      exact once before part.1 after split reached
    · intro once before lot after split reached
      have taken : (lot, min (usedUpLoss order costBasisMethod lots sale securityId -
          (before.map TaxLot.costBasisTotal).sum) lot.costBasisTotal) ∈
          draw TaxLot.costBasisTotal (usedUpLoss order costBasisMethod lots sale securityId)
            (replacementsAfter order costBasisMethod lots sale securityId) :=
        (mem_draw_iff _ basisNonneg _).mpr ⟨before, after, split, reached, rfl⟩
      exact once _ taken

/-- No lot is linked to a sale before its turn. -/
theorem unlinked_atSale {stored : Table Transaction Transaction.id} {before : List Transaction}
    {sale : Transaction} {securityId : Uuid} (atSale : AtSale stored.rows before sale securityId) :
    Unlinked (rebuiltBefore order costBasisMethod stored.rows before).lots sale := by
  obtain ⟨_, _, after, split⟩ := atSale
  have distinct : ((before ++ sale :: after).map Transaction.id).Nodup := by
    rw [← split, replayedTransactions]
    exact (((OrderBy.stable replayKey).perm _).map _).nodup_iff.mpr
      ((List.filter_sublist.map _).nodup stored.nodup)
  have fresh : sale.id ∉ before.map Transaction.id := by
    rw [List.map_append, List.map_cons, List.nodup_append] at distinct
    intro isMem
    exact distinct.2.2 _ isMem _ List.mem_cons_self rfl
  intro lot lotMem
  have audited := rebuiltBefore_audited order costBasisMethod stored.rows before lot lotMem
  constructor
  · intro linked
    exact fresh (audited.purchased sale.id linked)
  · intro linked
    exact fresh (audited.sold sale.id linked)

/-- Every lot records what was added to it exactly if no sale adjusts a lot that
was adjusted before. -/
theorem recorded_iff (order : AcquisitionOrder) (costBasisMethod : CostBasisMethod)
    (stored : Table Transaction Transaction.id) :
    (∀ lot ∈ (computeAllTaxLots order costBasisMethod stored.rows).lots.rows,
        lot.disallowedLoss.getD 0 =
          addedTo lot.id (computeAllTaxLots order costBasisMethod stored.rows).actions) ↔
      ∀ before sale securityId, AtSale stored.rows before sale securityId →
        AdjustedOnce order costBasisMethod
          (rebuiltBefore order costBasisMethod stored.rows before).lots sale securityId := by
  have recordedAt : ∀ lot ∈ (computeAllTaxLots order costBasisMethod stored.rows).lots.rows,
      lot.disallowedLoss.getD 0 =
          addedTo lot.id (computeAllTaxLots order costBasisMethod stored.rows).actions ↔
        (computeAllTaxLots order costBasisMethod stored.rows).unrecorded lot.id = 0 := by
    intro lot lotMem
    have ownSum : _ = lot.disallowedLoss.getD 0 :=
      Table.sum_at _ lotMem fun other => other.disallowedLoss.getD 0
    rw [Rebuild.unrecorded, unrecorded, sub_eq_zero, ← ownSum, eq_comm]
    rfl
  have sound (before : List Transaction) :
      ∀ lot ∈ (rebuiltBefore order costBasisMethod stored.rows before).lots.rows, SoundLot lot :=
    fun lot lotMem =>
      (rebuiltBefore_audited order costBasisMethod stored.rows before lot lotMem).sound
  constructor
  · intro recorded before sale securityId atSale
    apply (adjustedOnce_iff (unlinked_atSale atSale) (sound before)).mpr
    intro part isMem
    obtain ⟨isSale, security, after, split⟩ := atSale
    obtain ⟨lot, lotMem, sameId⟩ := id_of_mem_adjustedLots isMem
    obtain ⟨now, nowMem, sameOrigin⟩ := rebuilt_keeps split lotMem
    have nowId : part.1.id = now.id := sameId.symm.trans (congrArg Origin.id sameOrigin).symm
    have nothingLost := (unrecorded_eq_zero_iff order costBasisMethod stored.rows now.id).mp
      ((recordedAt now nowMem).mp (recorded now nowMem)) before sale after split
    simp only [overwritten, isSale, security] at nothingLost
    have partLost := (sum_map_eq_zero_iff fun other otherMem =>
      disallowedOf_nonneg (rebuiltBefore_audited order costBasisMethod stored.rows before) now.id
        otherMem).mp nothingLost part isMem
    simpa [disallowedOf, nowId] using partLost
  · intro adjusted lot lotMem
    rw [recordedAt lot lotMem, unrecorded_eq_zero_iff]
    intro before transaction after split
    unfold overwritten
    split
    · rename_i securityId isSale security
      have atSale : AtSale stored.rows before transaction securityId :=
        ⟨isSale, security, after, split⟩
      have once := (adjustedOnce_iff (unlinked_atSale atSale) (sound before)).mp
        (adjusted before transaction securityId atSale)
      apply List.sum_eq_zero
      intro value valueMem
      obtain ⟨part, partMem, rfl⟩ := List.mem_map.mp valueMem
      simp [disallowedOf, once part partMem]
    · rfl

/-- Wash sales are right in a rebuild exactly if every sale sees enough of its
loss at its turn and none adjusts a lot that was adjusted before. -/
theorem washSales_iff (order : AcquisitionOrder) (costBasisMethod : CostBasisMethod)
    (stored : Table Transaction Transaction.id) :
    ((∀ before sale securityId, AtSale stored.rows before sale securityId →
          LossDisallowed order costBasisMethod stored.rows
            (rebuiltBefore order costBasisMethod stored.rows before).lots sale securityId) ∧
        ∀ lot ∈ (computeAllTaxLots order costBasisMethod stored.rows).lots.rows,
          lot.disallowedLoss.getD 0 =
            addedTo lot.id (computeAllTaxLots order costBasisMethod stored.rows).actions) ↔
      (∀ before sale securityId, AtSale stored.rows before sale securityId →
          LossSeen order costBasisMethod stored.rows
            (rebuiltBefore order costBasisMethod stored.rows before).lots sale securityId) ∧
        ∀ before sale securityId, AtSale stored.rows before sale securityId →
          AdjustedOnce order costBasisMethod
            (rebuiltBefore order costBasisMethod stored.rows before).lots sale securityId := by
  rw [recorded_iff]
  apply and_congr_left
  intro _
  apply forall₄_congr
  intro before sale securityId atSale
  apply lossDisallowed_iff (unlinked_atSale atSale)
  intro lot lotMem
  exact (rebuiltBefore_audited order costBasisMethod stored.rows before lot lotMem).sound

end Rebuild

/-- A trade of ten shares. -/
def tenShares (id : Uuid) (transactionType : TransactionType) (amount : Int) (day : Int) :
    Transaction :=
  { id, accountId := 1, securityId := some 1, transactionType, amount := ⟨amount, 0⟩
    currencyCode := "EUR", quantity := some ⟨10, 0⟩, occurredAt := Instant.days day }

/-- Shares are bought, sold at a loss and bought back on the next day. -/
def boughtBack : Table Transaction Transaction.id :=
  ((Table.empty.insert (tenShares 0 .purchase (-1000) 1) rfl).insert
    (tenShares 1 .sale 500 2) rfl).insert (tenShares 2 .purchase (-600) 3) rfl

/-- The purchase after the sale is not there at the turn of the sale. -/
theorem lossDisallowed_fails_of_later_purchase :
    AtSale boughtBack.rows [tenShares 0 .purchase (-1000) 1] (tenShares 1 .sale 500 2) 1 ∧
      ¬ LossDisallowed (.stable _) .fifo boughtBack.rows
        (rebuiltBefore (.stable _) .fifo boughtBack.rows [tenShares 0 .purchase (-1000) 1]).lots
        (tenShares 1 .sale 500 2) 1 := by
  constructor
  · exact ⟨rfl, rfl, [tenShares 2 .purchase (-600) 3], rfl⟩
  · intro disallowed
    exact absurd disallowed.disallowed (by decide +kernel)

end FinanceSync.TaxLots
