import FinanceSync.TaxLots.Invariant

/-!
# What lots keep

Every operation of the engine leaves the lots of the table in place: it changes
their quantities, their basis and how they were closed, and adds new lots at the
end.  Where a lot came from never changes.
-/

namespace FinanceSync.TaxLots

open Lib

/-- The columns of a lot that are written once. -/
structure Origin where
  id : Uuid
  accountId : Uuid
  securityId : Uuid
  purchaseTransactionId : Option Uuid
  transferTransactionId : Option Uuid
  acquiredAt : Instant
deriving DecidableEq

def TaxLot.origin (lot : TaxLot) : Origin where
  id := lot.id
  accountId := lot.accountId
  securityId := lot.securityId
  purchaseTransactionId := lot.purchaseTransactionId
  transferTransactionId := lot.transferTransactionId
  acquiredAt := lot.acquiredAt

/-- Where the lots of the table came from, in the order they were added. -/
def origins (lots : LotTable) : List Origin := lots.rows.map TaxLot.origin

section OneLot

variable (transaction : Transaction) (lot : TaxLot)

@[simp] theorem origin_sellFromLot (proceedsPerUnit qtySold : ℚ) :
    (sellFromLot transaction proceedsPerUnit lot qtySold).origin = lot.origin := by
  unfold sellFromLot
  dsimp only
  split <;> rfl

@[simp] theorem origin_adjustReplacement (disallowed : ℚ) :
    (adjustReplacement lot disallowed).origin = lot.origin := rfl

@[simp] theorem origin_rescaleLot (ratio : ℚ) : (rescaleLot ratio lot).origin = lot.origin := rfl

@[simp] theorem origin_moveFromLot (movedQuantity : ℚ) :
    (moveFromLot transaction lot movedQuantity).origin = lot.origin := by
  unfold moveFromLot
  dsimp only
  split <;> rfl

end OneLot

section Operations

variable {order : AcquisitionOrder} {costBasisMethod : CostBasisMethod} {lots : LotTable}
  {transaction : Transaction} {securityId : Uuid}

/-- Writing back a stored lot of the same origin. -/
theorem origins_save {lot written : TaxLot} (stored : lot ∈ lots.rows)
    (same : written.origin = lot.origin) : origins (lots.save written) = origins lots := by
  have sameId : written.id = lot.id := congrArg Origin.id same
  change (lots.rows.map _).map TaxLot.origin = lots.rows.map TaxLot.origin
  rw [List.map_map]
  refine List.map_congr_left fun other otherMem => ?_
  by_cases replaced : other.id = written.id
  · have isLot := lots.eq_of_key_eq otherMem stored (replaced.trans sameId)
    simp only [Function.comp_apply, replaced, if_true]
    rw [same, isLot]
  · simp only [Function.comp_apply, replaced, if_false]

theorem mem_of_origins_eq {changed : LotTable} (same : origins changed = origins lots)
    {lot : TaxLot} (stored : lot ∈ lots.rows) :
    ∃ now ∈ changed.rows, now.origin = lot.origin := by
  have isMem : lot.origin ∈ origins changed := by
    rw [same]
    exact List.mem_map_of_mem stored
  obtain ⟨now, nowMem, sameOrigin⟩ := List.mem_map.mp isMem
  exact ⟨now, nowMem, sameOrigin⟩

/-- Writing back lots, each of which has the origin of a stored lot. -/
theorem origins_saveAll (written : List TaxLot) :
    ∀ {lots : LotTable}, (∀ lot ∈ written, ∃ stored ∈ lots.rows, lot.origin = stored.origin) →
      origins (lots.saveAll written) = origins lots := by
  induction written with
  | nil => intro lots _; rfl
  | cons lot rest ih =>
      intro lots fromStored
      obtain ⟨stored, storedMem, same⟩ := fromStored lot List.mem_cons_self
      have afterOne := origins_save storedMem same
      rw [Table.saveAll_cons, ih, afterOne]
      intro other otherMem
      obtain ⟨old, oldMem, sameOld⟩ := fromStored other (List.mem_cons_of_mem _ otherMem)
      obtain ⟨now, nowMem, sameNow⟩ := mem_of_origins_eq afterOne oldMem
      exact ⟨now, nowMem, sameOld.trans sameNow.symm⟩

theorem matchSaleToLots_origins (order : AcquisitionOrder) (costBasisMethod : CostBasisMethod)
    (lots : LotTable) (transaction : Transaction) (securityId : Uuid) :
    origins (matchSaleToLots order costBasisMethod lots transaction securityId).1 =
      origins lots := by
  unfold matchSaleToLots
  by_cases noQuantity : transaction.absQuantity ≤ 0
  · simp only [noQuantity, if_true]
  · simp only [noQuantity, if_false]
    refine origins_saveAll _ ?_
    intro lot lotMem
    obtain ⟨allocation, allocationMem, rfl⟩ := List.mem_map.mp lotMem
    exact ⟨allocation.1, (sold_bounds allocationMem).1, origin_sellFromLot _ _ _ _⟩

theorem detectAndAdjustWashSales_origins (order : AcquisitionOrder) (lots : LotTable)
    (transaction : Transaction) (securityId : Uuid) :
    origins (detectAndAdjustWashSales order lots transaction securityId).1 = origins lots := by
  unfold detectAndAdjustWashSales
  by_cases noQuantity : transaction.absQuantity ≤ 0
  · simp only [noQuantity, if_true]
  · simp only [noQuantity, if_false]
    refine origins_saveAll _ ?_
    intro lot lotMem
    obtain ⟨allocation, allocationMem, rfl⟩ := List.mem_map.mp lotMem
    exact ⟨allocation.1, (mem_replacementLots (mem_of_mem_draw allocationMem)).1, rfl⟩

theorem processSale_origins (order : AcquisitionOrder) (costBasisMethod : CostBasisMethod)
    (lots : LotTable) (transaction : Transaction) (securityId : Uuid) :
    origins (processSale order costBasisMethod lots transaction securityId).1 = origins lots :=
  (detectAndAdjustWashSales_origins order _ transaction securityId).trans
    (matchSaleToLots_origins order costBasisMethod lots transaction securityId)

theorem processQuantityEvent_origins (order : AcquisitionOrder) (lots : LotTable)
    (transaction : Transaction) :
    origins (processQuantityEvent order lots transaction).1 = origins lots := by
  unfold processQuantityEvent applyQuantityEventToLots
  split
  · rfl
  · split
    · rfl
    · split
      · rfl
      · refine origins_saveAll _ ?_
        intro lot lotMem
        obtain ⟨old, oldMem, rfl⟩ := List.mem_map.mp lotMem
        exact ⟨old, (mem_findOpenLots.mp oldMem).1, rfl⟩

theorem moveLots_origins (destination : Transaction) (allocations : List (TaxLot × ℚ)) :
    ∀ {lots : LotTable}, Allocated lots allocations →
      origins lots <+:
        origins (allocations.foldl (moveLot transaction destination securityId) lots) := by
  induction allocations with
  | nil => intro lots _; exact List.prefix_rfl
  | cons allocation rest ih =>
      intro lots allocated
      have afterOne : origins lots <+:
          origins (moveLot transaction destination securityId lots allocation) := by
        have saved := origins_save (allocated.stored allocation List.mem_cons_self)
          (origin_moveFromLot transaction allocation.1 allocation.2)
        rw [← saved]
        change _ <+: (_ ++ [_] : List TaxLot).map TaxLot.origin
        rw [List.map_append]
        exact List.prefix_append _ _
      exact afterOne.trans (ih (allocated.tail destination))

theorem transferLotsToDestination_origins (order : AcquisitionOrder) (lots : LotTable)
    (transaction destination : Transaction) (securityId destinationSecurityId : Uuid) :
    origins lots <+: origins (transferLotsToDestination order lots transaction destination
      securityId destinationSecurityId).1 := by
  unfold transferLotsToDestination
  dsimp only
  split
  · exact List.prefix_rfl
  · split
    · exact List.prefix_rfl
    · split
      · exact List.prefix_rfl
      · exact moveLots_origins destination _ transfer_allocated

/-- Processing a transaction only adds lots at the end. -/
theorem processTransaction_origins (order : AcquisitionOrder)
    (costBasisMethod : CostBasisMethod) (pairedTransfer : Option Transaction) (lots : LotTable)
    (transaction : Transaction) :
    origins lots <+:
      origins (processTransaction order costBasisMethod pairedTransfer lots transaction).1 := by
  have outcome := processTransaction_processed order costBasisMethod pairedTransfer lots transaction
  generalize processTransaction order costBasisMethod pairedTransfer lots transaction =
    processed at outcome
  cases outcome with
  | purchase securityId _ _ =>
      change _ <+: (_ ++ [_] : List TaxLot).map TaxLot.origin
      rw [List.map_append]
      exact List.prefix_append _ _
  | sale securityId _ _ => exact (processSale_origins _ _ _ _ _).symm ▸ List.prefix_rfl
  | transfer destination securityId destinationSecurityId _ =>
      exact transferLotsToDestination_origins order lots transaction destination securityId
        destinationSecurityId
  | quantityEvent _ _ => exact (processQuantityEvent_origins _ _ _).symm ▸ List.prefix_rfl
  | nothing _ _ => exact List.prefix_rfl

/-- A lot has its origin for good. -/
theorem processTransaction_keeps (order : AcquisitionOrder) (costBasisMethod : CostBasisMethod)
    (pairedTransfer : Option Transaction) (transaction : Transaction) {lot : TaxLot}
    (stored : lot ∈ lots.rows) :
    ∃ now ∈ (processTransaction order costBasisMethod pairedTransfer lots transaction).1.rows,
      now.origin = lot.origin := by
  have kept := (processTransaction_origins order costBasisMethod pairedTransfer lots
    transaction).subset (List.mem_map_of_mem stored)
  obtain ⟨now, nowMem, same⟩ := List.mem_map.mp kept
  exact ⟨now, nowMem, same⟩

end Operations

end FinanceSync.TaxLots
