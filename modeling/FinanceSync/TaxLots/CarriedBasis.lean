import FinanceSync.TaxLots.Invariant
import Mathlib.Algebra.BigOperators.Ring.List

/-!
# The basis carried by open lots

What the shares still held cost, and how each operation of the engine changes
it: sales take the cost they use, quantity events and transfers move it
without changing the total, and a wash sale adds only the part of the
disallowed loss that falls on the units still in the replacement lot.
-/

namespace FinanceSync.TaxLots

open Lib

/-- What a lot adds to the basis carried by open lots. -/
def openBasis (lot : TaxLot) : ℚ := if lot.isOpen then lot.carriedBasis else 0

/-- The basis carried by all open lots, the `open_cost_basis` of the summary. -/
def carried (lots : LotTable) : ℚ := lots.sum openBasis

theorem sum_filter_eq (rows : List TaxLot) (selected : TaxLot → Bool)
    (measure : TaxLot → ℚ) :
    ((rows.filter selected).map measure).sum =
      (rows.map fun lot => if selected lot then measure lot else 0).sum := by
  induction rows with
  | nil => rfl
  | cons lot rest ih =>
      cases isSelected : selected lot <;> simp [isSelected, ih]

theorem carried_eq_openCostBasis (lots : LotTable) (includeClosed : Bool) :
    carried lots = (getTaxLotSummary lots includeClosed none none).openCostBasis := by
  simp only [getTaxLotSummary, true_or, and_self, decide_true, List.filter_true, sum_filter_eq]
  rfl

/-! ## One lot -/

section OneLot

variable {lot : TaxLot}

theorem openBasis_of_open (isOpen : lot.isOpen) : openBasis lot = lot.carriedBasis :=
  if_pos isOpen

theorem openBasis_sellFromLot (isOpen : lot.isOpen) (transaction : Transaction)
    (proceedsPerUnit qtySold : ℚ) :
    openBasis (sellFromLot transaction proceedsPerUnit lot qtySold) =
      openBasis lot - qtySold * lot.costBasisPerUnit := by
  rw [openBasis_of_open isOpen]
  by_cases usedUp : lot.remainingQuantity - qtySold = 0
  · have sameQuantity : lot.remainingQuantity = qtySold := sub_eq_zero.mp usedUp
    simp [sellFromLot, openBasis, TaxLot.isOpen, TaxLot.carriedBasis, sameQuantity]
  · have stillOpen : (sellFromLot transaction proceedsPerUnit lot qtySold).isOpen := by
      simpa [sellFromLot, usedUp, TaxLot.isOpen] using isOpen
    rw [openBasis_of_open stillOpen]
    simp only [sellFromLot, usedUp, if_false, TaxLot.carriedBasis]
    ring

theorem openBasis_moveFromLot (isOpen : lot.isOpen) (transaction : Transaction)
    (movedQuantity : ℚ) :
    openBasis (moveFromLot transaction lot movedQuantity) =
      openBasis lot - movedQuantity * lot.costBasisPerUnit := by
  rw [openBasis_of_open isOpen]
  by_cases usedUp : lot.remainingQuantity - movedQuantity = 0
  · have sameQuantity : lot.remainingQuantity = movedQuantity := sub_eq_zero.mp usedUp
    simp [moveFromLot, openBasis, TaxLot.isOpen, TaxLot.carriedBasis, sameQuantity]
  · have stillOpen : (moveFromLot transaction lot movedQuantity).isOpen := by
      simpa [moveFromLot, usedUp, TaxLot.isOpen] using isOpen
    rw [openBasis_of_open stillOpen]
    simp only [moveFromLot, usedUp, if_false, TaxLot.carriedBasis]
    ring

theorem openBasis_receivedLot (id : Uuid) (destination : Transaction) (securityId : Uuid)
    (movedQuantity : ℚ) :
    openBasis (receivedLot id destination securityId lot movedQuantity) =
      movedQuantity * lot.costBasisPerUnit := rfl

theorem openBasis_rescaleLot {ratio : ℚ} (positive : 0 < ratio) :
    openBasis (rescaleLot ratio lot) = openBasis lot := by
  have sameBasis : (rescaleLot ratio lot).carriedBasis = lot.carriedBasis := by
    change lot.remainingQuantity * ratio * (lot.costBasisPerUnit / ratio) =
      lot.remainingQuantity * lot.costBasisPerUnit
    field_simp
  unfold openBasis
  rw [sameBasis]
  rfl

/-- The adjusted lot carries the loss only for the units that remain in it. -/
theorem openBasis_adjustReplacement (sound : SoundShares lot) (isOpen : lot.isOpen)
    (disallowed : ℚ) :
    openBasis (adjustReplacement lot disallowed) =
      openBasis lot + disallowed * (lot.remainingQuantity / lot.quantity) := by
  have stillOpen : (adjustReplacement lot disallowed).isOpen := isOpen
  have product := sound.1.perUnit sound.2
  rw [openBasis_of_open isOpen, openBasis_of_open stillOpen]
  simp only [adjustReplacement, sound.2, if_true, TaxLot.carriedBasis]
  rw [← product]
  have quantityNe : lot.quantity ≠ 0 := sound.2.ne'
  field_simp

end OneLot

/-! ## The operations -/

section Operations

variable {order : AcquisitionOrder} {costBasisMethod : CostBasisMethod} {lots : LotTable}
  {transaction : Transaction} {securityId : Uuid}

theorem id_sellFromLot (proceedsPerUnit : ℚ) (lot : TaxLot) (qtySold : ℚ) :
    (sellFromLot transaction proceedsPerUnit lot qtySold).id = lot.id := by
  unfold sellFromLot
  dsimp only
  split <;> rfl

/-- Writing back updates of distinct stored lots changes the sum of a measure by
what the updates change. -/
theorem sum_saveAll_updates (lots : LotTable) (measure : TaxLot → ℚ) (update : TaxLot → ℚ → TaxLot)
    (sameId : ∀ lot amount, (update lot amount).id = lot.id)
    (allocations : List (TaxLot × ℚ))
    (stored : ∀ allocation ∈ allocations, allocation.1 ∈ lots.rows)
    (nodup : (allocations.map fun allocation => allocation.1.id).Nodup) :
    (lots.saveAll (allocations.map fun part => update part.1 part.2)).sum measure =
      lots.sum measure +
        (allocations.map fun allocation =>
          measure (update allocation.1 allocation.2) - measure allocation.1).sum := by
  have saved := Table.sum_saveAll measure
    (allocations.map fun allocation => (allocation.1, update allocation.1 allocation.2)) lots
    (by
      intro change changeMem
      obtain ⟨allocation, allocationMem, rfl⟩ := List.mem_map.mp changeMem
      exact stored allocation allocationMem)
    (by
      intro change changeMem
      obtain ⟨allocation, -, rfl⟩ := List.mem_map.mp changeMem
      exact sameId _ _)
    (by simpa [List.map_map, Function.comp_def] using nodup)
  simpa [List.map_map, Function.comp_def] using saved

/-- What the open lots of the sale's account and security still hold. -/
def availableForSale (order : AcquisitionOrder) (costBasisMethod : CostBasisMethod)
    (lots : LotTable) (transaction : Transaction) (securityId : Uuid) : ℚ :=
  ((lotsForSale order costBasisMethod lots transaction securityId).map
    TaxLot.remainingQuantity).sum

/-- The closures of a sale realise, for each lot, the proceeds of the units sold
less their cost; the record of unmatched units realises nothing. -/
theorem matchSaleToLots_realized (order : AcquisitionOrder) (costBasisMethod : CostBasisMethod)
    (lots : LotTable) (securityId : Uuid) (hasQuantity : 0 < transaction.absQuantity) :
    ((matchSaleToLots order costBasisMethod lots transaction securityId).2.map
        ClosureRecord.realizedPl).sum =
      ((saleAllocations order costBasisMethod lots transaction securityId).map fun part =>
        part.2 * (transaction.absAmount / transaction.absQuantity) -
          part.2 * part.1.costBasisPerUnit).sum := by
  simp only [matchSaleToLots, not_le.mpr hasQuantity, if_false, List.map_append, List.sum_append,
    List.map_map]
  have nothingUnmatched : ∀ unmatched : ClosureRecord, unmatched.realizedPl = 0 →
      (List.map ClosureRecord.realizedPl
        (if 0 < transaction.absQuantity -
            drawn (saleAllocations order costBasisMethod lots transaction securityId) then
          [unmatched] else [])).sum = 0 := by
    intro unmatched nothing
    split <;> simp [nothing]
  rw [nothingUnmatched _ rfl, add_zero]
  rfl

private theorem sum_realized (proceedsPerUnit : ℚ) (sold : List (TaxLot × ℚ)) :
    (sold.map fun part =>
        part.2 * proceedsPerUnit - part.2 * part.1.costBasisPerUnit).sum =
      drawn sold * proceedsPerUnit -
        (sold.map fun part => part.2 * part.1.costBasisPerUnit).sum := by
  induction sold with
  | nil => simp
  | cons part rest ih =>
      simp only [List.map_cons, List.sum_cons, ih, drawn_cons]
      ring

/-- What a sale realises is its proceeds for the matched quantity less the basis
it takes out of the open lots. -/
theorem matchSaleToLots_carried (order : AcquisitionOrder) (costBasisMethod : CostBasisMethod)
    (lots : LotTable) (securityId : Uuid) (hasQuantity : transaction.absQuantity ≠ 0) :
    ((matchSaleToLots order costBasisMethod lots transaction securityId).2.map
        ClosureRecord.realizedPl).sum =
      drawn (saleAllocations order costBasisMethod lots transaction securityId) *
          (transaction.absAmount / transaction.absQuantity) - carried lots +
        carried (matchSaleToLots order costBasisMethod lots transaction securityId).1 := by
  have quantityPos : 0 < transaction.absQuantity :=
    lt_of_le_of_ne transaction.absQuantity_nonneg hasQuantity.symm
  have carriedAfter := sum_saveAll_updates lots openBasis
    (sellFromLot transaction (transaction.absAmount / transaction.absQuantity))
    (id_sellFromLot _)
    (saleAllocations order costBasisMethod lots transaction securityId)
    (fun allocation isMem => (sold_bounds isMem).1)
    (ids_draw_nodup ids_lotsForSale_nodup)
  have costTaken : ((saleAllocations order costBasisMethod lots transaction securityId).map
      fun allocation => openBasis (sellFromLot transaction
          (transaction.absAmount / transaction.absQuantity) allocation.1 allocation.2) -
        openBasis allocation.1) =
      (saleAllocations order costBasisMethod lots transaction securityId).map fun allocation =>
          -1 * (allocation.2 * allocation.1.costBasisPerUnit) := by
    refine List.map_congr_left fun allocation isMem => ?_
    rw [openBasis_sellFromLot (sold_bounds isMem).2.1]
    ring
  rw [costTaken, List.sum_map_mul_left] at carriedAfter
  rw [matchSaleToLots_realized _ _ _ _ quantityPos, sum_realized]
  simp only [matchSaleToLots, not_le.mpr quantityPos, if_false, carried, carriedAfter]
  ring

/-- A sale that the open lots cover takes its whole quantity from them. -/
theorem drawn_saleAllocations (covered : transaction.absQuantity ≤
      availableForSale order costBasisMethod lots transaction securityId) :
    drawn (saleAllocations order costBasisMethod lots transaction securityId) =
      transaction.absQuantity :=
  drawn_draw_of_covered (fun _ lotMem => (mem_lotsForSale lotMem).2.2.le)
    transaction.absQuantity_nonneg covered

/-- The part of a draw of disallowed losses that falls on units that have left
the replacement lots. -/
def lostBasis (adjusted : List (TaxLot × ℚ)) : ℚ :=
  (adjusted.map fun part =>
    part.2 * (1 - part.1.remainingQuantity / part.1.quantity)).sum

theorem sum_adjustmentRecords (adjusted : List (TaxLot × ℚ)) :
    ∀ remainingLoss : ℚ,
      ((adjustmentRecords remainingLoss adjusted).map
        WashSaleAdjustment.disallowedLoss).sum = drawn adjusted := by
  induction adjusted with
  | nil => intro remainingLoss; rfl
  | cons allocation rest ih =>
      intro remainingLoss
      simp [adjustmentRecords, ih]

/-- Booking a wash sale raises the carried basis by the disallowed losses less
what falls on units that have left the replacement lots. -/
theorem detectAndAdjustWashSales_carried (order : AcquisitionOrder) (securityId : Uuid)
    (sound : ∀ lot ∈ lots.rows, SoundShares lot)
    (hasQuantity : transaction.absQuantity ≠ 0) :
    carried (detectAndAdjustWashSales order lots transaction securityId).1 =
      carried lots +
        (((detectAndAdjustWashSales order lots transaction securityId).2.map
          WashSaleAdjustment.disallowedLoss).sum -
        lostBasis (disallowedLosses order lots transaction securityId)) := by
  have quantityPos : 0 < transaction.absQuantity :=
    lt_of_le_of_ne transaction.absQuantity_nonneg hasQuantity.symm
  have totalNonneg : ∀ lot ∈ lots.rows, 0 ≤ lot.costBasisTotal :=
    fun lot lotMem => (sound lot lotMem).1.totalNonneg
  have carriedAfter := sum_saveAll_updates lots openBasis adjustReplacement
    (fun _ _ => rfl) (disallowedLosses order lots transaction securityId)
    (fun allocation isMem => (disallowed_bounds totalNonneg isMem).1)
    (ids_draw_nodup ids_replacementLots_nodup)
  have basisAdded : ((disallowedLosses order lots transaction securityId).map fun allocation =>
        openBasis (adjustReplacement allocation.1 allocation.2) - openBasis allocation.1) =
      (disallowedLosses order lots transaction securityId).map fun allocation =>
        allocation.2 - allocation.2 *
          (1 - allocation.1.remainingQuantity / allocation.1.quantity) := by
    refine List.map_congr_left fun allocation isMem => ?_
    obtain ⟨stored, isOpen, -⟩ := disallowed_bounds totalNonneg isMem
    rw [openBasis_adjustReplacement (sound _ stored) isOpen]
    ring
  rw [basisAdded] at carriedAfter
  simp only [detectAndAdjustWashSales, not_le.mpr quantityPos, if_false, sum_adjustmentRecords,
    carried, carriedAfter, lostBasis, drawn]
  congr 1
  generalize disallowedLosses order lots transaction securityId = adjusted
  induction adjusted with
  | nil => simp
  | cons allocation rest ih =>
      simp only [List.map_cons, List.sum_cons, ih]
      ring

theorem createTaxLotsForPurchase_carried (lots : LotTable) (securityId : Uuid)
    (hasQuantity : transaction.absQuantity ≠ 0) :
    carried (createTaxLotsForPurchase lots transaction securityId).1 =
      carried lots + transaction.absAmount := by
  have newLot : openBasis (purchasedLot lots.next transaction securityId) =
      transaction.absAmount := by
    simp only [openBasis, TaxLot.isOpen, purchasedLot, TaxLot.carriedBasis, ne_eq, hasQuantity,
      not_false_eq_true, if_true, Option.isNone_none]
    field_simp
  exact (Table.sum_insert lots _ rfl openBasis).trans (by rw [newLot]; rfl)

/-! ## Measures that lots pass on -/

theorem sum_moveLot (measure : TaxLot → ℚ) (destination : Transaction)
    {allocation : TaxLot × ℚ} (stored : allocation.1 ∈ lots.rows) :
    (moveLot transaction destination securityId lots allocation).sum measure =
      lots.sum measure +
        (measure (moveFromLot transaction allocation.1 allocation.2) - measure allocation.1) +
        measure (receivedLot lots.next destination securityId allocation.1 allocation.2) := by
  rw [← Table.sum_save lots stored (id_moveFromLot _ _)]
  exact Table.sum_insert _ _ rfl measure

/-- A measure that a quantity event leaves with its lot and a transfer passes on,
for lots with a property. -/
structure PassedOn (transaction : Transaction) (property : TaxLot → Prop)
    (measure : TaxLot → ℚ) : Prop where
  rescaled : ∀ {lot ratio}, 0 < ratio → measure (rescaleLot ratio lot) = measure lot
  moved : ∀ {lot} movedQuantity id destination securityId, property lot → lot.isOpen →
    measure (moveFromLot transaction lot movedQuantity) +
      measure (receivedLot id destination securityId lot movedQuantity) = measure lot

section PassedOn

variable {property : TaxLot → Prop} {measure : TaxLot → ℚ}

theorem sum_processQuantityEvent (passedOn : PassedOn transaction property measure) :
    (processQuantityEvent order lots transaction).1.sum measure = lots.sum measure := by
  unfold processQuantityEvent applyQuantityEventToLots
  split
  · rfl
  · split
    · rfl
    · rename_i ratio _ _ securityId _
      by_cases invalid : ratio ≤ 0
      · simp only [invalid, if_true]
      · simp only [invalid, if_false]
        have saved := Table.sum_saveAll measure
          ((findOpenLots order lots transaction.accountId securityId).map fun lot =>
            (lot, rescaleLot ratio lot)) lots
          (by
            intro change changeMem
            obtain ⟨lot, lotMem, rfl⟩ := List.mem_map.mp changeMem
            exact (mem_findOpenLots.mp lotMem).1)
          (by
            intro change changeMem
            obtain ⟨lot, -, rfl⟩ := List.mem_map.mp changeMem
            rfl)
          (by simpa [List.map_map, Function.comp_def] using ids_findOpenLots_nodup)
        simpa [List.map_map, Function.comp_def, passedOn.rescaled (not_le.mp invalid)]
          using saved

theorem sum_moveLots (passedOn : PassedOn transaction property measure)
    (destination : Transaction) (allocations : List (TaxLot × ℚ)) :
    ∀ {lots : LotTable}, Allocated lots allocations →
      (∀ allocation ∈ allocations, property allocation.1) →
      (allocations.foldl (moveLot transaction destination securityId) lots).sum measure =
        lots.sum measure := by
  induction allocations with
  | nil => intro lots _ _; rfl
  | cons allocation rest ih =>
      intro lots allocated all
      have isOpen := allocated.isOpen allocation List.mem_cons_self
      have passed := passedOn.moved allocation.2 lots.next destination securityId
        (all allocation List.mem_cons_self) isOpen
      rw [List.foldl_cons, ih (allocated.tail destination)
          fun other otherMem => all other (List.mem_cons_of_mem _ otherMem),
        sum_moveLot measure destination (allocated.stored allocation List.mem_cons_self),
        ← passed]
      ring

theorem sum_transferLotsToDestination (passedOn : PassedOn transaction property measure)
    (all : ∀ lot ∈ lots.rows, property lot) (destination : Transaction)
    (destinationSecurityId : Uuid) :
    (transferLotsToDestination order lots transaction destination securityId
      destinationSecurityId).1.sum measure = lots.sum measure := by
  unfold transferLotsToDestination
  dsimp only
  split
  · rfl
  · split
    · rfl
    · split
      · rfl
      · apply sum_moveLots passedOn destination _ transfer_allocated
        intro allocation isMem
        exact all _ (transfer_allocated.stored allocation isMem)

end PassedOn

/-- Quantity events and transfers leave the carried basis as it is. -/
theorem openBasis_passedOn : PassedOn transaction (fun _ => True) openBasis where
  rescaled := openBasis_rescaleLot
  moved := by
    intro lot movedQuantity id destination securityId _ isOpen
    rw [openBasis_moveFromLot isOpen, openBasis_receivedLot]
    ring

end Operations

end FinanceSync.TaxLots
