import FinanceSync.TaxLots.Processing
import Mathlib.Tactic.FieldSimp
import Mathlib.Tactic.Ring

/-!
# Sound lots

A lot is sound if its remaining quantity lies between zero and its quantity, it
is closed exactly when nothing remains, and its basis per unit times its
quantity is its total basis.  Every operation of the engine keeps all lots of
the table sound, so every lot of a rebuild is.
-/

namespace FinanceSync.TaxLots

open Lib

/-! ## Queries -/

section Queries

variable {order : AcquisitionOrder} {costBasisMethod : CostBasisMethod} {lots : LotTable}
  {transaction : Transaction} {accountId securityId : Uuid} {lot : TaxLot}

theorem mem_findOpenLots :
    lot ∈ findOpenLots order lots accountId securityId ↔
      lot ∈ lots.rows ∧ lot.accountId = accountId ∧ lot.securityId = securityId ∧
        lot.isOpen := by
  simp [findOpenLots]

theorem ids_findOpenLots_nodup :
    ((findOpenLots order lots accountId securityId).map TaxLot.id).Nodup := by
  have rows := (order.perm (lots.rows.filter fun lot =>
    lot.accountId = accountId ∧ lot.securityId = securityId ∧ lot.isOpen)).map TaxLot.id
  exact rows.nodup_iff.mpr ((List.filter_sublist.map TaxLot.id).nodup lots.nodup)

/-- A sale reads open lots with something left in them. -/
theorem mem_lotsForSale
    (isMem : lot ∈ lotsForSale order costBasisMethod lots transaction securityId) :
    lot ∈ lots.rows ∧ lot.isOpen ∧ 0 < lot.remainingQuantity := by
  obtain ⟨inOpen, remaining⟩ := List.mem_filter.mp isMem
  have found : lot ∈ findOpenLots order lots transaction.accountId securityId := by
    by_cases lifo : costBasisMethod = .lifo
    · simpa [lifo] using inOpen
    · simpa [lifo] using inOpen
  obtain ⟨stored, -, -, isOpen⟩ := mem_findOpenLots.mp found
  exact ⟨stored, isOpen, of_decide_eq_true remaining⟩

theorem ids_lotsForSale_nodup :
    ((lotsForSale order costBasisMethod lots transaction securityId).map TaxLot.id).Nodup := by
  have openNodup :
      ((findOpenLots order lots transaction.accountId securityId).map TaxLot.id).Nodup :=
    ids_findOpenLots_nodup
  refine List.Nodup.sublist (List.filter_sublist.map TaxLot.id) ?_
  by_cases lifo : costBasisMethod = .lifo
  · simpa [lifo, List.map_reverse] using openNodup
  · simpa [lifo] using openNodup

theorem mem_replacementLots
    (isMem : lot ∈ replacementLots order lots transaction securityId) :
    lot ∈ lots.rows ∧ lot.isOpen := by
  simp only [replacementLots, List.mem_filter, OrderBy.mem_sort] at isMem
  exact ⟨isMem.1.1, (of_decide_eq_true isMem.2).1⟩

theorem ids_replacementLots_nodup :
    ((replacementLots order lots transaction securityId).map TaxLot.id).Nodup := by
  refine List.Nodup.sublist (List.filter_sublist.map TaxLot.id) ?_
  exact ((order.perm _).map TaxLot.id).nodup_iff.mpr
    ((List.filter_sublist.map TaxLot.id).nodup lots.nodup)

/-- The lots a draw reaches are distinct. -/
theorem ids_draw_nodup {offer : TaxLot → ℚ} {demand : ℚ} {sources : List TaxLot}
    (nodup : (sources.map TaxLot.id).Nodup) :
    ((draw offer demand sources).map fun allocation => allocation.1.id).Nodup := by
  have reached := ((draw_sources_sublist offer sources demand).map TaxLot.id).nodup nodup
  simpa [List.map_map, Function.comp_def] using reached

end Queries

/-! ## Sound lots -/

structure SoundLot (lot : TaxLot) : Prop where
  remainingNonneg : 0 ≤ lot.remainingQuantity
  remainingLe : lot.remainingQuantity ≤ lot.quantity
  totalNonneg : 0 ≤ lot.costBasisTotal
  perUnit : 0 < lot.quantity → lot.costBasisPerUnit * lot.quantity = lot.costBasisTotal
  openIff : 0 < lot.quantity → (lot.isOpen ↔ lot.remainingQuantity ≠ 0)

/-- Every lot of the table is sound. -/
def Sound (lots : LotTable) : Prop := ∀ lot ∈ lots.rows, SoundLot lot

namespace SoundLot

variable {lot : TaxLot} (sound : SoundLot lot)

include sound

theorem quantityNonneg : 0 ≤ lot.quantity :=
  le_trans sound.remainingNonneg sound.remainingLe

theorem perUnitNonneg (positive : 0 < lot.quantity) : 0 ≤ lot.costBasisPerUnit := by
  have product := sound.perUnit positive
  have : lot.costBasisPerUnit = lot.costBasisTotal / lot.quantity := by
    rw [← product, mul_div_assoc, div_self positive.ne', mul_one]
  rw [this]
  exact div_nonneg sound.totalNonneg positive.le

theorem sellFromLot (isOpen : lot.isOpen) (transaction : Transaction) (proceedsPerUnit : ℚ)
    {qtySold : ℚ} (nonneg : 0 ≤ qtySold) (available : qtySold ≤ lot.remainingQuantity) :
    SoundLot (sellFromLot transaction proceedsPerUnit lot qtySold) := by
  have upper := sound.remainingLe
  by_cases usedUp : lot.remainingQuantity - qtySold = 0
  · simp only [TaxLots.sellFromLot, usedUp, if_true]
    exact
      { remainingNonneg := le_rfl
        remainingLe := sound.quantityNonneg
        totalNonneg := sound.totalNonneg
        perUnit := sound.perUnit
        openIff := by simp [TaxLot.isOpen] }
  · simp only [TaxLots.sellFromLot, usedUp, if_false]
    exact
      { remainingNonneg := sub_nonneg.mpr available
        remainingLe := by linarith
        totalNonneg := sound.totalNonneg
        perUnit := sound.perUnit
        openIff := fun _ => ⟨fun _ => usedUp, fun _ => isOpen⟩ }

theorem moveFromLot (isOpen : lot.isOpen) (transaction : Transaction)
    {movedQuantity : ℚ} (nonneg : 0 ≤ movedQuantity)
    (available : movedQuantity ≤ lot.remainingQuantity) :
    SoundLot (moveFromLot transaction lot movedQuantity) := by
  have upper := sound.remainingLe
  by_cases usedUp : lot.remainingQuantity - movedQuantity = 0
  · simp only [TaxLots.moveFromLot, usedUp, if_true]
    exact
      { remainingNonneg := le_rfl
        remainingLe := sound.quantityNonneg
        totalNonneg := sound.totalNonneg
        perUnit := sound.perUnit
        openIff := by simp [TaxLot.isOpen] }
  · simp only [TaxLots.moveFromLot, usedUp, if_false]
    exact
      { remainingNonneg := sub_nonneg.mpr available
        remainingLe := by linarith
        totalNonneg := sound.totalNonneg
        perUnit := sound.perUnit
        openIff := fun _ => ⟨fun _ => usedUp, fun _ => isOpen⟩ }

theorem receivedLot (id : Uuid) (destination : Transaction) (securityId : Uuid)
    {movedQuantity : ℚ} (positive : 0 < movedQuantity)
    (available : movedQuantity ≤ lot.remainingQuantity) :
    SoundLot (receivedLot id destination securityId lot movedQuantity) where
  remainingNonneg := positive.le
  remainingLe := le_rfl
  totalNonneg := by
    have quantityPos : 0 < lot.quantity :=
      lt_of_lt_of_le positive (le_trans available sound.remainingLe)
    exact mul_nonneg positive.le (sound.perUnitNonneg quantityPos)
  perUnit := fun _ => mul_comm _ _
  openIff := fun _ => ⟨fun _ => positive.ne', fun _ => rfl⟩

theorem adjustReplacement {disallowed : ℚ} (nonneg : 0 ≤ disallowed) :
    SoundLot (adjustReplacement lot disallowed) where
  remainingNonneg := sound.remainingNonneg
  remainingLe := sound.remainingLe
  totalNonneg := add_nonneg sound.totalNonneg nonneg
  perUnit := by
    intro positive
    change 0 < lot.quantity at positive
    simp only [TaxLots.adjustReplacement, positive, if_true]
    exact div_mul_cancel₀ _ positive.ne'
  openIff := sound.openIff

theorem rescaleLot {ratio : ℚ} (positive : 0 < ratio) : SoundLot (rescaleLot ratio lot) where
  remainingNonneg := mul_nonneg sound.remainingNonneg positive.le
  remainingLe := mul_le_mul_of_nonneg_right sound.remainingLe positive.le
  totalNonneg := sound.totalNonneg
  perUnit := by
    intro scaledPos
    have quantityPos : 0 < lot.quantity := pos_of_mul_pos_left scaledPos positive.le
    have product := sound.perUnit quantityPos
    change lot.costBasisPerUnit / ratio * (lot.quantity * ratio) = lot.costBasisTotal
    rw [← product]
    field_simp
  openIff := by
    intro scaledPos
    have quantityPos : 0 < lot.quantity := pos_of_mul_pos_left scaledPos positive.le
    have scaled : lot.remainingQuantity * ratio ≠ 0 ↔ lot.remainingQuantity ≠ 0 := by
      simp [positive.ne']
    exact (sound.openIff quantityPos).trans scaled.symm

end SoundLot

/-! ## Properties of all lots -/

/-- A property of lots that every write of the engine for this transaction keeps.
Losses added to a basis are only known not to be negative because no basis is,
so the property has to include that. -/
structure LotClosed (transaction : Transaction) (property : TaxLot → Prop) : Prop where
  totalNonneg : ∀ {lot}, property lot → 0 ≤ lot.costBasisTotal
  purchased : ∀ id securityId, transaction.transactionType = .purchase →
    property (purchasedLot id transaction securityId)
  sold : ∀ {lot qtySold} proceedsPerUnit, property lot → lot.isOpen → 0 < qtySold →
    qtySold ≤ lot.remainingQuantity →
    property (sellFromLot transaction proceedsPerUnit lot qtySold)
  adjusted : ∀ {lot disallowed}, property lot → lot.isOpen → 0 ≤ disallowed →
    property (adjustReplacement lot disallowed)
  rescaled : ∀ {lot ratio}, property lot → lot.isOpen → 0 < ratio →
    property (rescaleLot ratio lot)
  moved : ∀ {lot movedQuantity}, property lot → lot.isOpen → 0 < movedQuantity →
    movedQuantity ≤ lot.remainingQuantity →
    property (moveFromLot transaction lot movedQuantity)
  received : ∀ {lot movedQuantity} id destination securityId, property lot → lot.isOpen →
    0 < movedQuantity → movedQuantity ≤ lot.remainingQuantity →
    property (receivedLot id destination securityId lot movedQuantity)

section Preservation

variable {order : AcquisitionOrder} {costBasisMethod : CostBasisMethod} {lots : LotTable}
  {transaction : Transaction} {securityId : Uuid} {property : TaxLot → Prop}

/-- What is known of a lot and the part a sale takes of it. -/
theorem sold_bounds {allocation : TaxLot × ℚ}
    (isMem : allocation ∈
      saleAllocations order costBasisMethod lots transaction securityId) :
    allocation.1 ∈ lots.rows ∧ allocation.1.isOpen ∧ 0 < allocation.2 ∧
      allocation.2 ≤ allocation.1.remainingQuantity := by
  have positive : ∀ lot ∈ lotsForSale order costBasisMethod lots transaction securityId,
      0 < lot.remainingQuantity := fun lot lotMem => (mem_lotsForSale lotMem).2.2
  obtain ⟨stored, isOpen, -⟩ := mem_lotsForSale (mem_of_mem_draw isMem)
  exact ⟨stored, isOpen, given_pos positive isMem,
    given_le_offer (fun lot lotMem => (positive lot lotMem).le) isMem⟩

theorem matchSaleToLots_forall (order : AcquisitionOrder) (costBasisMethod : CostBasisMethod)
    (securityId : Uuid) (closed : LotClosed transaction property)
    (all : ∀ lot ∈ lots.rows, property lot) :
    ∀ lot ∈ (matchSaleToLots order costBasisMethod lots transaction securityId).1.rows,
      property lot := by
  unfold matchSaleToLots
  by_cases noQuantity : transaction.absQuantity ≤ 0
  · simpa only [noQuantity, if_true] using all
  · simp only [noQuantity, if_false]
    refine Table.forall_saveAll _ all ?_
    intro lot lotMem
    obtain ⟨allocation, allocationMem, rfl⟩ := List.mem_map.mp lotMem
    obtain ⟨stored, isOpen, positive, available⟩ := sold_bounds allocationMem
    exact closed.sold _ (all _ stored) isOpen positive available

/-- What is known of a replacement lot and the loss added to its basis. -/
theorem disallowed_bounds (totalNonneg : ∀ lot ∈ lots.rows, 0 ≤ lot.costBasisTotal)
    {allocation : TaxLot × ℚ}
    (isMem : allocation ∈ disallowedLosses order lots transaction securityId) :
    allocation.1 ∈ lots.rows ∧ allocation.1.isOpen ∧ 0 ≤ allocation.2 := by
  obtain ⟨stored, isOpen⟩ := mem_replacementLots (mem_of_mem_draw isMem)
  exact ⟨stored, isOpen,
    given_nonneg (fun lot lotMem => totalNonneg lot (mem_replacementLots lotMem).1) isMem⟩

theorem detectAndAdjustWashSales_forall (closed : LotClosed transaction property)
    (all : ∀ lot ∈ lots.rows, property lot) :
    ∀ lot ∈ (detectAndAdjustWashSales order lots transaction securityId).1.rows,
      property lot := by
  unfold detectAndAdjustWashSales
  by_cases noQuantity : transaction.absQuantity ≤ 0
  · simpa only [noQuantity, if_true] using all
  · simp only [noQuantity, if_false]
    refine Table.forall_saveAll _ all ?_
    intro lot lotMem
    obtain ⟨allocation, allocationMem, rfl⟩ := List.mem_map.mp lotMem
    obtain ⟨stored, isOpen, nonneg⟩ :=
      disallowed_bounds (fun lot lotMem => closed.totalNonneg (all lot lotMem)) allocationMem
    exact closed.adjusted (all _ stored) isOpen nonneg

theorem applyQuantityEventToLots_forall (closed : LotClosed transaction property)
    (all : ∀ lot ∈ lots.rows, property lot) (ratio : ℚ) :
    ∀ lot ∈ (applyQuantityEventToLots order lots transaction ratio).1.rows, property lot := by
  unfold applyQuantityEventToLots
  cases transaction.securityId with
  | none => exact all
  | some securityId =>
      by_cases invalid : ratio ≤ 0
      · simpa only [invalid, if_true] using all
      · simp only [invalid, if_false]
        refine Table.forall_saveAll _ all ?_
        intro lot lotMem
        obtain ⟨old, oldMem, rfl⟩ := List.mem_map.mp lotMem
        obtain ⟨stored, -, -, isOpen⟩ := mem_findOpenLots.mp oldMem
        exact closed.rescaled (all old stored) isOpen (not_le.mp invalid)

theorem processQuantityEvent_forall (closed : LotClosed transaction property)
    (all : ∀ lot ∈ lots.rows, property lot) :
    ∀ lot ∈ (processQuantityEvent order lots transaction).1.rows, property lot := by
  unfold processQuantityEvent
  split
  · exact all
  · exact applyQuantityEventToLots_forall closed all _

/-- The allocations of a transfer: distinct open lots, each with a positive part
of what remains in it. -/
structure Allocated (lots : LotTable) (allocations : List (TaxLot × ℚ)) : Prop where
  stored : ∀ allocation ∈ allocations, allocation.1 ∈ lots.rows
  isOpen : ∀ allocation ∈ allocations, allocation.1.isOpen
  positive : ∀ allocation ∈ allocations, 0 < allocation.2
  available : ∀ allocation ∈ allocations, allocation.2 ≤ allocation.1.remainingQuantity
  nodup : (allocations.map fun allocation => allocation.1.id).Nodup

theorem transfer_allocated :
    Allocated lots (transferAllocations order lots transaction securityId) := by
  have positive : ∀ lot ∈ (findOpenLots order lots transaction.accountId securityId).filter
      fun lot => 0 < lot.remainingQuantity, 0 < lot.remainingQuantity :=
    fun lot lotMem => of_decide_eq_true (List.mem_filter.mp lotMem).2
  have found : ∀ lot ∈ (findOpenLots order lots transaction.accountId securityId).filter
      fun lot => 0 < lot.remainingQuantity, lot ∈ lots.rows ∧ lot.isOpen := fun lot lotMem =>
    have facts := mem_findOpenLots.mp (List.mem_filter.mp lotMem).1
    ⟨facts.1, facts.2.2.2⟩
  exact
    { stored := fun allocation isMem => (found _ (mem_of_mem_draw isMem)).1
      isOpen := fun allocation isMem => (found _ (mem_of_mem_draw isMem)).2
      positive := fun allocation isMem => given_pos positive isMem
      available := fun allocation isMem =>
        given_le_offer (fun lot lotMem => (positive lot lotMem).le) isMem
      nodup := ids_draw_nodup
        ((List.filter_sublist.map TaxLot.id).nodup ids_findOpenLots_nodup) }

@[simp] theorem id_moveFromLot (lot : TaxLot) (movedQuantity : ℚ) :
    (moveFromLot transaction lot movedQuantity).id = lot.id := by
  unfold moveFromLot
  dsimp only
  split <;> rfl

/-- After the first allocation is carried out the others are as they were. -/
theorem Allocated.tail {allocation : TaxLot × ℚ} {rest : List (TaxLot × ℚ)}
    (allocated : Allocated lots (allocation :: rest)) (destination : Transaction) :
    Allocated (moveLot transaction destination securityId lots allocation) rest := by
  have nodup := allocated.nodup
  rw [List.map_cons, List.nodup_cons] at nodup
  refine
    { stored := ?_
      isOpen := fun other otherMem => allocated.isOpen other (List.mem_cons_of_mem _ otherMem)
      positive := fun other otherMem => allocated.positive other (List.mem_cons_of_mem _ otherMem)
      available := fun other otherMem =>
        allocated.available other (List.mem_cons_of_mem _ otherMem)
      nodup := nodup.2 }
  intro other otherMem
  refine List.mem_append_left _ (lots.mem_save_of_key_ne
    (allocated.stored other (List.mem_cons_of_mem _ otherMem)) ?_)
  intro clash
  rw [id_moveFromLot] at clash
  refine nodup.1 ?_
  rw [← clash]
  exact List.mem_map_of_mem (f := fun allocation : TaxLot × ℚ => allocation.1.id) otherMem

theorem moveLots_forall (closed : LotClosed transaction property) (destination : Transaction)
    (allocations : List (TaxLot × ℚ)) :
    ∀ {lots : LotTable}, Allocated lots allocations → (∀ lot ∈ lots.rows, property lot) →
      ∀ lot ∈ (allocations.foldl (moveLot transaction destination securityId) lots).rows,
        property lot := by
  induction allocations with
  | nil => intro lots _ all; exact all
  | cons allocation rest ih =>
      intro lots allocated all
      have source := all _ (allocated.stored allocation List.mem_cons_self)
      have isOpen := allocated.isOpen allocation List.mem_cons_self
      have positive := allocated.positive allocation List.mem_cons_self
      have available := allocated.available allocation List.mem_cons_self
      refine ih (allocated.tail destination) ?_
      exact Table.forall_insert rfl
        (Table.forall_save all (closed.moved source isOpen positive available))
        (closed.received _ destination securityId source isOpen positive available)

theorem transferLotsToDestination_forall (closed : LotClosed transaction property)
    (all : ∀ lot ∈ lots.rows, property lot) (destination : Transaction)
    (destinationSecurityId : Uuid) :
    ∀ lot ∈ (transferLotsToDestination order lots transaction destination securityId
      destinationSecurityId).1.rows, property lot := by
  unfold transferLotsToDestination
  dsimp only
  split
  · exact all
  · split
    · exact all
    · split
      · exact all
      · exact moveLots_forall closed destination _ transfer_allocated all

/-- A closed property of all lots still holds of all lots after a transaction. -/
theorem processTransaction_forall (closed : LotClosed transaction property)
    (pairedTransfer : Option Transaction) (all : ∀ lot ∈ lots.rows, property lot) :
    ∀ lot ∈ (processTransaction order costBasisMethod pairedTransfer lots transaction).1.rows,
      property lot := by
  have outcome := processTransaction_processed order costBasisMethod pairedTransfer lots transaction
  generalize processTransaction order costBasisMethod pairedTransfer lots transaction =
    processed at outcome
  cases outcome with
  | purchase securityId isPurchase _ =>
      exact Table.forall_insert rfl all (closed.purchased _ _ isPurchase)
  | sale securityId _ _ =>
      exact detectAndAdjustWashSales_forall closed (matchSaleToLots_forall _ _ _ closed all)
  | transfer destination securityId destinationSecurityId _ =>
      exact transferLotsToDestination_forall closed all _ _
  | quantityEvent _ _ => exact processQuantityEvent_forall closed all
  | nothing _ _ => exact all

end Preservation

/-! ## Every lot of a rebuild is sound -/

theorem purchasedLot_sound (id : Uuid) (transaction : Transaction) (securityId : Uuid) :
    SoundLot (purchasedLot id transaction securityId) where
  remainingNonneg := transaction.absQuantity_nonneg
  remainingLe := le_rfl
  totalNonneg := transaction.absAmount_nonneg
  perUnit := by
    intro positive
    change 0 < transaction.absQuantity at positive
    simp only [purchasedLot, ne_eq, positive.ne', not_false_eq_true, if_true]
    exact div_mul_cancel₀ _ positive.ne'
  openIff := fun positive => ⟨fun _ => positive.ne', fun _ => rfl⟩

theorem soundLot_closed (transaction : Transaction) : LotClosed transaction SoundLot where
  totalNonneg := SoundLot.totalNonneg
  purchased := fun id securityId _ => purchasedLot_sound id transaction securityId
  sold := fun proceedsPerUnit sound isOpen positive available =>
    sound.sellFromLot isOpen transaction proceedsPerUnit positive.le available
  adjusted := fun sound _ nonneg => sound.adjustReplacement nonneg
  rescaled := fun sound _ positive => sound.rescaleLot positive
  moved := fun sound isOpen positive available =>
    sound.moveFromLot isOpen transaction positive.le available
  received := fun id destination securityId sound _ positive available =>
    sound.receivedLot id destination securityId positive available

/-- A lot that is sound and was not opened by a purchase without quantity. -/
def SoundShares (lot : TaxLot) : Prop := SoundLot lot ∧ 0 < lot.quantity

theorem soundShares_closed {transaction : Transaction}
    (hasQuantity : transaction.transactionType = .purchase → transaction.absQuantity ≠ 0) :
    LotClosed transaction SoundShares where
  totalNonneg := fun sound => sound.1.totalNonneg
  purchased := fun id securityId isPurchase =>
    ⟨purchasedLot_sound id transaction securityId,
      lt_of_le_of_ne transaction.absQuantity_nonneg (hasQuantity isPurchase).symm⟩
  sold := by
    intro lot qtySold proceedsPerUnit sound isOpen positive available
    refine ⟨sound.1.sellFromLot isOpen transaction proceedsPerUnit positive.le available, ?_⟩
    unfold sellFromLot
    dsimp only
    split <;> exact sound.2
  adjusted := fun sound _ nonneg => ⟨sound.1.adjustReplacement nonneg, sound.2⟩
  rescaled := fun sound _ positive => ⟨sound.1.rescaleLot positive, mul_pos sound.2 positive⟩
  moved := by
    intro lot movedQuantity sound isOpen positive available
    refine ⟨sound.1.moveFromLot isOpen transaction positive.le available, ?_⟩
    unfold moveFromLot
    dsimp only
    split <;> exact sound.2
  received := fun id destination securityId sound _ positive available =>
    ⟨sound.1.receivedLot id destination securityId positive available, positive⟩

end FinanceSync.TaxLots
