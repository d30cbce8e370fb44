import FinanceSync.TaxLots.RealizedTotals

/-!
# What a sale reports to have matched

A sale consumes the open lots in the order of their acquisition, or against it
for LIFO, and uses each one up before it goes on.  The closure records of a sale
that exceeds the open lots end with one for the unmatched units, which repeats
the quantity that the other records already account for: the records then say
that more was sold than the sale has.
-/

namespace FinanceSync.TaxLots

open Lib

/-- The open lots of a sale in the order in which it goes through them. -/
def openLotsInOrder (order : AcquisitionOrder) (costBasisMethod : CostBasisMethod)
    (lots : LotTable) (transaction : Transaction) (securityId : Uuid) : List TaxLot :=
  let openLots := findOpenLots order lots transaction.accountId securityId
  if costBasisMethod = .lifo then openLots.reverse else openLots

def soldQuantity (records : List ClosureRecord) : ℚ :=
  (records.map ClosureRecord.quantitySold).sum

def unmatchedQuantity (records : List ClosureRecord) : ℚ :=
  (records.map fun record => record.unmatchedQuantity.getD 0).sum

/-- The records that close a part of a lot. -/
def lotRecords (records : List ClosureRecord) : List ClosureRecord :=
  records.filter fun record => record.lotId.isSome

/-- What the matching of a sale promises about the lots it leaves behind and the
records and the action it reports. -/
structure MatchedExactly (order : AcquisitionOrder) (costBasisMethod : CostBasisMethod)
    (lots : LotTable) (transaction : Transaction) (securityId : Uuid) : Prop where
  byAcquisition :
    (openLotsInOrder order costBasisMethod lots transaction securityId).Pairwise
      fun first later =>
        if costBasisMethod = .lifo then later.acquiredAt ≤ first.acquiredAt
        else first.acquiredAt ≤ later.acquiredAt
  inOrder : ∀ before lot rest,
    openLotsInOrder order costBasisMethod lots transaction securityId = before ++ lot :: rest →
      (∃ record ∈ (matchSaleToLots order costBasisMethod lots transaction securityId).2,
        record.lotId = some lot.id) →
      ∀ earlier ∈ before, 0 < earlier.remainingQuantity →
        ∃ stored ∈ (matchSaleToLots order costBasisMethod lots transaction securityId).1.rows,
          stored.id = earlier.id ∧ stored.remainingQuantity = 0 ∧ ¬ stored.isOpen
  accounted :
    soldQuantity (matchSaleToLots order costBasisMethod lots transaction securityId).2 +
        unmatchedQuantity (matchSaleToLots order costBasisMethod lots transaction securityId).2 =
      transaction.absQuantity
  proceeds :
    ((matchSaleToLots order costBasisMethod lots transaction securityId).2.map
        ClosureRecord.proceeds).sum =
      transaction.absAmount * soldQuantity (lotRecords
        (matchSaleToLots order costBasisMethod lots transaction securityId).2) /
        transaction.absQuantity
  reported : ∀ pairedTransfer lotsClosed totalQuantityMatched totalRealizedPl,
    Action.lotsMatched lotsClosed totalQuantityMatched totalRealizedPl ∈
        (processTransaction order costBasisMethod pairedTransfer lots transaction).2 →
      totalQuantityMatched ≤ transaction.absQuantity

section Sale

variable {order : AcquisitionOrder} {costBasisMethod : CostBasisMethod} {lots : LotTable}
  {transaction : Transaction} {securityId : Uuid}

theorem lotsForSale_eq :
    lotsForSale order costBasisMethod lots transaction securityId =
      (openLotsInOrder order costBasisMethod lots transaction securityId).filter fun lot =>
        0 < lot.remainingQuantity :=
  rfl

theorem ids_openLotsInOrder_nodup :
    ((openLotsInOrder order costBasisMethod lots transaction securityId).map TaxLot.id).Nodup := by
  have nodup : ((findOpenLots order lots transaction.accountId securityId).map
      TaxLot.id).Nodup := ids_findOpenLots_nodup
  by_cases lifo : costBasisMethod = .lifo
  · simpa [openLotsInOrder, lifo, List.map_reverse] using nodup
  · simpa [openLotsInOrder, lifo] using nodup

theorem openLotsInOrder_byAcquisition :
    (openLotsInOrder order costBasisMethod lots transaction securityId).Pairwise
      fun first later =>
        if costBasisMethod = .lifo then later.acquiredAt ≤ first.acquiredAt
        else first.acquiredAt ≤ later.acquiredAt := by
  have ascending : (findOpenLots order lots transaction.accountId securityId).Pairwise
      fun first later => first.acquiredAt ≤ later.acquiredAt := order.ascending _
  by_cases lifo : costBasisMethod = .lifo
  · simpa [openLotsInOrder, lifo, List.pairwise_reverse] using ascending
  · simpa [openLotsInOrder, lifo] using ascending

/-! ## The records -/

/-- The records of a sale: one for each lot it reaches, and one for what is left. -/
theorem matchSaleToLots_records (order : AcquisitionOrder) (costBasisMethod : CostBasisMethod)
    (lots : LotTable) (securityId : Uuid) (positive : 0 < transaction.absQuantity) :
    ∃ unmatched : List ClosureRecord,
      (matchSaleToLots order costBasisMethod lots transaction securityId).2 =
        ((saleAllocations order costBasisMethod lots transaction securityId).map fun part =>
          closureRecord (transaction.absAmount / transaction.absQuantity) part.1 part.2) ++
          unmatched ∧
      (∀ record ∈ unmatched, record.lotId = none ∧ record.proceeds = 0) ∧
      soldQuantity unmatched =
        (if drawn (saleAllocations order costBasisMethod lots transaction securityId) <
            transaction.absQuantity then
          drawn (saleAllocations order costBasisMethod lots transaction securityId)
        else 0) ∧
      unmatchedQuantity unmatched =
        (if drawn (saleAllocations order costBasisMethod lots transaction securityId) <
            transaction.absQuantity then
          transaction.absQuantity -
            drawn (saleAllocations order costBasisMethod lots transaction securityId)
        else 0) := by
  simp only [matchSaleToLots, not_le.mpr positive, if_false]
  refine ⟨_, rfl, ?_, ?_, ?_⟩
  · intro record isMem
    split at isMem
    · rw [List.mem_singleton] at isMem
      rw [isMem]
      exact ⟨rfl, rfl⟩
    · exact absurd isMem List.not_mem_nil
  · simp only [sub_pos]
    split <;> simp [soldQuantity]
  · simp only [sub_pos]
    split <;> simp [unmatchedQuantity]

theorem soldQuantity_closureRecords (proceedsPerUnit : ℚ) (sold : List (TaxLot × ℚ)) :
    soldQuantity (sold.map fun part => closureRecord proceedsPerUnit part.1 part.2) =
      drawn sold := by
  simp [soldQuantity, drawn, closureRecord, Function.comp_def]

theorem unmatchedQuantity_closureRecords (proceedsPerUnit : ℚ) (sold : List (TaxLot × ℚ)) :
    unmatchedQuantity (sold.map fun part => closureRecord proceedsPerUnit part.1 part.2) = 0 := by
  simp [unmatchedQuantity, closureRecord, Function.comp_def]

theorem soldQuantity_append (records more : List ClosureRecord) :
    soldQuantity (records ++ more) = soldQuantity records + soldQuantity more := by
  simp [soldQuantity]

theorem unmatchedQuantity_append (records more : List ClosureRecord) :
    unmatchedQuantity (records ++ more) = unmatchedQuantity records + unmatchedQuantity more := by
  simp [unmatchedQuantity]

/-- The records of a sale account for the drawn quantity, and once more if it falls short. -/
theorem matchSaleToLots_soldQuantity (positive : 0 < transaction.absQuantity) :
    soldQuantity (matchSaleToLots order costBasisMethod lots transaction securityId).2 =
      drawn (saleAllocations order costBasisMethod lots transaction securityId) +
        if drawn (saleAllocations order costBasisMethod lots transaction securityId) <
            transaction.absQuantity then
          drawn (saleAllocations order costBasisMethod lots transaction securityId)
        else 0 := by
  obtain ⟨unmatched, records, -, sold, -⟩ :=
    matchSaleToLots_records order costBasisMethod lots securityId positive
  rw [records, soldQuantity_append, soldQuantity_closureRecords, sold]

theorem matchSaleToLots_unmatchedQuantity (positive : 0 < transaction.absQuantity) :
    unmatchedQuantity (matchSaleToLots order costBasisMethod lots transaction securityId).2 =
      if drawn (saleAllocations order costBasisMethod lots transaction securityId) <
          transaction.absQuantity then
        transaction.absQuantity -
          drawn (saleAllocations order costBasisMethod lots transaction securityId)
      else 0 := by
  obtain ⟨unmatched, records, -, -, notMatched⟩ :=
    matchSaleToLots_records order costBasisMethod lots securityId positive
  rw [records, unmatchedQuantity_append, unmatchedQuantity_closureRecords, notMatched, zero_add]

/-- The proceeds are shared out by the quantity that the lots give. -/
theorem matchSaleToLots_proceeds (positive : 0 < transaction.absQuantity) :
    ((matchSaleToLots order costBasisMethod lots transaction securityId).2.map
        ClosureRecord.proceeds).sum =
      transaction.absAmount * soldQuantity (lotRecords
        (matchSaleToLots order costBasisMethod lots transaction securityId).2) /
        transaction.absQuantity := by
  obtain ⟨unmatched, records, ofNoLot, -, -⟩ :=
    matchSaleToLots_records order costBasisMethod lots securityId positive
  have noProceeds : (unmatched.map ClosureRecord.proceeds).sum = 0 := by
    apply List.sum_eq_zero
    intro proceeds isMem
    obtain ⟨record, recordMem, rfl⟩ := List.mem_map.mp isMem
    exact (ofNoLot record recordMem).2
  have noLots : lotRecords unmatched = [] := by
    apply List.filter_eq_nil_iff.mpr
    intro record isMem
    simp [(ofNoLot record isMem).1]
  have allLots : ∀ sold : List (TaxLot × ℚ), ∀ perUnit : ℚ,
      lotRecords (sold.map fun part => closureRecord perUnit part.1 part.2) =
        sold.map fun part => closureRecord perUnit part.1 part.2 := by
    intro sold perUnit
    apply List.filter_eq_self.mpr
    intro record isMem
    obtain ⟨part, -, rfl⟩ := List.mem_map.mp isMem
    rfl
  have shared : ∀ sold : List (TaxLot × ℚ), ∀ perUnit : ℚ,
      ((sold.map fun part => closureRecord perUnit part.1 part.2).map
        ClosureRecord.proceeds).sum = drawn sold * perUnit := by
    intro sold perUnit
    simp [closureRecord, drawn, Function.comp_def, List.sum_map_mul_right]
  rw [records, List.map_append, List.sum_append, noProceeds, add_zero, shared, lotRecords,
    List.filter_append, ← lotRecords, ← lotRecords, noLots, allLots, List.append_nil,
    soldQuantity_closureRecords]
  ring

/-! ## The lots -/

theorem exists_allocation (positive : 0 < transaction.absQuantity) {lot : TaxLot}
    (closed : ∃ record ∈ (matchSaleToLots order costBasisMethod lots transaction securityId).2,
      record.lotId = some lot.id) :
    ∃ part ∈ saleAllocations order costBasisMethod lots transaction securityId,
      part.1.id = lot.id := by
  obtain ⟨unmatched, records, ofNoLot, -, -⟩ :=
    matchSaleToLots_records order costBasisMethod lots securityId positive
  obtain ⟨record, isMem, named⟩ := closed
  rw [records, List.mem_append] at isMem
  rcases isMem with ofLot | notOfLot
  · obtain ⟨part, partMem, rfl⟩ := List.mem_map.mp ofLot
    exact ⟨part, partMem, Option.some.inj named⟩
  · rw [(ofNoLot record notOfLot).1] at named
    exact absurd named (by simp)

/-- What a sale takes from a lot is stored. -/
theorem sold_stored (positive : 0 < transaction.absQuantity) {part : TaxLot × ℚ}
    (isMem : part ∈ saleAllocations order costBasisMethod lots transaction securityId) :
    sellFromLot transaction (transaction.absAmount / transaction.absQuantity) part.1 part.2 ∈
      (matchSaleToLots order costBasisMethod lots transaction securityId).1.rows := by
  simp only [matchSaleToLots, not_le.mpr positive, if_false]
  apply Table.mem_saveAll
  · have ids : ((saleAllocations order costBasisMethod lots transaction securityId).map
        fun part => part.1.id).Nodup := ids_draw_nodup ids_lotsForSale_nodup
    rw [List.map_map]
    simpa [Function.comp_def, id_sellFromLot] using ids
  · intro row rowMem
    obtain ⟨other, otherMem, rfl⟩ := List.mem_map.mp rowMem
    rw [id_sellFromLot]
    exact List.mem_map_of_mem (sold_bounds otherMem).1
  · exact List.mem_map_of_mem isMem

/-- Every lot before one that a sale reaches is used up. -/
theorem usedUp_before (positive : 0 < transaction.absQuantity) {before rest : List TaxLot}
    {lot : TaxLot}
    (split : openLotsInOrder order costBasisMethod lots transaction securityId =
      before ++ lot :: rest)
    (closed : ∃ record ∈ (matchSaleToLots order costBasisMethod lots transaction securityId).2,
      record.lotId = some lot.id)
    {earlier : TaxLot} (isEarlier : earlier ∈ before) (hasUnits : 0 < earlier.remainingQuantity) :
    ∃ stored ∈ (matchSaleToLots order costBasisMethod lots transaction securityId).1.rows,
      stored.id = earlier.id ∧ stored.remainingQuantity = 0 ∧ ¬ stored.isOpen := by
  obtain ⟨part, partMem, sameId⟩ := exists_allocation positive closed
  have ids : ((openLotsInOrder order costBasisMethod lots transaction securityId).map
      TaxLot.id).Nodup := ids_openLotsInOrder_nodup
  have partOpen : part.1 ∈ openLotsInOrder order costBasisMethod lots transaction securityId :=
    (List.mem_filter.mp (mem_of_mem_draw partMem)).1
  have lotOpen : lot ∈ openLotsInOrder order costBasisMethod lots transaction securityId := by
    rw [split]
    simp
  have isLot : part.1 = lot := List.inj_on_of_nodup_map ids partOpen lotOpen sameId
  have lotUnits : 0 < lot.remainingQuantity := by
    rw [← isLot]
    exact (mem_lotsForSale (mem_of_mem_draw partMem)).2.2
  have sources : lotsForSale order costBasisMethod lots transaction securityId =
      (before.filter fun lot => 0 < lot.remainingQuantity) ++
        lot :: rest.filter fun lot => 0 < lot.remainingQuantity := by
    rw [lotsForSale_eq, split, List.filter_append]
    simp [lotUnits]
  have nonneg : ∀ other ∈ lotsForSale order costBasisMethod lots transaction securityId,
      0 ≤ other.remainingQuantity := fun other otherMem => (mem_lotsForSale otherMem).2.2.le
  have once : lot ∉ before.filter fun lot => 0 < lot.remainingQuantity := by
    intro again
    have nodup := List.Nodup.of_map _ ids
    rw [split] at nodup
    exact (List.nodup_append.mp nodup).2.2 lot (List.mem_filter.mp again).1 lot
      List.mem_cons_self rfl
  have reached : (lot, part.2) ∈ saleAllocations order costBasisMethod lots transaction
      securityId := by
    rw [← isLot]
    exact partMem
  rw [saleAllocations, sources] at reached
  rw [sources] at nonneg
  have whole := whole_of_reached nonneg (sum_before_lt_of_reached nonneg once reached)
    (List.mem_filter.mpr ⟨isEarlier, decide_eq_true hasUnits⟩)
  rw [← sources] at whole
  refine ⟨_, sold_stored positive whole, id_sellFromLot _ _ _, ?_, ?_⟩
  · simp [sellFromLot]
  · simp [sellFromLot, TaxLot.isOpen]

/-! ## The claim -/

theorem drawn_eq_min :
    drawn (saleAllocations order costBasisMethod lots transaction securityId) =
      min transaction.absQuantity
        (availableForSale order costBasisMethod lots transaction securityId) :=
  drawn_draw _ (fun _ lotMem => (mem_lotsForSale lotMem).2.2.le) transaction.absQuantity_nonneg

/-- The records account for the whole sale, once, unless it exceeds open lots that hold
something. -/
theorem accounted_iff (positive : 0 < transaction.absQuantity) :
    soldQuantity (matchSaleToLots order costBasisMethod lots transaction securityId).2 +
        unmatchedQuantity (matchSaleToLots order costBasisMethod lots transaction securityId).2 =
      transaction.absQuantity ↔
    transaction.absQuantity ≤
        availableForSale order costBasisMethod lots transaction securityId ∨
      availableForSale order costBasisMethod lots transaction securityId = 0 := by
  rw [matchSaleToLots_soldQuantity positive, matchSaleToLots_unmatchedQuantity positive,
    drawn_eq_min]
  rcases le_or_gt transaction.absQuantity
    (availableForSale order costBasisMethod lots transaction securityId) with covered | oversold
  · simp [covered]
  · rw [min_eq_right oversold.le, if_pos oversold, if_pos oversold, or_iff_right oversold.not_ge]
    constructor
    · intro accounted
      linarith
    · intro nothing
      rw [nothing]
      ring

theorem processTransaction_reported (isSale : transaction.transactionType = .sale)
    (security : transaction.securityId = some securityId) (pairedTransfer : Option Transaction)
    {lotsClosed : Nat} {totalQuantityMatched totalRealizedPl : ℚ}
    (reported : Action.lotsMatched lotsClosed totalQuantityMatched totalRealizedPl ∈
      (processTransaction order costBasisMethod pairedTransfer lots transaction).2) :
    totalQuantityMatched =
      soldQuantity (matchSaleToLots order costBasisMethod lots transaction securityId).2 := by
  simp only [processTransaction, isSale, security, processSale] at reported
  split at reported
  · rw [List.mem_singleton, Action.lotsMatched.injEq] at reported
    exact reported.2.1
  · rw [List.mem_cons, List.mem_singleton, Action.lotsMatched.injEq] at reported
    rcases reported with first | other
    · exact first.2.1
    · exact absurd other (by simp)

theorem lotsMatched_mem (order : AcquisitionOrder) (costBasisMethod : CostBasisMethod)
    (lots : LotTable) (isSale : transaction.transactionType = .sale)
    (security : transaction.securityId = some securityId) (pairedTransfer : Option Transaction) :
    ∃ lotsClosed totalRealizedPl,
      Action.lotsMatched lotsClosed
          (soldQuantity (matchSaleToLots order costBasisMethod lots transaction securityId).2)
          totalRealizedPl ∈
        (processTransaction order costBasisMethod pairedTransfer lots transaction).2 := by
  refine ⟨(matchSaleToLots order costBasisMethod lots transaction securityId).2.length,
    ((matchSaleToLots order costBasisMethod lots transaction securityId).2.map
      ClosureRecord.realizedPl).sum, ?_⟩
  simp only [processTransaction, isSale, security, processSale]
  split
  · exact List.mem_singleton.mpr rfl
  · exact List.mem_cons_self

/-- A sale is matched exactly if the open lots cover it or hold nothing. -/
theorem matchedExactly_iff (order : AcquisitionOrder) (costBasisMethod : CostBasisMethod)
    (lots : LotTable) (transaction : Transaction) (securityId : Uuid)
    (isSale : transaction.transactionType = .sale)
    (security : transaction.securityId = some securityId)
    (positive : 0 < transaction.absQuantity) :
    MatchedExactly order costBasisMethod lots transaction securityId ↔
      transaction.absQuantity ≤
          availableForSale order costBasisMethod lots transaction securityId ∨
        availableForSale order costBasisMethod lots transaction securityId = 0 := by
  constructor
  · intro matched
    exact (accounted_iff positive).mp matched.accounted
  · intro coveredOrNone
    have accounted := (accounted_iff positive).mpr coveredOrNone
    refine
      { byAcquisition := openLotsInOrder_byAcquisition
        inOrder := fun before lot rest split closed earlier isEarlier hasUnits =>
          usedUp_before positive split closed isEarlier hasUnits
        accounted
        proceeds := matchSaleToLots_proceeds positive
        reported := ?_ }
    intro pairedTransfer lotsClosed totalQuantityMatched totalRealizedPl isReported
    rw [processTransaction_reported isSale security pairedTransfer isReported]
    have unmatchedNonneg : 0 ≤ unmatchedQuantity
        (matchSaleToLots order costBasisMethod lots transaction securityId).2 := by
      rw [matchSaleToLots_unmatchedQuantity positive]
      split
      · next short => exact (sub_pos.mpr short).le
      · exact le_rfl
    linarith

end Sale

/-- A lot of 8 units. -/
def eightUnits : LotTable :=
  (createTaxLotsForPurchase .empty
    { id := 1, accountId := 1, securityId := some 1, transactionType := .purchase
      amount := ⟨-800, 0⟩, currencyCode := "EUR", quantity := some ⟨8, 0⟩
      occurredAt := Instant.days 1 } 1).1

def saleOf (units : Int) : Transaction :=
  { id := 2, accountId := 1, securityId := some 1, transactionType := .sale
    amount := ⟨units * 100, 0⟩, currencyCode := "EUR", quantity := some ⟨units, 0⟩
    occurredAt := Instant.days 2 }

/-- Eight of them are sold. -/
theorem matchedExactly_saleOf_eight :
    MatchedExactly (.stable _) .fifo eightUnits (saleOf 8) 1 ↔
      (saleOf 8).absQuantity ≤
          availableForSale (.stable _) .fifo eightUnits (saleOf 8) 1 ∨
        availableForSale (.stable _) .fifo eightUnits (saleOf 8) 1 = 0 :=
  matchedExactly_iff (.stable _) .fifo eightUnits (saleOf 8) 1 rfl rfl (by decide +kernel)

/-- A sale of ten units from them reports sixteen as matched. -/
theorem not_matchedExactly_saleOf_ten :
    ¬ MatchedExactly (.stable _) .fifo eightUnits (saleOf 10) 1 := by
  intro matched
  obtain ⟨lotsClosed, totalRealizedPl, reported⟩ :=
    lotsMatched_mem (.stable _) .fifo eightUnits
      (show (saleOf 10).transactionType = .sale from rfl)
      (show (saleOf 10).securityId = some 1 from rfl) none
  have sixteen : soldQuantity
      (matchSaleToLots (.stable _) .fifo eightUnits (saleOf 10) 1).2 = 16 := by
    decide +kernel
  have bound := matched.reported none _ _ _ reported
  rw [sixteen] at bound
  exact absurd bound (by decide +kernel)

end FinanceSync.TaxLots
