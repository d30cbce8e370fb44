import FinanceSync.TaxLots.AccountingIdentity

/-!
# The two totals of realised P&L

A rebuild reports a total of realised P&L, summed over the closures of all sales,
and the summary of the resulting lots reports another one, summed over the
closed lots.  A lot remembers only the closure that uses it up, so the totals
drift apart by the P&L of every sale that ends inside a lot.
-/

namespace FinanceSync.TaxLots

open Lib

/-- What a lot adds to the realised P&L of the summary. -/
def closedPl (lot : TaxLot) : ℚ := if lot.isOpen then 0 else lot.realizedPl.getD 0

theorem summary_totalRealizedPl (lots : LotTable) :
    (getTaxLotSummary lots true none none).totalRealizedPl = lots.sum closedPl := by
  simp only [getTaxLotSummary, true_or, and_self, decide_true, List.filter_true, if_true,
    Table.sum]
  induction lots.rows with
  | nil => rfl
  | cons lot rest ih =>
      cases isOpen : lot.isOpen <;> simp [isOpen, closedPl, ih]

/-- The totals agree: what the statistics and the summary report is the same. -/
def TotalsAgree (state : Rebuild) : Prop :=
  state.stats.totalRealizedPl = (getTaxLotSummary state.lots true none none).totalRealizedPl

instance (state : Rebuild) : Decidable (TotalsAgree state) := inferInstanceAs (Decidable (_ = _))

/-! ## Open lots have realised nothing -/

/-- A sound lot that remembers a result only if it is closed. -/
def UnrealizedWhileOpen (lot : TaxLot) : Prop :=
  SoundLot lot ∧ (lot.isOpen → lot.realizedPl = none)

theorem unrealizedWhileOpen_closed (transaction : Transaction) :
    LotClosed transaction UnrealizedWhileOpen where
  totalNonneg := fun holds => holds.1.totalNonneg
  purchased := fun id securityId _ => ⟨purchasedLot_sound id transaction securityId, fun _ => rfl⟩
  sold := by
    intro lot qtySold proceedsPerUnit holds isOpen positive available
    refine ⟨holds.1.sellFromLot isOpen transaction proceedsPerUnit positive.le available, ?_⟩
    by_cases usedUp : lot.remainingQuantity - qtySold = 0
    · simp [sellFromLot, usedUp, TaxLot.isOpen]
    · simpa [sellFromLot, usedUp] using fun _ => holds.2 isOpen
  adjusted := fun holds _ nonneg => ⟨holds.1.adjustReplacement nonneg, holds.2⟩
  rescaled := fun holds _ positive => ⟨holds.1.rescaleLot positive, holds.2⟩
  moved := by
    intro lot movedQuantity holds isOpen positive available
    refine ⟨holds.1.moveFromLot isOpen transaction positive.le available, fun _ => ?_⟩
    unfold moveFromLot
    dsimp only
    split <;> exact holds.2 isOpen
  received := fun id destination securityId holds _ positive available =>
    ⟨holds.1.receivedLot id destination securityId positive available, fun _ => rfl⟩

/-! ## Sales that end inside a lot -/

/-- The P&L of the units a sale takes from the lot in which it ends, if it does
not use that lot up. -/
def straddledPl (proceedsPerUnit : ℚ) : ℚ → List TaxLot → ℚ
  | _, [] => 0
  | toSell, lot :: rest =>
      if toSell ≤ 0 then 0
      else if toSell < lot.remainingQuantity then
        toSell * proceedsPerUnit - toSell * lot.costBasisPerUnit
      else straddledPl proceedsPerUnit (toSell - lot.remainingQuantity) rest

/-- `straddledPl` of a transaction: only a sale with a quantity has any. -/
def straddledBySale (order : AcquisitionOrder) (costBasisMethod : CostBasisMethod)
    (lots : LotTable) (transaction : Transaction) : ℚ :=
  match transaction.transactionType, transaction.securityId with
  | .sale, some securityId =>
      straddledPl (transaction.absAmount / transaction.absQuantity) transaction.absQuantity
        (lotsForSale order costBasisMethod lots transaction securityId)
  | _, _ => 0

/-- If a sale ends inside a lot, it sells at the cost of that lot. -/
def SplitLotAtCost (order : AcquisitionOrder) (costBasisMethod : CostBasisMethod)
    (lots : LotTable) (transaction : Transaction) : Prop :=
  transaction.transactionType = .sale → ∀ securityId ∈ transaction.securityId,
    ∀ before lot after,
      lotsForSale order costBasisMethod lots transaction securityId = before ++ lot :: after →
      (before.map TaxLot.remainingQuantity).sum < transaction.absQuantity →
      transaction.absQuantity <
        (before.map TaxLot.remainingQuantity).sum + lot.remainingQuantity →
      transaction.absAmount / transaction.absQuantity = lot.costBasisPerUnit

/-- A sale leaves no P&L in an open lot exactly if the lot it ends in was sold
at cost. -/
theorem straddledPl_eq_zero_iff (proceedsPerUnit : ℚ) (sources : List TaxLot)
    (positive : ∀ lot ∈ sources, 0 < lot.remainingQuantity) :
    ∀ toSell : ℚ, straddledPl proceedsPerUnit toSell sources = 0 ↔
      ∀ before lot after, sources = before ++ lot :: after →
        (before.map TaxLot.remainingQuantity).sum < toSell →
        toSell < (before.map TaxLot.remainingQuantity).sum + lot.remainingQuantity →
        proceedsPerUnit = lot.costBasisPerUnit := by
  induction sources with
  | nil => intro toSell; simp [straddledPl]
  | cons lot rest ih =>
      intro toSell
      have lotPos := positive lot List.mem_cons_self
      have restPos : ∀ other ∈ rest, 0 < other.remainingQuantity :=
        fun other otherMem => positive other (List.mem_cons_of_mem _ otherMem)
      have beforeNonneg : ∀ before after, rest = before ++ after →
          0 ≤ (before.map TaxLot.remainingQuantity).sum := fun before after split =>
        sum_offers_nonneg fun other otherMem =>
          (restPos other (by rw [split]; exact List.mem_append_left _ otherMem)).le
      by_cases nothing : toSell ≤ 0
      · refine iff_of_true (by simp [straddledPl, nothing]) ?_
        intro before other after split reached
        have : 0 ≤ (before.map TaxLot.remainingQuantity).sum :=
          sum_offers_nonneg fun lot lotMem =>
            (positive lot (by rw [split]; exact List.mem_append_left _ lotMem)).le
        linarith
      · have needed := not_le.mp nothing
        by_cases inside : toSell < lot.remainingQuantity
        · simp only [straddledPl, nothing, inside, if_false, if_true, ← mul_sub]
          rw [mul_eq_zero, or_iff_right needed.ne', sub_eq_zero]
          constructor
          · intro atCost before other after split reached ends
            cases before with
            | nil =>
                rw [List.nil_append, List.cons.injEq] at split
                rw [atCost, split.1]
            | cons first before =>
                rw [List.cons_append, List.cons.injEq] at split
                have := beforeNonneg before _ split.2
                rw [List.map_cons, List.sum_cons, ← split.1] at reached
                linarith
          · intro atCost
            exact atCost [] lot rest rfl (by simpa using needed) (by simpa using inside)
        · simp only [straddledPl, nothing, inside, if_false]
          rw [ih restPos]
          constructor
          · intro atCost before other after split reached ends
            cases before with
            | nil =>
                rw [List.nil_append, List.cons.injEq] at split
                rw [List.map_nil, List.sum_nil, zero_add, ← split.1] at ends
                exact absurd ends inside
            | cons first before =>
                rw [List.cons_append, List.cons.injEq] at split
                rw [List.map_cons, List.sum_cons, ← split.1] at reached ends
                exact atCost before other after split.2 (by linarith) (by linarith)
          · intro atCost before other after split reached ends
            refine atCost (lot :: before) other after (by rw [split, List.cons_append]) ?_ ?_
            · rw [List.map_cons, List.sum_cons]
              linarith
            · rw [List.map_cons, List.sum_cons]
              linarith

section Step

variable {order : AcquisitionOrder} {costBasisMethod : CostBasisMethod} {lots : LotTable}
  {transaction : Transaction}

theorem straddledBySale_eq_zero_iff (order : AcquisitionOrder)
    (costBasisMethod : CostBasisMethod) (lots : LotTable) (transaction : Transaction) :
    straddledBySale order costBasisMethod lots transaction = 0 ↔
      SplitLotAtCost order costBasisMethod lots transaction := by
  unfold straddledBySale SplitLotAtCost
  split
  · rename_i securityId isSale security
    rw [straddledPl_eq_zero_iff _ _ fun lot lotMem => (mem_lotsForSale lotMem).2.2]
    simp [isSale, security]
  · rename_i notSale
    refine iff_of_true rfl ?_
    intro isSale securityId security
    exact absurd security (notSale securityId isSale)

/-! ## The operations -/

theorem closedPl_sellFromLot {lot : TaxLot} (isOpen : lot.isOpen) (proceedsPerUnit qtySold : ℚ) :
    closedPl (sellFromLot transaction proceedsPerUnit lot qtySold) =
      if lot.remainingQuantity - qtySold = 0 then
        qtySold * proceedsPerUnit - qtySold * lot.costBasisPerUnit
      else 0 := by
  by_cases usedUp : lot.remainingQuantity - qtySold = 0
  · simp [sellFromLot, usedUp, closedPl, TaxLot.isOpen]
  · have stillOpen : (sellFromLot transaction proceedsPerUnit lot qtySold).isOpen := by
      simpa [sellFromLot, usedUp, TaxLot.isOpen] using isOpen
    simp [closedPl, stillOpen, usedUp]

/-- A draw closes every lot it uses up; the P&L of the others is straddled. -/
private theorem sum_closed_draw (proceedsPerUnit : ℚ) (sources : List TaxLot)
    (positive : ∀ lot ∈ sources, 0 < lot.remainingQuantity) :
    ∀ toSell : ℚ,
      ((draw TaxLot.remainingQuantity toSell sources).map fun part =>
        if part.1.remainingQuantity - part.2 = 0 then
          part.2 * proceedsPerUnit - part.2 * part.1.costBasisPerUnit
        else 0).sum =
      ((draw TaxLot.remainingQuantity toSell sources).map fun part =>
        part.2 * proceedsPerUnit - part.2 * part.1.costBasisPerUnit).sum -
        straddledPl proceedsPerUnit toSell sources := by
  induction sources with
  | nil => intro toSell; simp [straddledPl]
  | cons lot rest ih =>
      intro toSell
      have lotPos := positive lot List.mem_cons_self
      have restPos : ∀ other ∈ rest, 0 < other.remainingQuantity :=
        fun other otherMem => positive other (List.mem_cons_of_mem _ otherMem)
      by_cases nothing : toSell ≤ 0
      · simp [draw_of_nonpos _ nothing, straddledPl, nothing]
      · have needed := not_le.mp nothing
        rw [draw_cons_of_pos _ needed, List.map_cons, List.sum_cons, List.map_cons, List.sum_cons,
          ih restPos]
        by_cases inside : toSell < lot.remainingQuantity
        · have stays : lot.remainingQuantity - toSell ≠ 0 := (sub_pos.mpr inside).ne'
          have noRest : straddledPl proceedsPerUnit 0 rest = 0 := by
            cases rest <;> simp [straddledPl]
          simp only [min_eq_left inside.le, stays, if_false, straddledPl, nothing, inside,
            if_true, sub_self, noRest]
          ring
        · have whole := not_lt.mp inside
          simp only [min_eq_right whole, sub_self, if_true, straddledPl, nothing, inside,
            if_false]
          ring

theorem matchSaleToLots_closedPl (order : AcquisitionOrder) (costBasisMethod : CostBasisMethod)
    (lots : LotTable) (transaction : Transaction) (securityId : Uuid) :
    (matchSaleToLots order costBasisMethod lots transaction securityId).1.sum closedPl =
      lots.sum closedPl +
        (((matchSaleToLots order costBasisMethod lots transaction securityId).2.map
          ClosureRecord.realizedPl).sum -
        straddledPl (transaction.absAmount / transaction.absQuantity) transaction.absQuantity
          (lotsForSale order costBasisMethod lots transaction securityId)) := by
  by_cases noQuantity : transaction.absQuantity ≤ 0
  · have nothing : straddledPl (transaction.absAmount / transaction.absQuantity)
        transaction.absQuantity
        (lotsForSale order costBasisMethod lots transaction securityId) = 0 := by
      cases lotsForSale order costBasisMethod lots transaction securityId <;>
        simp [straddledPl, noQuantity]
    simp [matchSaleToLots, noQuantity, nothing]
  · have positive : ∀ lot ∈ lotsForSale order costBasisMethod lots transaction securityId,
        0 < lot.remainingQuantity := fun lot lotMem => (mem_lotsForSale lotMem).2.2
    have closedAfter := sum_saveAll_updates lots closedPl
      (sellFromLot transaction (transaction.absAmount / transaction.absQuantity))
      (id_sellFromLot _)
      (saleAllocations order costBasisMethod lots transaction securityId)
      (fun allocation isMem => (sold_bounds isMem).1)
      (ids_draw_nodup ids_lotsForSale_nodup)
    have closedOnly : ((saleAllocations order costBasisMethod lots transaction securityId).map
        fun part => closedPl (sellFromLot transaction
            (transaction.absAmount / transaction.absQuantity) part.1 part.2) -
          closedPl part.1) =
        (saleAllocations order costBasisMethod lots transaction securityId).map fun part =>
          if part.1.remainingQuantity - part.2 = 0 then
            part.2 * (transaction.absAmount / transaction.absQuantity) -
              part.2 * part.1.costBasisPerUnit
          else 0 := by
      refine List.map_congr_left fun part isMem => ?_
      have isOpen := (sold_bounds isMem).2.1
      have openPl : closedPl part.1 = 0 := if_pos isOpen
      rw [closedPl_sellFromLot isOpen, openPl, sub_zero]
    rw [closedOnly, saleAllocations, sum_closed_draw _ _ positive] at closedAfter
    rw [matchSaleToLots_realized _ _ _ _ (not_le.mp noQuantity)]
    simp only [matchSaleToLots, noQuantity, if_false]
    exact closedAfter

theorem sum_closedPl_saveAll_eq (lots : LotTable) (update : TaxLot → ℚ → TaxLot)
    (sameId : ∀ lot amount, (update lot amount).id = lot.id)
    (samePl : ∀ lot amount, closedPl (update lot amount) = closedPl lot)
    (allocations : List (TaxLot × ℚ))
    (stored : ∀ allocation ∈ allocations, allocation.1 ∈ lots.rows)
    (nodup : (allocations.map fun allocation => allocation.1.id).Nodup) :
    (lots.saveAll (allocations.map fun part => update part.1 part.2)).sum closedPl =
      lots.sum closedPl := by
  rw [sum_saveAll_updates lots closedPl update sameId allocations stored nodup]
  simp [samePl]

theorem detectAndAdjustWashSales_closedPl (order : AcquisitionOrder) (transaction : Transaction)
    (securityId : Uuid) (sound : ∀ lot ∈ lots.rows, UnrealizedWhileOpen lot) :
    (detectAndAdjustWashSales order lots transaction securityId).1.sum closedPl =
      lots.sum closedPl := by
  unfold detectAndAdjustWashSales
  by_cases noQuantity : transaction.absQuantity ≤ 0
  · simp [noQuantity]
  · simp only [noQuantity, if_false]
    have totalNonneg : ∀ lot ∈ lots.rows, 0 ≤ lot.costBasisTotal :=
      fun lot lotMem => (sound lot lotMem).1.totalNonneg
    exact sum_closedPl_saveAll_eq lots adjustReplacement (fun _ _ => rfl) (fun _ _ => rfl) _
      (fun allocation isMem => (disallowed_bounds totalNonneg isMem).1)
      (ids_draw_nodup ids_replacementLots_nodup)

/-- Quantity events and transfers leave the realised P&L of the lots as it is. -/
theorem closedPl_passedOn : PassedOn transaction UnrealizedWhileOpen closedPl where
  rescaled := fun _ => rfl
  moved := by
    intro lot movedQuantity id destination securityId unrealized isOpen
    have noPl := unrealized.2 isOpen
    have sourcePl : closedPl lot = 0 := if_pos isOpen
    have movedPl : closedPl (moveFromLot transaction lot movedQuantity) = 0 := by
      unfold moveFromLot closedPl
      dsimp only
      split <;> simp [noPl]
    have receivedPl : closedPl (receivedLot id destination securityId lot movedQuantity) = 0 :=
      rfl
    rw [sourcePl, movedPl, receivedPl, add_zero]

/-- What one transaction adds to the reported P&L and to the summary differs by
the P&L it leaves in the lot a sale ends in. -/
theorem processTransaction_closedPl (order : AcquisitionOrder)
    (costBasisMethod : CostBasisMethod) (transaction : Transaction)
    (unrealized : ∀ lot ∈ lots.rows, UnrealizedWhileOpen lot)
    (pairedTransfer : Option Transaction) :
    realizedReported
        (processTransaction order costBasisMethod pairedTransfer lots transaction).2 -
      (processTransaction order costBasisMethod pairedTransfer lots transaction).1.sum closedPl =
      straddledBySale order costBasisMethod lots transaction - lots.sum closedPl := by
  have outcome := processTransaction_processed order costBasisMethod pairedTransfer lots transaction
  generalize processTransaction order costBasisMethod pairedTransfer lots transaction =
    processed at outcome
  cases outcome with
  | purchase securityId isPurchase _ =>
      have opened : (createTaxLotsForPurchase lots transaction securityId).1.sum closedPl =
          lots.sum closedPl := (Table.sum_insert lots _ rfl closedPl).trans (add_zero _)
      rw [opened]
      simp [realizedReported, Action.realized, straddledBySale, isPurchase]
  | sale securityId isSale security =>
      have matched := matchSaleToLots_closedPl order costBasisMethod lots transaction securityId
      have washed := detectAndAdjustWashSales_closedPl order transaction securityId
        (matchSaleToLots_forall order costBasisMethod securityId
          (unrealizedWhileOpen_closed transaction) unrealized)
      rw [processSale_realized]
      simp only [straddledBySale, isSale, security]
      change _ - (detectAndAdjustWashSales order
        (matchSaleToLots order costBasisMethod lots transaction securityId).1 transaction
        securityId).1.sum closedPl = _
      rw [washed, matched]
      ring
  | transfer destination securityId destinationSecurityId isTransfer =>
      rw [(reported_of_silent (transferLotsToDestination_silent ..)).1,
        sum_transferLotsToDestination closedPl_passedOn unrealized]
      simp [straddledBySale, isTransfer]
  | quantityEvent notPurchase notSale =>
      rw [(reported_of_silent (processQuantityEvent_silent ..)).1,
        sum_processQuantityEvent closedPl_passedOn]
      simp [straddledBySale, notSale]
  | nothing _ notSale =>
      have noStraddle : straddledBySale order costBasisMethod lots transaction = 0 := by
        unfold straddledBySale
        split
        · rename_i isSale security
          rw [notSale isSale] at security
          contradiction
        · rfl
      simp [realizedReported, noStraddle]

end Step

/-! ## The rebuild -/

theorem totalRealizedPl_count (actions : List Action) :
    ∀ stats : Stats, (actions.foldl Stats.count stats).totalRealizedPl =
      stats.totalRealizedPl + realizedReported actions := by
  induction actions with
  | nil => intro stats; simp [realizedReported]
  | cons action rest ih =>
      intro stats
      rw [List.foldl_cons, ih]
      cases action <;> simp [Stats.count, realizedReported, Action.realized, add_assoc]

section Rebuild

variable {order : AcquisitionOrder} {costBasisMethod : CostBasisMethod}
  {stored : List Transaction}

/-- By how much the two totals differ. -/
def totalsGap (state : Rebuild) : ℚ :=
  state.stats.totalRealizedPl - state.lots.sum closedPl

theorem totalsAgree_iff (state : Rebuild) : TotalsAgree state ↔ totalsGap state = 0 := by
  rw [TotalsAgree, summary_totalRealizedPl, totalsGap, sub_eq_zero]

def UnrealizedRebuild (state : Rebuild) : Prop :=
  ∀ lot ∈ state.lots.rows, UnrealizedWhileOpen lot

theorem replayStep_unrealized (state : Rebuild) (transaction : Transaction)
    (unrealized : UnrealizedRebuild state) (_ : True) :
    UnrealizedRebuild (replayStep order costBasisMethod stored state transaction) :=
  processTransaction_forall (unrealizedWhileOpen_closed transaction) _ unrealized

theorem replayStep_totalsGap (state : Rebuild) (transaction : Transaction)
    (unrealized : UnrealizedRebuild state) (_ : True) :
    totalsGap (replayStep order costBasisMethod stored state transaction) =
      totalsGap state + straddledBySale order costBasisMethod state.lots transaction := by
  have step := processTransaction_closedPl order costBasisMethod transaction unrealized
    ((pairSecurityTransferLegs (replayedTransactions stored)).lookup transaction.id)
  simp only [totalsGap, replayStep, rebuildStep, totalRealizedPl_count]
  linarith

/-- The totals agree after every transaction of a rebuild exactly if each sale
that ends inside a lot sells at the cost of that lot, and after the last one
exactly if the P&L left in lots by such sales adds up to zero. -/
theorem totalsAgree_rebuild_iff (order : AcquisitionOrder) (costBasisMethod : CostBasisMethod)
    (stored : List Transaction) :
    ((∀ before after, replayedTransactions stored = before ++ after →
        TotalsAgree (runAll (replayStep order costBasisMethod stored) emptyRebuild before)) ↔
      Along (replayStep order costBasisMethod stored)
        (fun state transaction => SplitLotAtCost order costBasisMethod state.lots transaction)
        emptyRebuild (replayedTransactions stored)) ∧
    (TotalsAgree (computeAllTaxLots order costBasisMethod stored) ↔
      totalCost (replayStep order costBasisMethod stored)
        (fun state transaction => straddledBySale order costBasisMethod state.lots transaction)
        emptyRebuild (replayedTransactions stored) = 0) := by
  have unrealizedStart : UnrealizedRebuild emptyRebuild := by
    simp [UnrealizedRebuild, emptyRebuild]
  have anyStep : Along (replayStep order costBasisMethod stored) (fun _ _ => True) emptyRebuild
      (replayedTransactions stored) := along_of_forall _ fun _ _ => trivial
  have gapStart : totalsGap emptyRebuild = 0 := by
    simp [totalsGap, emptyRebuild]
  have everyPrefix := runAll_measure_constant_iff replayStep_unrealized replayStep_totalsGap
    (replayedTransactions stored) unrealizedStart anyStep
  have whole := runAll_measure replayStep_unrealized replayStep_totalsGap
    (replayedTransactions stored) unrealizedStart anyStep
  rw [gapStart, zero_add] at whole
  constructor
  · simp only [totalsAgree_iff, ← straddledBySale_eq_zero_iff]
    rw [gapStart] at everyPrefix
    exact everyPrefix
  · rw [totalsAgree_iff, computeAllTaxLots, whole]

end Rebuild

/-- A purchase of 10 units for 1000 and a later sale of 5 units for 600. -/
def purchaseAndPartialSale : List Transaction :=
  [ { id := 1, accountId := 1, securityId := some 1, transactionType := .purchase
      amount := ⟨-1000, 0⟩, currencyCode := "EUR", quantity := some ⟨10, 0⟩
      occurredAt := Instant.days 1 },
    { id := 2, accountId := 1, securityId := some 1, transactionType := .sale
      amount := ⟨600, 0⟩, currencyCode := "EUR", quantity := some ⟨5, 0⟩
      occurredAt := Instant.days 2 } ]

/-- The statistics report a profit of 100, the summary none. -/
theorem totals_differ_of_partial_sale :
    ¬ TotalsAgree (computeAllTaxLots (.stable _) .fifo purchaseAndPartialSale) := by
  decide +kernel

end FinanceSync.TaxLots
