import FinanceSync.TaxLots.CarriedBasis
import FinanceSync.TaxLots.Origins
import FinanceSync.TaxLots.TransferPairs

/-!
# The quantity invariant

Lots are written by `process_transaction` only.  After any sequence of its calls
the quantities and the basis of every lot agree with each other, and a transfer
between two paired legs moves its whole quantity with its basis, once, or
nothing at all.
-/

namespace FinanceSync.TaxLots

open Lib

/-! ## Calls -/

/-- A call of `process_transaction`, with the order in which the database
returns lots acquired at one instant. -/
structure Call where
  order : AcquisitionOrder
  costBasisMethod : CostBasisMethod
  pairedTransfer : Option Transaction
  transaction : Transaction

/-- The table after one call. -/
def processCall (lots : LotTable) (call : Call) : LotTable :=
  (processTransaction call.order call.costBasisMethod call.pairedTransfer lots
    call.transaction).1

/-- The table after a sequence of calls. -/
def processCalls (calls : List Call) : LotTable := runAll processCall .empty calls

/-- Two legs of one security transfer, seen from one of them. -/
structure PairedLegs where
  source : Transaction
  destination : Transaction
  securityId : Uuid
  isTransfer : source.transactionType = .transfer
  sourceSecurity : source.securityId = some securityId
  destinationSecurity : destination.securityId = some securityId
  accounts : source.accountId ≠ destination.accountId

/-- The call that processes a leg with the other leg at hand. -/
def PairedLegs.call (legs : PairedLegs) (order : AcquisitionOrder)
    (costBasisMethod : CostBasisMethod) : Call where
  order
  costBasisMethod
  pairedTransfer := some legs.destination
  transaction := legs.source

theorem processCall_legs (legs : PairedLegs) (order : AcquisitionOrder)
    (costBasisMethod : CostBasisMethod) (lots : LotTable) :
    processCall lots (legs.call order costBasisMethod) =
      (transferLotsToDestination order lots legs.source legs.destination legs.securityId
        legs.securityId).1 := by
  simp [processCall, PairedLegs.call, processTransaction, legs.isTransfer, legs.sourceSecurity,
    legs.destinationSecurity]

/-! ## Pairs found by the engine -/

section Pairs

variable {transactions : List Transaction}

theorem transferKey_facts {transaction : Transaction} {key : TransferKey}
    (hasKey : transferKey transaction = some key) :
    transaction.transactionType = .transfer ∧ transaction.securityId = some key.securityId := by
  unfold transferKey at hasKey
  split at hasKey
  · contradiction
  · rename_i isTransfer
    split at hasKey
    · rename_i securityId _ _ hasSecurity _ _
      split at hasKey
      · contradiction
      · cases hasKey
        exact ⟨not_not.mp isTransfer, hasSecurity⟩
    · contradiction

/-- Legs of one class are transfers of one security. -/
theorem exists_pairedLegs {leg other : Transaction} (cross : CrossLegs leg other) :
    (∃ legs : PairedLegs, legs.source = leg ∧ legs.destination = other) ∧
      ∃ legs : PairedLegs, legs.source = other ∧ legs.destination = leg := by
  obtain ⟨key, hasKey⟩ := transferKey_isSome_of_legClass cross.isLeg
  obtain ⟨otherKey, otherHasKey⟩ :=
    transferKey_isSome_of_legClass (cross.sameClass ▸ cross.isLeg)
  have sameSecurity : key.securityId = otherKey.securityId := by
    have same := cross.sameClass
    rw [legClass, legClass, hasKey, otherHasKey, Option.map_some, Option.map_some,
      Option.some.injEq] at same
    exact congrArg LegClass.securityId same
  have first := transferKey_facts hasKey
  have second := transferKey_facts otherHasKey
  rw [← sameSecurity] at second
  exact ⟨⟨⟨leg, other, key.securityId, first.1, first.2, second.2, cross.accounts⟩, rfl, rfl⟩,
    ⟨⟨other, leg, key.securityId, second.1, second.2, first.2, cross.accounts.symm⟩, rfl, rfl⟩⟩

/-- What the engine passes as the paired transfer of a stored transaction is the
other leg of its transfer. -/
theorem pairSecurityTransferLegs_legs (ids : (transactions.map Transaction.id).Nodup)
    {leg other : Transaction} (stored : leg ∈ transactions)
    (paired : (pairSecurityTransferLegs transactions).lookup leg.id = some other) :
    ∃ legs : PairedLegs, legs.source = leg ∧ legs.destination = other := by
  obtain ⟨found, foundMem, sameId, -, cross, -⟩ := (pairsLegs ids).legs paired
  have isLeg := eq_of_id ids foundMem stored sameId
  rw [isLeg] at cross
  rcases cross with forth | back
  · exact (exists_pairedLegs forth).1
  · exact (exists_pairedLegs back).2

end Pairs

/-! ## What accounts hold -/

/-- A measure of the lots of one security in some accounts. -/
def heldIn (lots : LotTable) (accountIds : List Uuid) (securityId : Uuid)
    (measure : TaxLot → ℚ) : ℚ :=
  lots.sum fun lot =>
    if lot.accountId ∈ accountIds ∧ lot.securityId = securityId then measure lot else 0

/-- What the open lots of one security in an account still hold. -/
def openQuantity (lots : LotTable) (accountId securityId : Uuid) : ℚ :=
  lots.sum fun lot =>
    if lot.accountId = accountId ∧ lot.securityId = securityId ∧ lot.isOpen then
      lot.remainingQuantity
    else 0

/-- A measure of lots that a moved part takes along at a rate of the lot. -/
structure MovesAlong (measure rate : TaxLot → ℚ) : Prop where
  left : ∀ (transaction : Transaction) (lot : TaxLot) (movedQuantity : ℚ),
    measure (moveFromLot transaction lot movedQuantity) =
      measure lot - movedQuantity * rate lot
  arrived : ∀ (id : Uuid) (destination : Transaction) (securityId : Uuid) (lot : TaxLot)
    (movedQuantity : ℚ),
    measure (receivedLot id destination securityId lot movedQuantity) =
      movedQuantity * rate lot

theorem movesAlong_remainingQuantity : MovesAlong TaxLot.remainingQuantity fun _ => 1 where
  left := by
    intro transaction lot movedQuantity
    unfold moveFromLot
    dsimp only
    split <;> simp
  arrived := by simp [receivedLot]

theorem movesAlong_carriedBasis : MovesAlong TaxLot.carriedBasis TaxLot.costBasisPerUnit where
  left := by
    intro transaction lot movedQuantity
    unfold moveFromLot TaxLot.carriedBasis
    dsimp only
    split <;> exact sub_mul _ _ _
  arrived := fun _ _ _ _ _ => rfl

section Transfer

variable {order : AcquisitionOrder} {lots : LotTable} {transaction destination : Transaction}
  {securityId destinationSecurityId : Uuid} {measure rate : TaxLot → ℚ}

@[simp] theorem accountId_receivedLot (id : Uuid) (lot : TaxLot) (movedQuantity : ℚ) :
    (receivedLot id destination securityId lot movedQuantity).accountId =
      destination.accountId := rfl

@[simp] theorem securityId_receivedLot (id : Uuid) (lot : TaxLot) (movedQuantity : ℚ) :
    (receivedLot id destination securityId lot movedQuantity).securityId = securityId := rfl

/-- Where the moved lots are: the source account before, the destination after. -/
theorem heldIn_moveLots (moves : MovesAlong measure rate) (accountIds : List Uuid)
    (held : Uuid) (allocations : List (TaxLot × ℚ)) :
    ∀ {lots : LotTable}, Allocated lots allocations →
      (∀ allocation ∈ allocations, allocation.1.accountId = transaction.accountId ∧
        allocation.1.securityId = securityId) →
      heldIn (allocations.foldl (moveLot transaction destination destinationSecurityId) lots)
          accountIds held measure =
        heldIn lots accountIds held measure +
          (if destination.accountId ∈ accountIds ∧ destinationSecurityId = held then
            (allocations.map fun part => part.2 * rate part.1).sum else 0) -
          (if transaction.accountId ∈ accountIds ∧ securityId = held then
            (allocations.map fun part => part.2 * rate part.1).sum else 0) := by
  induction allocations with
  | nil => intro lots _ _; simp
  | cons allocation rest ih =>
      intro lots allocated fromSource
      obtain ⟨account, security⟩ := fromSource allocation List.mem_cons_self
      have afterOne :
          (moveLot transaction destination destinationSecurityId lots allocation).sum _ = _ :=
        sum_moveLot
          (fun lot => if lot.accountId ∈ accountIds ∧ lot.securityId = held then measure lot else 0)
          destination (allocated.stored allocation List.mem_cons_self)
      have sameOrigin := origin_moveFromLot transaction allocation.1 allocation.2
      have sameAccount := congrArg Origin.accountId sameOrigin
      have sameSecurity := congrArg Origin.securityId sameOrigin
      simp only [TaxLot.origin] at sameAccount sameSecurity
      simp only [sameAccount, sameSecurity, account, security, moves.left, moves.arrived,
        accountId_receivedLot, securityId_receivedLot] at afterOne
      rw [List.foldl_cons, ih (allocated.tail destination)
        fun other otherMem => fromSource other (List.mem_cons_of_mem _ otherMem)]
      simp only [heldIn, afterOne, List.map_cons, List.sum_cons]
      split <;> split <;> ring

theorem transferAllocations_source {allocation : TaxLot × ℚ}
    (isMem : allocation ∈ transferAllocations order lots transaction securityId) :
    allocation.1.accountId = transaction.accountId ∧ allocation.1.securityId = securityId := by
  have found := mem_findOpenLots.mp (List.mem_filter.mp (mem_of_mem_draw isMem)).1
  exact ⟨found.2.1, found.2.2.1⟩

/-- A transfer moves what it asks for or all that the open lots hold. -/
theorem drawn_transferAllocations (sound : Sound lots) :
    drawn (transferAllocations order lots transaction securityId) =
      min transaction.absQuantity
        (openQuantity lots transaction.accountId securityId) := by
  have nonneg : ∀ lot ∈ (findOpenLots order lots transaction.accountId securityId).filter
      fun lot => 0 < lot.remainingQuantity, 0 ≤ lot.remainingQuantity :=
    fun lot lotMem => (of_decide_eq_true (List.mem_filter.mp lotMem).2).le
  rw [transferAllocations, drawn_draw _ nonneg transaction.absQuantity_nonneg]
  congr 1
  have sorted := ((order.perm (lots.rows.filter fun lot =>
    lot.accountId = transaction.accountId ∧ lot.securityId = securityId ∧ lot.isOpen)).filter
      fun lot => 0 < lot.remainingQuantity).map TaxLot.remainingQuantity
  refine sorted.sum_eq.trans ?_
  rw [List.filter_filter, sum_filter_eq]
  refine congrArg List.sum (List.map_congr_left fun lot lotMem => ?_)
  have remaining := (sound lot lotMem).remainingNonneg
  by_cases selected : lot.accountId = transaction.accountId ∧ lot.securityId = securityId ∧
      lot.isOpen
  · rcases remaining.eq_or_lt with nothing | something
    · simp [selected, ← nothing]
    · simp [selected, something]
  · simp only [selected, decide_false, Bool.and_false, Bool.false_eq_true, if_false]

end Transfer

/-! ## Reachable tables -/

/-- The quantities and the basis of a lot agree with each other. -/
structure ConsistentLot (lot : TaxLot) : Prop where
  remainingNonneg : 0 ≤ lot.remainingQuantity
  remainingLe : lot.remainingQuantity ≤ lot.quantity
  closedIff : lot.closedAt.isSome ↔ lot.remainingQuantity = 0
  total : lot.costBasisTotal = lot.costBasisPerUnit * lot.quantity

theorem SoundLot.consistent {lot : TaxLot} (sound : SoundLot lot) (positive : 0 < lot.quantity) :
    ConsistentLot lot where
  remainingNonneg := sound.remainingNonneg
  remainingLe := sound.remainingLe
  closedIff := by
    have openIff := sound.openIff positive
    rw [TaxLot.isOpen] at openIff
    cases closed : lot.closedAt with
    | none => simpa [closed] using openIff
    | some moment => simpa [closed] using openIff
  total := (sound.perUnit positive).symm

theorem processCall_sound (lots : LotTable) (call : Call) (sound : Sound lots) :
    Sound (processCall lots call) :=
  processTransaction_forall (soundLot_closed call.transaction) call.pairedTransfer sound

theorem processCalls_sound (calls : List Call) : Sound (processCalls calls) := by
  induction calls using List.reverseRecOn with
  | nil => simp [processCalls, Sound]
  | append_singleton before call ih =>
      rw [processCalls, runAll_append]
      exact processCall_sound _ call ih

/-! ## One transfer -/

/-- The table holds what the transfer moves and has not seen the transfer yet. -/
structure Transferable (lots : LotTable) (legs : PairedLegs) : Prop where
  hasQuantity : 0 < legs.source.absQuantity
  outbound : legs.source.amount.value < 0
  fresh : findLotsForTransfer lots legs.destination.id = []
  covered : legs.source.absQuantity ≤
    openQuantity lots legs.source.accountId legs.securityId

/-- Some lot came in with the transfer. -/
def Marked (lots : LotTable) (transferId : Uuid) : Prop :=
  ∃ lot ∈ lots.rows, lot.transferTransactionId = some transferId

section Legs

variable {lots : LotTable} {legs : PairedLegs}

theorem processCall_of_not_transferable (order : AcquisitionOrder)
    (costBasisMethod : CostBasisMethod) (sound : Sound lots)
    (blocked : ¬ Transferable lots legs) :
    processCall lots (legs.call order costBasisMethod) = lots := by
  rw [processCall_legs]
  unfold transferLotsToDestination
  dsimp only
  split
  · rfl
  · rename_i isOutbound
    split
    · rfl
    · rename_i isFresh
      split
      · rfl
      · rename_i noGap
        simp only [not_or, not_le] at isOutbound
        rw [drawn_transferAllocations sound, not_lt, sub_nonpos] at noGap
        exact absurd ⟨isOutbound.1, isOutbound.2, not_not.mp isFresh, le_min_iff.mp noGap |>.2⟩
          blocked

theorem processCall_of_transferable (order : AcquisitionOrder)
    (costBasisMethod : CostBasisMethod) (sound : Sound lots) (ready : Transferable lots legs) :
    processCall lots (legs.call order costBasisMethod) =
        (transferAllocations order lots legs.source legs.securityId).foldl
          (moveLot legs.source legs.destination legs.securityId) lots ∧
      drawn (transferAllocations order lots legs.source legs.securityId) =
        legs.source.absQuantity := by
  have whole : drawn (transferAllocations order lots legs.source legs.securityId) =
      legs.source.absQuantity := by
    rw [drawn_transferAllocations sound]
    exact min_eq_left ready.covered
  refine ⟨?_, whole⟩
  rw [processCall_legs]
  simp [transferLotsToDestination, not_le.mpr ready.hasQuantity, not_le.mpr ready.outbound,
    ready.fresh, whole]

theorem marked_processCall (call : Call) {transferId : Uuid} (marked : Marked lots transferId) :
    Marked (processCall lots call) transferId := by
  obtain ⟨lot, stored, transferred⟩ := marked
  obtain ⟨now, nowMem, same⟩ := processTransaction_keeps call.order call.costBasisMethod
    call.pairedTransfer call.transaction stored
  exact ⟨now, nowMem, (congrArg Origin.transferTransactionId same).trans transferred⟩

theorem not_transferable_of_marked (marked : Marked lots legs.destination.id) :
    ¬ Transferable lots legs := by
  intro ready
  obtain ⟨lot, stored, transferred⟩ := marked
  have found : lot ∈ findLotsForTransfer lots legs.destination.id := by
    simp [findLotsForTransfer, stored, transferred]
  rw [ready.fresh] at found
  contradiction

/-- A transfer that is carried out leaves a lot that is linked to it. -/
theorem marked_of_transferable (order : AcquisitionOrder) (costBasisMethod : CostBasisMethod)
    (sound : Sound lots) (ready : Transferable lots legs) :
    Marked (processCall lots (legs.call order costBasisMethod)) legs.destination.id := by
  obtain ⟨moved, whole⟩ := processCall_of_transferable order costBasisMethod sound ready
  rw [moved]
  have allocated : Allocated lots
      (transferAllocations order lots legs.source legs.securityId) := transfer_allocated
  cases allocations : transferAllocations order lots legs.source legs.securityId with
  | nil =>
      rw [allocations] at whole
      exact absurd whole ready.hasQuantity.ne
  | cons allocation rest =>
      rw [allocations] at allocated
      have remaining : Allocated
          (moveLot legs.source legs.destination legs.securityId lots allocation) rest :=
        allocated.tail legs.destination
      have later : origins (moveLot legs.source legs.destination legs.securityId lots
          allocation) <+: origins (rest.foldl
            (moveLot legs.source legs.destination legs.securityId)
            (moveLot legs.source legs.destination legs.securityId lots allocation)) :=
        moveLots_origins legs.destination rest remaining
      have received := later.subset (List.mem_map_of_mem
        (List.mem_append_right _ List.mem_cons_self))
      obtain ⟨now, nowMem, same⟩ := List.mem_map.mp received
      exact ⟨now, nowMem, congrArg Origin.transferTransactionId same⟩

/-- A transfer that changes the table is not applied again later. -/
theorem processCall_again (order again : AcquisitionOrder)
    (costBasisMethod methodAgain : CostBasisMethod) (sound : Sound lots)
    (ready : Transferable lots legs) (later : List Call) :
    processCall
        (runAll processCall (processCall lots (legs.call order costBasisMethod)) later)
        (legs.call again methodAgain) =
      runAll processCall (processCall lots (legs.call order costBasisMethod)) later := by
  have marked := marked_of_transferable order costBasisMethod sound ready
  have stillSound := processCall_sound lots (legs.call order costBasisMethod) sound
  generalize processCall lots (legs.call order costBasisMethod) = reached at marked stillSound
  induction later generalizing reached with
  | nil =>
      exact processCall_of_not_transferable again methodAgain stillSound
        (not_transferable_of_marked marked)
  | cons call rest ih =>
      exact ih _ (marked_processCall call marked)
        (processCall_sound _ call stillSound)

/-- What any accounts hold after a transfer that is carried out. -/
theorem heldIn_of_transferable {measure rate : TaxLot → ℚ} (moves : MovesAlong measure rate)
    (order : AcquisitionOrder) (costBasisMethod : CostBasisMethod) (sound : Sound lots)
    (ready : Transferable lots legs) (accountIds : List Uuid) (held : Uuid) :
    heldIn (processCall lots (legs.call order costBasisMethod)) accountIds held measure =
      heldIn lots accountIds held measure +
        (if legs.destination.accountId ∈ accountIds ∧ legs.securityId = held then
          ((transferAllocations order lots legs.source legs.securityId).map
            fun part => part.2 * rate part.1).sum else 0) -
        (if legs.source.accountId ∈ accountIds ∧ legs.securityId = held then
          ((transferAllocations order lots legs.source legs.securityId).map
            fun part => part.2 * rate part.1).sum else 0) := by
  rw [(processCall_of_transferable order costBasisMethod sound ready).1]
  exact heldIn_moveLots moves accountIds held _ transfer_allocated
    fun allocation isMem => transferAllocations_source isMem

/-- The two accounts together hold after a transfer what they held before. -/
theorem heldIn_legs {measure rate : TaxLot → ℚ} (moves : MovesAlong measure rate)
    (order : AcquisitionOrder) (costBasisMethod : CostBasisMethod) (sound : Sound lots)
    (legs : PairedLegs) (held : Uuid) :
    heldIn (processCall lots (legs.call order costBasisMethod))
        [legs.source.accountId, legs.destination.accountId] held measure =
      heldIn lots [legs.source.accountId, legs.destination.accountId] held measure := by
  by_cases ready : Transferable lots legs
  · rw [heldIn_of_transferable moves order costBasisMethod sound ready]
    simp
  · rw [processCall_of_not_transferable order costBasisMethod sound ready]

/-- A transfer moves its whole quantity out of one account into the other. -/
theorem heldIn_whole (order : AcquisitionOrder) (costBasisMethod : CostBasisMethod)
    (sound : Sound lots) (ready : Transferable lots legs) :
    heldIn (processCall lots (legs.call order costBasisMethod)) [legs.source.accountId]
          legs.securityId TaxLot.remainingQuantity =
        heldIn lots [legs.source.accountId] legs.securityId TaxLot.remainingQuantity -
          legs.source.absQuantity ∧
      heldIn (processCall lots (legs.call order costBasisMethod)) [legs.destination.accountId]
          legs.securityId TaxLot.remainingQuantity =
        heldIn lots [legs.destination.accountId] legs.securityId TaxLot.remainingQuantity +
          legs.source.absQuantity := by
  have whole := (processCall_of_transferable order costBasisMethod sound ready).2
  rw [drawn] at whole
  constructor
  · rw [heldIn_of_transferable movesAlong_remainingQuantity order costBasisMethod sound ready]
    simp [legs.accounts.symm, whole]
  · rw [heldIn_of_transferable movesAlong_remainingQuantity order costBasisMethod sound ready]
    simp [legs.accounts, whole]

end Legs

/-- After any calls every lot with shares is consistent.  A transfer between two
paired legs then moves its whole quantity or changes nothing, as it does if the
open lots hold too little; it keeps what the two accounts hold of every security,
in units and in basis; and it changes nothing when it is applied again, at once
or, if it has been carried out, at any later time. -/
theorem processCalls_invariant (calls : List Call) :
    (∀ lot ∈ (processCalls calls).rows, 0 < lot.quantity → ConsistentLot lot) ∧
      ∀ (legs : PairedLegs) (order again : AcquisitionOrder)
        (costBasisMethod methodAgain : CostBasisMethod),
        let lots := processCalls calls
        let after := processCall lots (legs.call order costBasisMethod)
        (after = lots ∨
          heldIn after [legs.source.accountId] legs.securityId TaxLot.remainingQuantity =
              heldIn lots [legs.source.accountId] legs.securityId TaxLot.remainingQuantity -
                legs.source.absQuantity ∧
            heldIn after [legs.destination.accountId] legs.securityId
                TaxLot.remainingQuantity =
              heldIn lots [legs.destination.accountId] legs.securityId
                  TaxLot.remainingQuantity +
                legs.source.absQuantity) ∧
        (openQuantity lots legs.source.accountId legs.securityId < legs.source.absQuantity →
          after = lots) ∧
        (∀ held : Uuid,
          heldIn after [legs.source.accountId, legs.destination.accountId] held
              TaxLot.remainingQuantity =
            heldIn lots [legs.source.accountId, legs.destination.accountId] held
              TaxLot.remainingQuantity) ∧
        (∀ held : Uuid,
          heldIn after [legs.source.accountId, legs.destination.accountId] held
              TaxLot.carriedBasis =
            heldIn lots [legs.source.accountId, legs.destination.accountId] held
              TaxLot.carriedBasis) ∧
        processCall after (legs.call again methodAgain) = after ∧
        (after ≠ lots → ∀ later : List Call,
          processCall (runAll processCall after later) (legs.call again methodAgain) =
            runAll processCall after later) := by
  have sound := processCalls_sound calls
  refine ⟨fun lot lotMem positive => (sound lot lotMem).consistent positive, ?_⟩
  intro legs order again costBasisMethod methodAgain
  refine ⟨?_, ?_, ?_, ?_, ?_, ?_⟩
  · by_cases ready : Transferable (processCalls calls) legs
    · exact Or.inr (heldIn_whole order costBasisMethod sound ready)
    · exact Or.inl (processCall_of_not_transferable order costBasisMethod sound ready)
  · intro gap
    exact processCall_of_not_transferable order costBasisMethod sound
      fun ready => absurd ready.covered (not_le.mpr gap)
  · exact heldIn_legs movesAlong_remainingQuantity order costBasisMethod sound legs
  · exact heldIn_legs movesAlong_carriedBasis order costBasisMethod sound legs
  · by_cases ready : Transferable (processCalls calls) legs
    · exact processCall_again order again costBasisMethod methodAgain sound ready []
    · rw [processCall_of_not_transferable order costBasisMethod sound ready]
      exact processCall_of_not_transferable again methodAgain sound ready
  · intro changed
    by_cases ready : Transferable (processCalls calls) legs
    · exact processCall_again order again costBasisMethod methodAgain sound ready
    · exact absurd (processCall_of_not_transferable order costBasisMethod sound ready) changed

end FinanceSync.TaxLots
