import FinanceSync.Portfolio.QuantityCheck

/-!
# When the quantity check is right

A history is consistent if every snapshot shows the quantity that follows from
the transactions that are not deleted.  The check should then find nothing, and
one mismatch once the latest snapshot is changed.  It reads deleted transactions
too, and it takes the latest snapshot with a quantity for the latest one.
-/

namespace FinanceSync.Portfolio

open Lib

/-! ## The quantity of a position -/

/-- A trade or a transfer whose effect on the quantity is known. -/
def Transaction.bearsQuantity (transaction : Transaction) : Prop :=
  transaction.transactionType ∈ [TransactionType.purchase, .sale, .transfer] ∧
    (signedQuantity transaction).isSome

instance (transaction : Transaction) : Decidable transaction.bearsQuantity :=
  inferInstanceAs (Decidable (_ ∧ _))

/-- The position that a finding names. -/
def QuantityIssue.position : QuantityIssue → Option Position
  | unmodeledEvents _ => none
  | mismatch accountId securityId _ _ _ _ _ _ => some (accountId, securityId)

/-- What a transaction does to the quantity of its position. -/
def applyQuantity (quantity : ℚ) (transaction : Transaction) : ℚ :=
  match transaction.transactionType with
  | .purchase | .sale | .transfer => quantity + (signedQuantity transaction).getD 0
  | .split | .adjustment =>
      quantity * (quantityEventRatio transaction.providerMetadataContract).getD 1
  | _ => quantity

/-- The quantity after some transactions. -/
def netQuantity (history : List Transaction) : ℚ :=
  history.foldl applyQuantity 0

/-- The event's effect is not known after the transactions before it: a corporate
action, or a split without a ratio or without a quantity. -/
def Unmodeled (before : List Transaction) (event : Transaction) : Prop :=
  event.transactionType = .corporateAction ∨
    event.transactionType ∈ [TransactionType.split, .adjustment] ∧
      (quantityEventRatio event.providerMetadataContract = none ∨
        ∀ transaction ∈ before, ¬ transaction.bearsQuantity)

/-- The effect of every transaction is known. -/
def Modeled (history : List Transaction) : Prop :=
  ∀ before event after, history = before ++ event :: after → ¬ Unmodeled before event

section Domain

variable (tenantId : Uuid) (transactions : List Transaction) (holdings : List Holding)

/-- The transactions of a position as they happened, deleted ones included. -/
def chronological (key : Position) : List Transaction :=
  (OrderBy.stable Transaction.occurredAt).sort
    (((positionRows tenantId transactions).filter fun row => row.1 = key).map Prod.snd)

/-- The quantity of a position at a moment. -/
def quantityAt (key : Position) (moment : Instant) : ℚ :=
  netQuantity ((chronological tenantId transactions key).filter fun transaction =>
    transaction.tombstonedAt.isNone ∧ transaction.occurredAt ≤ moment)

/-- No later snapshot of the position is stored. -/
def IsLatestSnapshot (last : Holding) : Prop :=
  ∀ other ∈ holdings, other.position = last.position → other.observedAt ≤ last.observedAt

instance (last : Holding) : Decidable (IsLatestSnapshot holdings last) :=
  inferInstanceAs (Decidable (∀ other ∈ holdings, _ → _))

/-- Every snapshot shows the quantity of its moment, and the latest snapshot of a
position is not older than its last transaction. -/
structure ConsistentHistory : Prop where
  distinctTimes :
    ((positionRows tenantId transactions).map fun row => (row.1, row.2.occurredAt)).Nodup
  quantities : ∀ holding ∈ holdings,
    holding.quantity = quantityAt tenantId transactions holding.position holding.observedAt
  upToDate : ∀ last ∈ holdings, IsLatestSnapshot holdings last →
    ∀ row ∈ positionRows tenantId transactions, row.1 = last.position →
      row.2.occurredAt ≤ last.observedAt

end Domain

/-! ## What the loop computes -/

/-- The dictionaries hold what follows from the transactions of a position. -/
structure Tracks (state : Expectation) (key : Position) (history : List Transaction) : Prop where
  unmodeled : key ∈ state.unmodeledKeys ↔ ¬ Modeled history
  known : (state.expected key).isSome ↔ ∃ transaction ∈ history, transaction.bearsQuantity
  expected : Modeled history → (state.expected key).getD 0 = netQuantity history

theorem modeled_append_singleton {history : List Transaction} {event : Transaction} :
    Modeled (history ++ [event]) ↔ Modeled history ∧ ¬ Unmodeled history event := by
  constructor
  · intro modeled
    constructor
    · intro before other after split
      exact modeled before other (after ++ [event]) (by simp [split])
    · exact modeled history event [] rfl
  · intro ⟨modeled, known⟩ before other after split
    cases after using List.reverseRecOn with
    | nil =>
        have parts := List.append_inj' split rfl
        rw [← parts.1, ← (List.singleton_inj.mp parts.2)]
        exact known
    | append_singleton rest last _ =>
        rw [← List.cons_append, ← List.append_assoc] at split
        exact modeled before other rest (List.append_inj' split rfl).1

theorem netQuantity_append_singleton (history : List Transaction) (event : Transaction) :
    netQuantity (history ++ [event]) = applyQuantity (netQuantity history) event := by
  simp [netQuantity]

/-- A row of another position changes nothing. -/
theorem Tracks.other {state : Expectation} {key : Position} {history : List Transaction}
    (tracks : Tracks state key history) {row : Position × Transaction} (ne : row.1 ≠ key) :
    Tracks (expectStep state row) key history := by
  obtain ⟨rowKey, event⟩ := row
  have unmodeled : key ∈ (expectStep state (rowKey, event)).unmodeledKeys ↔
      key ∈ state.unmodeledKeys := by
    unfold expectStep
    dsimp only
    split
    · simp [Ne.symm ne]
    · split <;> simp [Ne.symm ne]
    · split <;> simp [Ne.symm ne]
    · split <;> rfl
  have expected : (expectStep state (rowKey, event)).expected key = state.expected key := by
    unfold expectStep
    dsimp only
    split
    · rfl
    · split <;> simp [Function.update_of_ne (Ne.symm ne)]
    · split <;> simp [Function.update_of_ne (Ne.symm ne)]
    · split <;> simp [Function.update_of_ne (Ne.symm ne)]
  exact ⟨unmodeled.trans tracks.unmodeled, expected ▸ tracks.known, expected ▸ tracks.expected⟩

theorem not_modeled_of_unmodeled {history : List Transaction} {event : Transaction}
    (unknown : Unmodeled history event) : ¬ Modeled (history ++ [event]) := by
  rw [modeled_append_singleton]
  exact fun modeled => modeled.2 unknown

section Step

variable {state : Expectation} {key : Position} {history : List Transaction}
  {event : Transaction}

/-- An event without a known effect leaves the quantity and marks the position. -/
theorem Tracks.unknown (tracks : Tracks state key history) (unknown : Unmodeled history event)
    (silent : ¬ event.bearsQuantity) {after : Expectation}
    (marked : key ∈ after.unmodeledKeys) (same : after.expected key = state.expected key) :
    Tracks after key (history ++ [event]) where
  unmodeled := iff_of_true marked (not_modeled_of_unmodeled unknown)
  known := by simpa [silent, same] using tracks.known
  expected := fun modeled => absurd modeled (not_modeled_of_unmodeled unknown)

/-- An event with a known effect is applied to the quantity. -/
theorem Tracks.applied (tracks : Tracks state key history) (known : ¬ Unmodeled history event)
    {after : Expectation} (sameKeys : after.unmodeledKeys = state.unmodeledKeys)
    (bears : (after.expected key).isSome ↔
      (state.expected key).isSome ∨ event.bearsQuantity)
    (applies : (after.expected key).getD 0 = applyQuantity ((state.expected key).getD 0) event) :
    Tracks after key (history ++ [event]) where
  unmodeled := by
    rw [sameKeys, tracks.unmodeled, modeled_append_singleton]
    simp [known]
  known := by
    rw [bears, tracks.known]
    simp [or_and_right, exists_or]
  expected := by
    intro modeled
    rw [applies, tracks.expected (modeled_append_singleton.mp modeled).1,
      netQuantity_append_singleton]

theorem Tracks.corporateAction (tracks : Tracks state key history)
    (kind : event.transactionType = .corporateAction) :
    Tracks (expectStep state (key, event)) key (history ++ [event]) := by
  apply tracks.unknown (Or.inl kind)
  · simp [Transaction.bearsQuantity, kind]
  · simp [expectStep, kind]
  · simp [expectStep, kind]

theorem Tracks.quantityEvent (tracks : Tracks state key history)
    (kind : event.transactionType = .split ∨ event.transactionType = .adjustment) :
    Tracks (expectStep state (key, event)) key (history ++ [event]) := by
  have listed : event.transactionType ∈ [TransactionType.split, .adjustment] := by
    simpa using kind
  have silent : ¬ event.bearsQuantity := by
    rcases kind with split | adjustment
    · simp [Transaction.bearsQuantity, split]
    · simp [Transaction.bearsQuantity, adjustment]
  cases ratio : quantityEventRatio event.providerMetadataContract with
  | none =>
      apply tracks.unknown (Or.inr ⟨listed, Or.inl ratio⟩) silent
      · rcases kind with split | adjustment
        · simp [expectStep, split, ratio]
        · simp [expectStep, adjustment, ratio]
      · rcases kind with split | adjustment
        · simp [expectStep, split, ratio]
        · simp [expectStep, adjustment, ratio]
  | some factor =>
      cases held : state.expected key with
      | none =>
          have nothing : ∀ transaction ∈ history, ¬ transaction.bearsQuantity := by
            have unknown := tracks.known
            rw [held] at unknown
            simpa using unknown
          apply tracks.unknown (Or.inr ⟨listed, Or.inr nothing⟩) silent
          · rcases kind with split | adjustment
            · simp [expectStep, split, held]
            · simp [expectStep, adjustment, held]
          · rcases kind with split | adjustment
            · simp [expectStep, split, held]
            · simp [expectStep, adjustment, held]
      | some quantity =>
          have something : ∃ transaction ∈ history, transaction.bearsQuantity := by
            rw [← tracks.known, held]
            rfl
          have known : ¬ Unmodeled history event := by
            intro unknown
            rcases unknown with corporateAction | ⟨_, noRatio | nothing⟩
            · rw [corporateAction] at kind
              simp at kind
            · rw [ratio] at noRatio
              contradiction
            · cases something with
              | intro transaction bears => exact nothing transaction bears.1 bears.2
          apply tracks.applied known
          · rcases kind with split | adjustment
            · simp [expectStep, split, ratio, held]
            · simp [expectStep, adjustment, ratio, held]
          · rcases kind with split | adjustment
            · simp [expectStep, split, ratio, held]
            · simp [expectStep, adjustment, ratio, held]
          · rcases kind with split | adjustment
            · simp [expectStep, applyQuantity, split, ratio, held]
            · simp [expectStep, applyQuantity, adjustment, ratio, held]

theorem Tracks.trade (tracks : Tracks state key history)
    (kind : event.transactionType = .purchase ∨ event.transactionType = .sale ∨
      event.transactionType = .transfer) :
    Tracks (expectStep state (key, event)) key (history ++ [event]) := by
  have known : ¬ Unmodeled history event := by
    rcases kind with purchase | sale | transfer
    · simp [Unmodeled, purchase]
    · simp [Unmodeled, sale]
    · simp [Unmodeled, transfer]
  have bears : event.bearsQuantity ↔ (signedQuantity event).isSome := by
    rcases kind with purchase | sale | transfer
    · simp [Transaction.bearsQuantity, purchase]
    · simp [Transaction.bearsQuantity, sale]
    · simp [Transaction.bearsQuantity, transfer]
  have applied (quantity : ℚ) :
      applyQuantity quantity event = quantity + (signedQuantity event).getD 0 := by
    rcases kind with purchase | sale | transfer
    · simp [applyQuantity, purchase]
    · simp [applyQuantity, sale]
    · simp [applyQuantity, transfer]
  cases moved : signedQuantity event with
  | none =>
      have stepped : (expectStep state (key, event)).expected = state.expected ∧
          (expectStep state (key, event)).unmodeledKeys = state.unmodeledKeys := by
        rcases kind with purchase | sale | transfer
        · simp [expectStep, purchase, moved]
        · simp [expectStep, sale, moved]
        · simp [expectStep, transfer, moved]
      apply tracks.applied known stepped.2
      · simp [stepped.1, bears, moved]
      · simp [stepped.1, applied, moved]
  | some quantity =>
      have stepped : (expectStep state (key, event)).expected key =
            some ((state.expected key).getD 0 + quantity) ∧
          (expectStep state (key, event)).unmodeledKeys = state.unmodeledKeys := by
        rcases kind with purchase | sale | transfer
        · simp [expectStep, purchase, moved]
        · simp [expectStep, sale, moved]
        · simp [expectStep, transfer, moved]
      apply tracks.applied known stepped.2
      · simp [stepped.1, bears, moved]
      · simp [stepped.1, applied, moved]

/-- A row of the position is added to its history. -/
theorem Tracks.step (tracks : Tracks state key history)
    (read : event.transactionType ∈ quantityTypes) :
    Tracks (expectStep state (key, event)) key (history ++ [event]) := by
  cases kind : event.transactionType with
  | corporateAction => exact tracks.corporateAction kind
  | split => exact tracks.quantityEvent (Or.inl kind)
  | adjustment => exact tracks.quantityEvent (Or.inr kind)
  | purchase => exact tracks.trade (Or.inl kind)
  | sale => exact tracks.trade (Or.inr (Or.inl kind))
  | transfer => exact tracks.trade (Or.inr (Or.inr kind))
  | _ => simp [quantityTypes, kind] at read

end Step

theorem tracks_start (key : Position) : Tracks {} key [] where
  unmodeled := by simp [Modeled]
  known := by simp
  expected := fun _ => rfl

/-- The loop keeps track of every position. -/
theorem tracks_foldl (key : Position) (rows : List (Position × Transaction))
    (read : ∀ row ∈ rows, row.2.transactionType ∈ quantityTypes) :
    Tracks (rows.foldl expectStep {}) key
      ((rows.filter fun row => row.1 = key).map Prod.snd) := by
  induction rows using List.reverseRecOn with
  | nil => exact tracks_start key
  | append_singleton rows row ih =>
      have tracks := ih fun other isMem =>
        read other (List.mem_append_left _ isMem)
      rw [List.foldl_append, List.foldl_cons, List.foldl_nil, List.filter_append,
        List.map_append]
      by_cases own : row.1 = key
      · subst own
        simpa using tracks.step (read row (by simp))
      · simpa [own] using tracks.other own

/-! ## What the check finds -/

section Check

variable {order : ActivityOrder} {tenantId : Uuid} {transactions : List Transaction}
  {holdings : List Holding}

theorem type_of_mem_positionRows {row : Position × Transaction}
    (isMem : row ∈ positionRows tenantId transactions) :
    row.2.transactionType ∈ quantityTypes := by
  obtain ⟨transaction, _, found⟩ := List.mem_filterMap.mp isMem
  split at found
  · contradiction
  · split at found
    · rename_i read
      rw [← Option.some.inj found]
      exact read.2
    · contradiction

theorem mem_ofPosition {rows : List (Position × Transaction)} {key : Position}
    {transaction : Transaction} :
    transaction ∈ (rows.filter fun row => row.1 = key).map Prod.snd ↔
      (key, transaction) ∈ rows := by
  simp

/-- With distinct event times the database leaves one order for a position. -/
theorem sorted_eq_chronological (order : ActivityOrder)
    (distinctTimes :
      ((positionRows tenantId transactions).map fun row => (row.1, row.2.occurredAt)).Nodup)
    (key : Position) :
    ((order.sort (positionRows tenantId transactions)).filter fun row => row.1 = key).map
        Prod.snd = chronological tenantId transactions key := by
  have samePerm : (((order.sort (positionRows tenantId transactions)).filter
      fun row => row.1 = key).map Prod.snd).Perm (chronological tenantId transactions key) :=
    (((order.perm _).filter _).map _).trans ((OrderBy.stable _).perm _).symm
  have ascending : (((order.sort (positionRows tenantId transactions)).filter
      fun row => row.1 = key).map Prod.snd).Pairwise
        fun first second => first.occurredAt ≤ second.occurredAt := by
    rw [List.pairwise_map, List.pairwise_filter]
    refine (order.ascending _).imp ?_
    intro first second before firstOwn secondOwn
    rw [decide_eq_true_eq] at firstOwn secondOwn
    simpa [Prod.Lex.le_iff, firstOwn, secondOwn] using before
  refine samePerm.eq_of_pairwise ?_ ascending ((OrderBy.stable _).ascending _)
  intro first second firstMem secondMem before after
  simp only [chronological, OrderBy.mem_sort, mem_ofPosition] at firstMem secondMem
  have same := List.inj_on_of_nodup_map distinctTimes firstMem secondMem
    (by rw [le_antisymm before after])
  exact congrArg Prod.snd same

theorem tracks_expectation (order : ActivityOrder)
    (distinctTimes :
      ((positionRows tenantId transactions).map fun row => (row.1, row.2.occurredAt)).Nodup)
    (key : Position) :
    Tracks (expectation order tenantId transactions) key
      (chronological tenantId transactions key) := by
  rw [← sorted_eq_chronological order distinctTimes key]
  apply tracks_foldl
  intro row isMem
  exact type_of_mem_positionRows (order.mem_sort.mp isMem)

/-- A transaction of the position has a known effect on its quantity. -/
def Known (tenantId : Uuid) (transactions : List Transaction) (key : Position) : Prop :=
  ∃ transaction ∈ chronological tenantId transactions key, transaction.bearsQuantity

/-- The snapshot is off the quantity that follows from all transactions. -/
def Apart (tenantId : Uuid) (transactions : List Transaction) (holding : Holding) : Prop :=
  quantityTolerance <
    |holding.quantity - netQuantity (chronological tenantId transactions holding.position)|

instance (holding : Holding) : Decidable (Apart tenantId transactions holding) :=
  inferInstanceAs (Decidable (_ < _))

theorem isSome_holdingIssue_iff {state : Expectation} {holding : Holding}
    (tracks : Tracks state holding.position
      (chronological tenantId transactions holding.position)) :
    (holdingIssue state holding).isSome ↔
      Known tenantId transactions holding.position ∧
        Modeled (chronological tenantId transactions holding.position) ∧
          Apart tenantId transactions holding := by
  unfold Known
  rw [← tracks.known]
  unfold holdingIssue
  cases held : state.expected holding.position with
  | none => simp
  | some quantity =>
      have marked := tracks.unmodeled
      by_cases modeled : Modeled (chronological tenantId transactions holding.position)
      · have net := tracks.expected modeled
        rw [held, Option.getD_some] at net
        simp only [marked, modeled, not_true_eq_false, if_false, Apart, ← net]
        split
        · rename_i close
          simp [not_lt.mpr close]
        · rename_i apart
          simp [not_le.mp apart]
      · simp [marked, modeled]

theorem position_of_holdingIssue {state : Expectation} {holding : Holding}
    {issue : QuantityIssue} (found : holdingIssue state holding = some issue) :
    issue.position = some holding.position := by
  unfold holdingIssue at found
  split at found
  · contradiction
  · split at found
    · contradiction
    · dsimp only at found
      split at found
      · contradiction
      · rw [← Option.some.inj found]
        rfl

/-- The check finds nothing exactly if no compared snapshot is off. -/
theorem quantityMismatches_eq_nil_iff (order : ActivityOrder)
    (distinctTimes :
      ((positionRows tenantId transactions).map fun row => (row.1, row.2.occurredAt)).Nodup) :
    quantityMismatches order tenantId transactions holdings = [] ↔
      ∀ holding ∈ comparedHoldings holdings, Known tenantId transactions holding.position →
        Modeled (chronological tenantId transactions holding.position) →
          ¬ Apart tenantId transactions holding := by
  unfold quantityMismatches
  rw [List.filterMap_eq_nil_iff]
  refine forall₂_congr fun holding _ => ?_
  rw [← Option.not_isSome_iff_eq_none,
    isSome_holdingIssue_iff (tracks_expectation order distinctTimes _)]
  simp only [not_and]

/-- If no other position has a finding, one finding names a position exactly if
one of its compared snapshots is off. -/
theorem oneMismatch_iff (order : ActivityOrder)
    (distinctTimes :
      ((positionRows tenantId transactions).map fun row => (row.1, row.2.occurredAt)).Nodup)
    {key : Position} (modeled : Modeled (chronological tenantId transactions key))
    (others : ∀ holding ∈ comparedHoldings holdings, holding.position ≠ key →
      Known tenantId transactions holding.position →
        Modeled (chronological tenantId transactions holding.position) →
          ¬ Apart tenantId transactions holding) :
    (∃ issue, quantityMismatches order tenantId transactions holdings = [issue] ∧
        issue.position = some key) ↔
      Known tenantId transactions key ∧
        (comparedHoldings holdings).countP (fun holding =>
          holding.position = key ∧ Apart tenantId transactions holding) = 1 := by
  have found (holding : Holding) :=
    isSome_holdingIssue_iff (tracks_expectation order distinctTimes holding.position)
  have counted (known : Known tenantId transactions key) :
      (quantityMismatches order tenantId transactions holdings).length =
        (comparedHoldings holdings).countP fun holding =>
          holding.position = key ∧ Apart tenantId transactions holding := by
    unfold quantityMismatches
    rw [List.length_filterMap_eq_countP]
    apply List.countP_congr
    intro holding isMem
    rw [found, decide_eq_true_eq]
    constructor
    · intro ⟨holdingKnown, holdingModeled, apart⟩
      refine ⟨?_, apart⟩
      by_contra ne
      exact others holding isMem ne holdingKnown holdingModeled apart
    · intro ⟨own, apart⟩
      subst own
      exact ⟨known, modeled, apart⟩
  constructor
  · intro ⟨issue, only, named⟩
    have isMem : issue ∈ quantityMismatches order tenantId transactions holdings := by
      simp [only]
    obtain ⟨holding, _, issued⟩ := List.mem_filterMap.mp isMem
    have own : holding.position = key :=
      Option.some.inj ((position_of_holdingIssue issued).symm.trans named)
    have known : Known tenantId transactions key :=
      own ▸ ((found holding).mp (by simp [issued])).1
    refine ⟨known, ?_⟩
    rw [← counted known, only, List.length_singleton]
  · intro ⟨known, one⟩
    obtain ⟨issue, only⟩ := List.length_eq_one_iff.mp ((counted known).trans one)
    have isMem : issue ∈ quantityMismatches order tenantId transactions holdings := by
      simp [only]
    obtain ⟨holding, compared, issued⟩ := List.mem_filterMap.mp isMem
    have off := (found holding).mp (by simp [issued])
    refine ⟨issue, only, ?_⟩
    rw [position_of_holdingIssue issued]
    by_contra ne
    exact others holding compared (by simpa using ne) off.1 off.2.1 off.2.2

/-- Changing a snapshot leaves what is compared of other positions. -/
theorem mem_comparedHoldings_of_save {table : Table Holding Holding.id} {last : Holding}
    (stored : last ∈ table.rows) (changed : Holding) (sameId : changed.id = last.id)
    (samePosition : changed.position = last.position) {holding : Holding}
    (isMem : holding ∈ comparedHoldings (table.save changed).rows)
    (ne : holding.position ≠ last.position) :
    holding ∈ comparedHoldings table.rows := by
  have sameRows : (table.save changed).rows.filter
        (fun other => other.position = holding.position ∧ other.quantity ≠ 0) =
      table.rows.filter
        (fun other => other.position = holding.position ∧ other.quantity ≠ 0) := by
    have elsewhere (other : Holding) (otherMem : other ∈ table.rows)
        (replaced : other.id = changed.id) : other.position ≠ holding.position := by
      rw [table.eq_of_key_eq otherMem stored (replaced.trans sameId)]
      exact ne.symm
    have changedElsewhere : changed.position ≠ holding.position :=
      samePosition ▸ ne.symm
    have sameChoice (other : Holding) (otherMem : other ∈ table.rows) :
        decide ((if other.id = changed.id then changed else other).position =
            holding.position ∧ (if other.id = changed.id then changed else other).quantity ≠ 0) =
          decide (other.position = holding.position ∧ other.quantity ≠ 0) := by
      split
      · rename_i replaced
        simp [changedElsewhere, elsewhere other otherMem replaced]
      · rfl
    have keptRow (other : Holding) (otherMem : other ∈ table.rows.filter
        fun other => other.position = holding.position ∧ other.quantity ≠ 0) :
        (if other.id = changed.id then changed else other) = other := by
      rw [List.mem_filter, decide_eq_true_eq] at otherMem
      exact if_neg fun replaced => elsewhere other otherMem.1 replaced otherMem.2.1
    calc (table.save changed).rows.filter
          (fun other => other.position = holding.position ∧ other.quantity ≠ 0)
        = (table.rows.filter fun other =>
            other.position = holding.position ∧ other.quantity ≠ 0).map
              fun other => if other.id = changed.id then changed else other := by
          rw [← List.filter_congr sameChoice]
          exact List.filter_map
      _ = table.rows.filter
            (fun other => other.position = holding.position ∧ other.quantity ≠ 0) := by
          rw [List.map_congr_left keptRow, List.map_id']
  simp only [comparedHoldings, List.mem_filter, latestObservedAt, sameRows] at isMem ⊢
  refine ⟨?_, isMem.2⟩
  rcases Table.mem_save isMem.1 with replaced | kept
  · exact absurd (replaced ▸ samePosition) ne
  · exact kept

/-- In a consistent history the check is exact, on it and on it with another
quantity in the latest snapshot of a position, exactly if the transactions after
the last snapshot with a quantity and the deleted ones leave the quantity, and
if of the snapshots compared after the change one alone is off. -/
theorem quantityCheck_iff (order : ActivityOrder) (holdings : Table Holding Holding.id)
    (last : Holding) (quantity : ℚ)
    (consistent : ConsistentHistory tenantId transactions holdings.rows) :
    (quantityMismatches order tenantId transactions holdings.rows = [] ∧
        (last ∈ holdings.rows → IsLatestSnapshot holdings.rows last →
          Modeled (chronological tenantId transactions last.position) →
          quantityTolerance < |quantity - last.quantity| →
          ∃ issue, quantityMismatches order tenantId transactions
              (holdings.save { last with quantity }).rows = [issue] ∧
            issue.position = some last.position)) ↔
      (∀ holding ∈ comparedHoldings holdings.rows,
          Known tenantId transactions holding.position →
          Modeled (chronological tenantId transactions holding.position) →
          |quantityAt tenantId transactions holding.position holding.observedAt -
              netQuantity (chronological tenantId transactions holding.position)| ≤
            quantityTolerance) ∧
        (last ∈ holdings.rows → IsLatestSnapshot holdings.rows last →
          Modeled (chronological tenantId transactions last.position) →
          quantityTolerance < |quantity - last.quantity| →
          Known tenantId transactions last.position ∧
            (comparedHoldings (holdings.save { last with quantity }).rows).countP
              (fun holding => holding.position = last.position ∧
                Apart tenantId transactions holding) = 1) := by
  have accepted : quantityMismatches order tenantId transactions holdings.rows = [] ↔ _ :=
    quantityMismatches_eq_nil_iff order consistent.distinctTimes
  have shown : (∀ holding ∈ comparedHoldings holdings.rows,
      Known tenantId transactions holding.position →
      Modeled (chronological tenantId transactions holding.position) →
        ¬ Apart tenantId transactions holding) ↔ _ :=
    forall₂_congr fun holding isMem => by
      rw [Apart, not_lt, consistent.quantities holding (List.mem_filter.mp isMem).1]
  rw [accepted, ← shown]
  apply and_congr_right
  intro clean
  apply forall₄_congr
  intro stored _ modeled _
  apply oneMismatch_iff order consistent.distinctTimes modeled
  intro holding compared ne
  exact clean holding
    (mem_comparedHoldings_of_save stored { last with quantity } rfl rfl compared ne)

end Check

/-! ## A sold position -/

def sharesTraded (id : Uuid) (transactionType : TransactionType) (occurredAt : Instant) :
    Transaction :=
  { id, tenantId := 1, accountId := 2, securityId := some 3, transactionType, amount := -100,
    quantity := some 10, currencyCode := "EUR", occurredAt }

/-- Ten shares are bought and sold. -/
def sharesSold : List Transaction := [sharesTraded 1 .purchase 1, sharesTraded 2 .sale 5]

def sharesHeld (id : Uuid) (observedAt : Instant) (quantity : ℚ) : Holding :=
  { id, accountId := 2, securityId := 3, observedAt, quantity, marketValue := none,
    currencyCode := "EUR", source := .providerSync }

/-- A snapshot before the sale, and the marker that closes the position. -/
def sharesHistory : Table Holding Holding.id :=
  (Table.empty.insert (sharesHeld 0 2 10) rfl).insert (sharesHeld 1 6 0) rfl

theorem quantityCheck_iff_sold :
    (quantityMismatches (OrderBy.stable _) 1 sharesSold sharesHistory.rows = [] ∧
        (sharesHeld 1 6 0 ∈ sharesHistory.rows →
          IsLatestSnapshot sharesHistory.rows (sharesHeld 1 6 0) →
          Modeled (chronological 1 sharesSold (2, 3)) →
          quantityTolerance < |(4 : ℚ) - 0| →
          ∃ issue, quantityMismatches (OrderBy.stable _) 1 sharesSold
              (sharesHistory.save (sharesHeld 1 6 4)).rows = [issue] ∧
            issue.position = some (2, 3))) ↔
      (∀ holding ∈ comparedHoldings sharesHistory.rows,
          Known 1 sharesSold holding.position →
          Modeled (chronological 1 sharesSold holding.position) →
          |quantityAt 1 sharesSold holding.position holding.observedAt -
              netQuantity (chronological 1 sharesSold holding.position)| ≤
            quantityTolerance) ∧
        (sharesHeld 1 6 0 ∈ sharesHistory.rows →
          IsLatestSnapshot sharesHistory.rows (sharesHeld 1 6 0) →
          Modeled (chronological 1 sharesSold (2, 3)) →
          quantityTolerance < |(4 : ℚ) - 0| →
          Known 1 sharesSold (2, 3) ∧
            (comparedHoldings (sharesHistory.save (sharesHeld 1 6 4)).rows).countP
              (fun holding => holding.position = (2, 3) ∧ Apart 1 sharesSold holding) = 1) :=
  quantityCheck_iff (OrderBy.stable _) sharesHistory (sharesHeld 1 6 0) 4
    ⟨by decide +kernel, by decide +kernel, by decide +kernel⟩

/-- Of a position that is sold, the check compares the snapshot before the sale. -/
theorem soldPosition_mismatch :
    ConsistentHistory 1 sharesSold sharesHistory.rows ∧
      quantityMismatches (OrderBy.stable _) 1 sharesSold sharesHistory.rows ≠ [] := by
  constructor
  · exact ⟨by decide +kernel, by decide +kernel, by decide +kernel⟩
  · rw [← List.length_pos_iff]
    decide +kernel

end FinanceSync.Portfolio
