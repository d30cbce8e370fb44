import FinanceSync.TaxLots.Service

/-!
# Tombstoned transactions and tax lots

A deleted transaction stays in its table with the time of the deletion and the
status of a cancelled one.  The rebuild of the tax lots selects transactions by
tenant, type and security only, so a tombstoned transaction is replayed like any
other.
-/

namespace FinanceSync.TaxLots

open Lib

/-! ## The stored transactions -/

/-- A transaction with the columns that a tombstone writes. -/
structure TransactionRow where
  tenantId : Uuid
  providerKey : String
  externalTransactionId : String
  columns : Transaction
  status : TransactionStatus := .booked
  tombstonedAt : Option Instant := none
  revision : Nat := 0

def TransactionRow.id (row : TransactionRow) : Uuid := row.columns.id

/-- What `tombstone_transaction` writes on the row. -/
def TransactionRow.tombstoned (row : TransactionRow) (now : Instant) : TransactionRow :=
  { row with
    tombstonedAt := some now
    status := .cancelled
    revision := row.revision + 1 }

structure TombstoneEvent where
  tenantId : Uuid
  transactionId : Uuid
  eventType : String := "tombstone"
  idempotencyKey : String
  reason : String := "explicit_user_delete"
  provenance : String := "user_override"
  actor : Option String
  sourceRevision : Nat

structure History where
  transactions : Table TransactionRow TransactionRow.id
  events : List TombstoneEvent := []

namespace History

/-- Soft-delete a transaction while retaining its source history. -/
def tombstoneTransaction (history : History) (tenantId transactionId : Uuid)
    (actor : Option String) (now : Instant) : History × Option TransactionRow :=
  match history.transactions.rows.find? fun row => row.id = transactionId with
  | none => (history, none)
  | some entity =>
      if entity.tenantId ≠ tenantId then (history, none)
      else if entity.tombstonedAt.isSome then (history, some entity)
      else
        let tombstoned := entity.tombstoned now
        let event : TombstoneEvent :=
          { tenantId
            transactionId := tombstoned.id
            idempotencyKey :=
              tombstoned.providerKey ++ ":" ++ tombstoned.externalTransactionId ++
                ":tombstone:" ++ toString tombstoned.revision
            actor
            sourceRevision := tombstoned.revision }
        ({ transactions := history.transactions.save tombstoned
           events := history.events ++ [event] },
          some tombstoned)

/-- The history as it would be without the transaction. -/
def without (history : History) (transactionId : Uuid) : History :=
  { history with transactions := history.transactions.keep fun row => row.id ≠ transactionId }

/-- What the rebuild reads of the tenant's transactions. -/
def stored (history : History) (tenantId : Uuid) : List Transaction :=
  (history.transactions.rows.filter fun row => row.tenantId = tenantId).map
    TransactionRow.columns

/-- `compute_all_tax_lots` of a tenant. -/
def taxLots (history : History) (order : AcquisitionOrder) (costBasisMethod : CostBasisMethod)
    (tenantId : Uuid) : Rebuild :=
  computeAllTaxLots order costBasisMethod (history.stored tenantId)

/-- A tombstone leaves everything that the rebuild reads as it is. -/
theorem stored_tombstoneTransaction (history : History) (tenantId transactionId : Uuid)
    (actor : Option String) (now : Instant) (reader : Uuid) :
    (history.tombstoneTransaction tenantId transactionId actor now).1.stored reader =
      history.stored reader := by
  unfold tombstoneTransaction
  split
  · rfl
  · next entity found =>
      have entityMem := List.mem_of_find?_eq_some found
      split
      · rfl
      · split
        · rfl
        · simp only [stored, Table.save, List.filter_map, List.map_map]
          have sameFilter : history.transactions.rows.filter
              ((fun row => decide (row.tenantId = reader)) ∘ fun row =>
                if row.id = (entity.tombstoned now).id then entity.tombstoned now else row) =
              history.transactions.rows.filter fun row => row.tenantId = reader := by
            apply List.filter_congr
            intro row rowMem
            rw [Function.comp_apply]
            split
            · next same =>
                rw [history.transactions.eq_of_key_eq rowMem entityMem same]
                rfl
            · rfl
          rw [sameFilter]
          apply List.map_congr_left
          intro row rowMem
          rw [Function.comp_apply]
          split
          · next same =>
              rw [history.transactions.eq_of_key_eq (List.mem_filter.mp rowMem).1 entityMem same]
              rfl
          · rfl

end History

/-! ## What two rebuilds have in common -/

def TaxLot.withId (rename : Uuid → Uuid) (lot : TaxLot) : TaxLot :=
  { lot with id := rename lot.id }

/-- The same lots up to their ids, and the same statistics. -/
def SameRebuild (first second : Rebuild) : Prop :=
  (∃ rename : Uuid → Uuid, Function.Injective rename ∧
    (first.lots.rows.map (TaxLot.withId rename)).Perm second.lots.rows) ∧
  first.stats = second.stats

theorem SameRebuild.refl (state : Rebuild) : SameRebuild state state := by
  refine ⟨⟨id, Function.injective_id, ?_⟩, rfl⟩
  have same : TaxLot.withId id = id := rfl
  rw [same, List.map_id]

/-- The transactions that a rebuild goes through. -/
def Replayed (transaction : Transaction) : Prop :=
  transaction.transactionType ∈ replayedTypes ∧ transaction.securityId.isSome

instance (transaction : Transaction) : Decidable (Replayed transaction) :=
  inferInstanceAs (Decidable (_ ∧ _))

theorem transactionsProcessed_count (actions : List Action) :
    ∀ stats : Stats, (actions.foldl Stats.count stats).transactionsProcessed =
      stats.transactionsProcessed := by
  induction actions with
  | nil => intro stats; rfl
  | cons action rest ih =>
      intro stats
      rw [List.foldl_cons, ih]
      cases action <;> rfl

theorem transactionsProcessed_runAll (order : AcquisitionOrder)
    (costBasisMethod : CostBasisMethod) (stored replayed : List Transaction) :
    ∀ state : Rebuild,
      (runAll (replayStep order costBasisMethod stored) state
          replayed).stats.transactionsProcessed =
        state.stats.transactionsProcessed + replayed.length := by
  induction replayed with
  | nil => intro state; rfl
  | cons transaction rest ih =>
      intro state
      rw [runAll_cons, ih]
      simp only [replayStep, rebuildStep, transactionsProcessed_count, List.length_cons]
      omega

/-- A rebuild counts every transaction that it selects. -/
theorem transactionsProcessed_computeAllTaxLots (order : AcquisitionOrder)
    (costBasisMethod : CostBasisMethod) (stored : List Transaction) :
    (computeAllTaxLots order costBasisMethod stored).stats.transactionsProcessed =
      (stored.filter fun transaction => Replayed transaction).length := by
  rw [computeAllTaxLots, transactionsProcessed_runAll]
  have sorted : (replayedTransactions stored).length =
      (stored.filter fun transaction => Replayed transaction).length :=
    ((OrderBy.stable replayKey).perm _).length_eq
  simp [emptyRebuild, sorted]

/-! ## Rebuilds with and without a transaction -/

section Without

variable {history : History} {row : TransactionRow}

/-- Without a transaction that is not replayed, the same ones are. -/
theorem replayed_without (stored : row ∈ history.transactions.rows)
    (notReplayed : ¬ Replayed row.columns) (reader : Uuid) :
    ((history.without row.id).stored reader).filter (fun transaction => Replayed transaction) =
      (history.stored reader).filter fun transaction => Replayed transaction := by
  simp only [History.stored, History.without, Table.keep, List.filter_map, List.filter_filter]
  congr 1
  apply List.filter_congr
  intro other otherMem
  by_cases same : other.id = row.id
  · rw [history.transactions.eq_of_key_eq otherMem stored same]
    simp [notReplayed]
  · simp [same]

theorem length_replayed_without (stored : row ∈ history.transactions.rows)
    (isReplayed : Replayed row.columns) :
    (((history.without row.id).stored row.tenantId).filter fun transaction =>
        Replayed transaction).length + 1 =
      ((history.stored row.tenantId).filter fun transaction => Replayed transaction).length := by
  have selected : row ∈ history.transactions.rows.filter fun other =>
      Replayed other.columns ∧ other.tenantId = row.tenantId :=
    List.mem_filter.mpr ⟨stored, decide_eq_true ⟨isReplayed, rfl⟩⟩
  have counted := Table.length_filter_key_ne
    ((List.filter_sublist.map TransactionRow.id).nodup history.transactions.nodup) selected
  simp only [History.stored, History.without, Table.keep, List.filter_map, List.length_map,
    List.filter_filter, Function.comp_def]
  rw [List.filter_filter] at counted
  simpa [Bool.and_assoc, Bool.and_comm, Bool.and_left_comm] using counted

theorem computeAllTaxLots_congr (order : AcquisitionOrder) (costBasisMethod : CostBasisMethod)
    {stored others : List Transaction}
    (same : stored.filter (fun transaction => Replayed transaction) =
      others.filter fun transaction => Replayed transaction) :
    computeAllTaxLots order costBasisMethod stored =
      computeAllTaxLots order costBasisMethod others := by
  have sameReplayed : replayedTransactions stored = replayedTransactions others :=
    congrArg (OrderBy.stable replayKey).sort same
  simp only [computeAllTaxLots, replayStep, sameReplayed]

/-- A tombstone takes a transaction out of the tax lots exactly if the rebuild
never replayed it. -/
theorem tombstoneTransaction_sameRebuild_iff (order : AcquisitionOrder)
    (costBasisMethod : CostBasisMethod) (history : History) (row : TransactionRow)
    (stored : row ∈ history.transactions.rows) (actor : Option String) (now : Instant) :
    SameRebuild
        ((history.tombstoneTransaction row.tenantId row.id actor now).1.taxLots order
          costBasisMethod row.tenantId)
        ((history.without row.id).taxLots order costBasisMethod row.tenantId) ↔
      ¬ Replayed row.columns := by
  rw [History.taxLots, History.stored_tombstoneTransaction, History.taxLots]
  constructor
  · intro same isReplayed
    have counts := congrArg Stats.transactionsProcessed same.2
    rw [transactionsProcessed_computeAllTaxLots, transactionsProcessed_computeAllTaxLots,
      ← length_replayed_without stored isReplayed] at counts
    omega
  · intro notReplayed
    rw [computeAllTaxLots_congr order costBasisMethod
      (replayed_without stored notReplayed row.tenantId)]
    exact .refl _

end Without

def purchaseRow : TransactionRow :=
  { tenantId := 1, providerKey := "trading212", externalTransactionId := "buy"
    columns :=
      { id := 0, accountId := 1, securityId := some 1, transactionType := .purchase
        amount := ⟨-800, 0⟩, currencyCode := "EUR", quantity := some ⟨8, 0⟩
        occurredAt := Instant.days 1 } }

def saleRow : TransactionRow :=
  { tenantId := 1, providerKey := "trading212", externalTransactionId := "sell"
    columns :=
      { id := 1, accountId := 1, securityId := some 1, transactionType := .sale
        amount := ⟨900, 0⟩, currencyCode := "EUR", quantity := some ⟨8, 0⟩
        occurredAt := Instant.days 2 } }

/-- A purchase of 8 units and their sale. -/
def purchaseAndSale : History where
  transactions := (Table.empty.insert purchaseRow rfl).insert saleRow rfl

theorem saleRow_sameRebuild_iff :
    SameRebuild
        ((purchaseAndSale.tombstoneTransaction 1 1 none (Instant.days 3)).1.taxLots (.stable _)
          .fifo 1)
        ((purchaseAndSale.without 1).taxLots (.stable _) .fifo 1) ↔
      ¬ Replayed saleRow.columns :=
  tombstoneTransaction_sameRebuild_iff (.stable _) .fifo purchaseAndSale saleRow
    (List.mem_append_right _ (List.mem_singleton.mpr rfl)) none (Instant.days 3)

/-- The tombstoned sale still closes the lot. -/
theorem tombstoned_sale_still_closes :
    ¬ SameRebuild
      ((purchaseAndSale.tombstoneTransaction 1 1 none (Instant.days 3)).1.taxLots (.stable _)
        .fifo 1)
      ((purchaseAndSale.without 1).taxLots (.stable _) .fifo 1) := by
  intro same
  exact absurd (congrArg Stats.lotsClosed same.2) (by decide +kernel)

end FinanceSync.TaxLots
