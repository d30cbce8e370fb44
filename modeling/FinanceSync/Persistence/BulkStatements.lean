import FinanceSync.Persistence.ColumnAgreement

/-!
# The statements of a bulk upsert

A batch is cut into chunks, and a chunk is one `INSERT ... ON CONFLICT` statement
that names the extension fields of its first row.  For different external ids the
statements do what their rows do one after the other.
-/

namespace FinanceSync.Persistence

open Lib

/-! ## The statements of a batch -/

/-- The extension fields that the statement for a chunk names: those of its first
row. -/
def chunkNames : List BatchElement → List Field
  | [] => []
  | first :: _ => namedExtensions (transactionRow first.transaction first.securityId)

/-- Every element has a value for each extension field that its statement names. -/
def EvenChunks (batch : List BatchElement) : Prop :=
  ∀ chunk ∈ chunks batch, ∀ element ∈ chunk, ∀ field ∈ chunkNames chunk,
    (transactionRow element.transaction element.securityId field).isSome

instance (batch : List BatchElement) : Decidable (EvenChunks batch) :=
  inferInstanceAs (Decidable (∀ chunk ∈ chunks batch, ∀ element ∈ chunk, ∀ field ∈ _, _))

/-- The elements of a batch with the extension fields that their statements
name. -/
def withNames (batch : List BatchElement) : List (BatchElement × List Field) :=
  (chunks batch).flatMap fun chunk => chunk.map fun element => (element, chunkNames chunk)

theorem flatMap_slices {Row : Type} (rows : List Row) (count : Nat) :
    (List.range count).flatMap (fun index => (rows.drop (chunkSize * index)).take chunkSize) =
      rows.take (chunkSize * count) := by
  induction count with
  | zero => simp
  | succ count ih =>
      rw [List.range_succ, List.flatMap_append, ih, List.flatMap_singleton,
        Nat.mul_succ, List.take_add]

/-- The chunks of a batch are the batch. -/
theorem flatten_chunks {Row : Type} (rows : List Row) : (chunks rows).flatten = rows := by
  rw [chunks, ← List.flatMap_def, flatMap_slices, List.take_of_length_le]
  rw [chunkSize]
  omega

theorem chunks_map {Row Other : Type} (toOther : Row → Other) (rows : List Row) :
    chunks (rows.map toOther) = (chunks rows).map (List.map toOther) := by
  simp only [chunks, List.map_map, List.length_map]
  apply List.map_congr_left
  intro index _
  simp

theorem map_fst_withNames (batch : List BatchElement) :
    (withNames batch).map Prod.fst = batch := by
  conv_rhs => rw [← flatten_chunks batch]
  rw [withNames, List.map_flatMap, ← List.flatMap_id]
  apply List.flatMap_congr
  intro chunk _
  simp [Function.comp_def]

theorem sublist_of_mem_chunks {Row : Type} {rows chunk : List Row}
    (isMem : chunk ∈ chunks rows) : chunk.Sublist rows := by
  obtain ⟨index, -, rfl⟩ := List.mem_map.mp isMem
  exact (List.take_sublist _ _).trans (List.drop_sublist _ _)

section Batch

variable (tenantId : Uuid) (connectionId : Option Uuid)

/-- The row dict of an element. -/
def elementRow (element : BatchElement) : ProviderKey × Attributes :=
  (transactionKey tenantId connectionId element.transaction,
    transactionRow element.transaction element.securityId)

/-- The row that a statement with the named extension fields sends for an
element. -/
def sentRow (element : BatchElement × List Field) : ProviderKey × Attributes :=
  (transactionKey tenantId connectionId element.1.transaction,
    sentByBatch element.1.transaction element.1.securityId element.2)

theorem multiValues_chunk (chunk : List BatchElement) :
    multiValues (chunk.map (elementRow tenantId connectionId)) =
      if ∀ element ∈ chunk, ∀ field ∈ chunkNames chunk,
          (transactionRow element.transaction element.securityId field).isSome then
        .ok (chunk.map fun element => sentRow tenantId connectionId (element, chunkNames chunk))
      else .error .unevenValues := by
  cases chunk with
  | nil => simp [multiValues]
  | cons first rest =>
      have ownNames : ∀ field ∈ chunkNames (first :: rest),
          (transactionRow first.transaction first.securityId field).isSome :=
        fun field isMem => (List.mem_filter.mp isMem).2
      have even : (rest.map (elementRow tenantId connectionId)).all (fun row =>
            (namedExtensions (elementRow tenantId connectionId first).2).all fun field =>
              (row.2 field).isSome) = true ↔
          ∀ element ∈ first :: rest, ∀ field ∈ chunkNames (first :: rest),
            (transactionRow element.transaction element.securityId field).isSome := by
        rw [List.forall_mem_cons, and_iff_right ownNames]
        simp [elementRow, chunkNames]
      rw [List.map_cons, multiValues]
      by_cases allNamed : ∀ element ∈ first :: rest, ∀ field ∈ chunkNames (first :: rest),
          (transactionRow element.transaction element.securityId field).isSome
      · rw [if_pos (even.mpr allNamed), if_pos allNamed, ← List.map_cons, List.map_map]
        rfl
      · rw [if_neg fun all => allNamed (even.mp all), if_neg allNamed]

/-- The external ids of the elements differ. -/
def DistinctIds (batch : List BatchElement) : Prop :=
  batch.Pairwise fun first second =>
    first.transaction.externalTransactionId ≠ second.transaction.externalTransactionId

/-- A statement for elements with different external ids upserts them one after
the other. -/
theorem upsertChunk_eq {transactions : Transactions} {chunk : List BatchElement}
    (distinct : DistinctIds chunk)
    (even : ∀ element ∈ chunk, ∀ field ∈ chunkNames chunk,
      (transactionRow element.transaction element.securityId field).isSome) :
    upsertChunk transactions (chunk.map (elementRow tenantId connectionId)) =
      collect (upsertEach transactionUpsert) transactions
        (chunk.map fun element => sentRow tenantId connectionId (element, chunkNames chunk)) := by
  rw [upsertChunk, multiValues_chunk, if_pos even]
  change upsertRows transactionUpsert transactions _ = _
  apply upsertRows_eq_collect
  apply List.Pairwise.map _ _ distinct
  intro first second apart sameKey
  exact apart (congrArg ProviderKey.externalId sameKey)

/-- A batch whose chunks are even upserts its elements one after the other. -/
theorem persistTransactionsBatch_eq {transactions : Transactions} {batch : List BatchElement}
    (distinct : DistinctIds batch) (even : EvenChunks batch) :
    persistTransactionsBatch transactions tenantId connectionId batch =
      collect (fun transactions element =>
          upsertEach transactionUpsert transactions (sentRow tenantId connectionId element))
        transactions (withNames batch) := by
  have byChunk : collect upsertChunk transactions
        (chunks (batch.map (elementRow tenantId connectionId))) =
      collect (collect (upsertEach transactionUpsert)) transactions
        ((chunks batch).map fun chunk => chunk.map fun element =>
          sentRow tenantId connectionId (element, chunkNames chunk)) := by
    rw [chunks_map, collect_map, collect_map]
    apply collect_congr
    intro transactions chunk chunkMem
    apply upsertChunk_eq tenantId connectionId _ (even chunk chunkMem)
    exact distinct.sublist (sublist_of_mem_chunks chunkMem)
  have flat : ((chunks batch).map fun chunk => chunk.map fun element =>
        sentRow tenantId connectionId (element, chunkNames chunk)).flatten =
      (withNames batch).map (sentRow tenantId connectionId) := by
    rw [← List.flatMap_def, withNames, List.map_flatMap]
    simp [Function.comp_def]
  rw [← collect_map, ← flat, collect_flatten, ← byChunk]
  change (collect upsertChunk transactions
    (chunks (batch.map (elementRow tenantId connectionId))) >>= _) = _
  cases collect upsertChunk transactions
      (chunks (batch.map (elementRow tenantId connectionId))) with
  | error error => rfl
  | ok collected => rfl

/-- A batch with a chunk that is not even is rejected. -/
theorem persistTransactionsBatch_uneven {batch : List BatchElement} (uneven : ¬ EvenChunks batch)
    (transactions : Transactions) :
    ∃ error, persistTransactionsBatch transactions tenantId connectionId batch =
      .error error := by
  rw [EvenChunks] at uneven
  push Not at uneven
  obtain ⟨chunk, chunkMem, element, elementMem, field, fieldMem, missing⟩ := uneven
  have isMem : chunk.map (elementRow tenantId connectionId) ∈
      chunks (batch.map (elementRow tenantId connectionId)) := by
    rw [chunks_map]
    exact List.mem_map_of_mem chunkMem
  have fails : ∀ transactions, ∃ error,
      upsertChunk transactions (chunk.map (elementRow tenantId connectionId)) =
        .error error := by
    intro transactions
    refine ⟨.unevenValues, ?_⟩
    rw [upsertChunk, multiValues_chunk, if_neg]
    · rfl
    · intro even
      exact missing (even element elementMem field fieldMem)
  obtain ⟨error, failed⟩ := collect_fails_of_mem isMem fails transactions
  exact ⟨error, bind_eq_error.mpr (.inl failed)⟩

end Batch

end FinanceSync.Persistence
