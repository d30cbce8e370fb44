import FinanceSync.Persistence.BulkStatements

/-!
# Repeated ids in a batch

Overlapping pages of a provider deliver a transaction more than once.  A statement
may not write a row a second time, so a chunk with a repeated id is rejected where
the earlier element inserts or changes its row.
-/

namespace FinanceSync.Persistence

open Lib

section Statement

variable {Key Rest : Type} [DecidableEq Key] {statement : UpsertStatement Rest}
  {entities : Entities Key Rest}

/-- A row that a statement admits does what it does alone. -/
theorem upsertRow_of_admitted {written : List Uuid} {key : Key} {incoming : Attributes}
    {result : Entities Key Rest × Outcome}
    (admitted : upsertRow statement entities written key incoming = .ok result) :
    upsertRow statement entities [] key incoming = .ok result := by
  rw [upsertRow] at admitted ⊢
  split at admitted
  · exact admitted
  · next existing found =>
      split at admitted
      · cases admitted
      · rw [if_neg List.not_mem_nil]
        exact admitted

theorem collect_of_admitted (rows : List (Key × Attributes)) :
    ∀ {state last : Entities Key Rest × List Uuid} {outcomes : List Outcome},
      collect (upsertStep statement) state rows = .ok (last, outcomes) →
      collect (upsertEach statement) state.1 rows = .ok (last.1, outcomes) := by
  induction rows with
  | nil =>
      intro state last outcomes collected
      cases collected
      rfl
  | cons row rows ih =>
      intro state last outcomes collected
      obtain ⟨next, outcome, others, stepped, collectedRest, isOutcomes⟩ :=
        collect_cons_ok.mp collected
      have alone := upsertRow_of_admitted (upsertStep_ok.mp stepped).1
      exact collect_cons_ok.mpr
        ⟨next.1, outcome, others, alone, ih collectedRest, isOutcomes⟩

/-- A statement that is admitted does what its rows do one after the other. -/
theorem upsertRows_of_admitted {rows : List (Key × Attributes)} {last : Entities Key Rest}
    {outcomes : List Outcome}
    (admitted : upsertRows statement entities rows = .ok (last, outcomes)) :
    collect (upsertEach statement) entities rows = .ok (last, outcomes) := by
  obtain ⟨⟨state, collected⟩, ok, returned⟩ := bind_eq_ok.mp admitted
  cases returned
  exact collect_of_admitted rows ok

end Statement

section Batch

variable (tenantId : Uuid) (connectionId : Option Uuid)

/-- The elements one by one, each in a batch of its own. -/
def persistOneByOne (transactions : Transactions) (batch : List BatchElement) :
    Except PersistError (Transactions × List (List Outcome)) :=
  collect (fun transactions element =>
    persistTransactionsBatch transactions tenantId connectionId [element]) transactions batch

/-- The batch completes, and the table is what the elements leave one by one. -/
def PersistsInOrder (transactions : Transactions) (batch : List BatchElement) : Prop :=
  ∃ last outcomes results,
    persistTransactionsBatch transactions tenantId connectionId batch = .ok (last, outcomes) ∧
      persistOneByOne tenantId connectionId transactions batch = .ok (last, results)

/-- Of the elements of a chunk with one key only the last inserts or changes a row,
in the table that the chunks before have left. -/
def WriteOnce : Transactions → List (List BatchElement) → Prop
  | _, [] => True
  | transactions, chunk :: rest =>
      WritesOnce transactionUpsert transactions
          (chunk.map fun element => sentRow tenantId connectionId (element, chunkNames chunk)) ∧
        ∀ next outcomes, upsertChunk transactions (chunk.map (elementRow tenantId connectionId)) =
          .ok (next, outcomes) → WriteOnce next rest

/-- The elements of a chunk have the extension fields of its first one. -/
def UniformChunks (batch : List BatchElement) : Prop :=
  ∀ chunk ∈ chunks batch, ∀ element ∈ chunk, chunkNames [element] = chunkNames chunk

variable {tenantId connectionId} {transactions : Transactions}

theorem upsertChunk_isOk_iff {chunk : List BatchElement} :
    (∃ result, upsertChunk transactions (chunk.map (elementRow tenantId connectionId)) =
        .ok result) ↔
      (∀ element ∈ chunk, ∀ field ∈ chunkNames chunk,
        (transactionRow element.transaction element.securityId field).isSome) ∧
      WritesOnce transactionUpsert transactions
        (chunk.map fun element => sentRow tenantId connectionId (element, chunkNames chunk)) := by
  rw [← upsertRows_isOk_iff, upsertChunk, multiValues_chunk]
  split
  · next even => exact (and_iff_right even).symm
  · next uneven =>
      constructor
      · rintro ⟨result, admitted⟩
        cases admitted
      · rintro ⟨even, -⟩
        exact absurd even uneven

/-- The statements are admitted where the chunks are even and write every row once. -/
theorem collect_upsertChunk_isOk_iff (batches : List (List BatchElement)) :
    ∀ transactions : Transactions,
      (∃ result, collect upsertChunk transactions
          (batches.map (List.map (elementRow tenantId connectionId))) = .ok result) ↔
        (∀ chunk ∈ batches, ∀ element ∈ chunk, ∀ field ∈ chunkNames chunk,
          (transactionRow element.transaction element.securityId field).isSome) ∧
        WriteOnce tenantId connectionId transactions batches := by
  induction batches with
  | nil =>
      intro transactions
      simp [WriteOnce]
  | cons chunk rest ih =>
      intro transactions
      rw [List.map_cons, collect_cons_isOk_iff, List.forall_mem_cons, WriteOnce]
      constructor
      · rintro ⟨next, outcomes, admitted, more⟩
        obtain ⟨even, once⟩ := upsertChunk_isOk_iff.mp ⟨_, admitted⟩
        obtain ⟨evenRest, onceRest⟩ := (ih next).mp more
        refine ⟨⟨even, evenRest⟩, once, ?_⟩
        intro other results same
        rw [admitted] at same
        cases same
        exact onceRest
      · rintro ⟨⟨even, evenRest⟩, once, onceRest⟩
        obtain ⟨⟨next, outcomes⟩, admitted⟩ := upsertChunk_isOk_iff.mpr ⟨even, once⟩
        exact ⟨next, outcomes, admitted,
          (ih next).mpr ⟨evenRest, onceRest next outcomes admitted⟩⟩

theorem persistTransactionsBatch_ok {batch : List BatchElement} {last : Transactions}
    {outcomes : List Outcome} :
    persistTransactionsBatch transactions tenantId connectionId batch = .ok (last, outcomes) ↔
      ∃ byChunk, collect upsertChunk transactions
        ((chunks batch).map (List.map (elementRow tenantId connectionId))) =
          .ok (last, byChunk) ∧ outcomes = byChunk.flatten := by
  rw [← chunks_map]
  constructor
  · intro persisted
    obtain ⟨⟨state, byChunk⟩, collected, returned⟩ := bind_eq_ok.mp persisted
    cases returned
    exact ⟨byChunk, collected, rfl⟩
  · rintro ⟨byChunk, collected, rfl⟩
    exact bind_eq_ok.mpr ⟨_, collected, rfl⟩

theorem chunks_singleton (element : BatchElement) : chunks [element] = [[element]] := by
  simp [chunks, chunkSize]

/-- An element on its own is upserted with its own extension fields. -/
theorem persist_single (transactions : Transactions) (element : BatchElement) :
    persistTransactionsBatch transactions tenantId connectionId [element] =
      (upsertEach transactionUpsert transactions
        (sentRow tenantId connectionId (element, chunkNames [element]))).map
          fun (next, outcome) => (next, [outcome]) := by
  have even : EvenChunks [element] := by
    intro chunk chunkMem other otherMem field named
    rw [chunks_singleton] at chunkMem
    have isChunk : chunk = [element] := List.mem_singleton.mp chunkMem
    rw [isChunk] at otherMem named
    rw [List.mem_singleton.mp otherMem]
    exact (List.mem_filter.mp named).2
  rw [persistTransactionsBatch_eq tenantId connectionId (List.pairwise_singleton _ _) even]
  have names : withNames [element] = [(element, chunkNames [element])] := by
    rw [withNames, chunks_singleton]
    rfl
  rw [names, collect]
  cases upsertEach transactionUpsert transactions
      (sentRow tenantId connectionId (element, chunkNames [element])) with
  | error error => rfl
  | ok result => rfl

/-- A chunk of uniform elements leaves what its elements leave one by one. -/
theorem oneByOne_of_chunk {chunk : List BatchElement}
    (uniform : ∀ element ∈ chunk, chunkNames [element] = chunkNames chunk) {next : Transactions}
    {outcomes : List Outcome}
    (admitted : upsertChunk transactions (chunk.map (elementRow tenantId connectionId)) =
      .ok (next, outcomes)) :
    ∃ results, persistOneByOne tenantId connectionId transactions chunk = .ok (next, results) := by
  rw [upsertChunk, multiValues_chunk] at admitted
  split at admitted
  · have collected := upsertRows_of_admitted admitted
    rw [collect_map] at collected
    apply collect_ok_of_step chunk _ collected
    intro state element elementMem last outcome stepped
    rw [persist_single, uniform element elementMem, stepped]
    exact ⟨[outcome], rfl⟩
  · cases admitted

end Batch

/-- A batch that persists in order is even and writes every row once in each chunk;
for uniform chunks nothing else is needed. -/
theorem persistsInOrder_iff (tenantId : Uuid) (connectionId : Option Uuid)
    (transactions : Transactions) (batch : List BatchElement) :
    (PersistsInOrder tenantId connectionId transactions batch →
      EvenChunks batch ∧ WriteOnce tenantId connectionId transactions (chunks batch)) ∧
    (UniformChunks batch → (PersistsInOrder tenantId connectionId transactions batch ↔
      WriteOnce tenantId connectionId transactions (chunks batch))) := by
  have admitted : PersistsInOrder tenantId connectionId transactions batch →
      EvenChunks batch ∧ WriteOnce tenantId connectionId transactions (chunks batch) := by
    rintro ⟨last, outcomes, results, persisted, -⟩
    obtain ⟨byChunk, collected, -⟩ := persistTransactionsBatch_ok.mp persisted
    exact (collect_upsertChunk_isOk_iff _ _).mp ⟨_, collected⟩
  refine ⟨admitted, fun uniform => ⟨fun persists => (admitted persists).2, fun once => ?_⟩⟩
  have even : EvenChunks batch := by
    intro chunk chunkMem element elementMem field named
    rw [← uniform chunk chunkMem element elementMem] at named
    exact (List.mem_filter.mp named).2
  obtain ⟨⟨last, byChunk⟩, collected⟩ := (collect_upsertChunk_isOk_iff _ _).mpr ⟨even, once⟩
  have persisted := persistTransactionsBatch_ok.mpr ⟨byChunk, collected, rfl⟩
  rw [collect_map] at collected
  obtain ⟨results, oneByOne⟩ := collect_ok_of_step (chunks batch)
    (fun state chunk chunkMem next outcomes stepped =>
      oneByOne_of_chunk (uniform chunk chunkMem) stepped) collected
  refine ⟨last, _, results.flatten, persisted, ?_⟩
  rw [persistOneByOne, ← flatten_chunks batch, collect_flatten]
  have same : collect (collect fun transactions element =>
      persistTransactionsBatch transactions tenantId connectionId [element]) transactions
        (chunks batch) = .ok (last, results) := oneByOne
  rw [same]
  rfl

/-- A payment that two pages of a provider deliver. -/
def repeatedPayment : BatchElement where
  transaction :=
    { providerKey := "bunq", externalTransactionId := "1", amount := -12
      occurredAt := ⟨0, 0⟩, transactionType := "payment", status := "booked" }
  securityId := none

/-- A new payment that occurs twice aborts the batch, one by one it is stored. -/
theorem repeatedPayment_aborts :
    ¬PersistsInOrder 0 none .empty [repeatedPayment, repeatedPayment] ∧
      ∃ result, persistOneByOne 0 none .empty [repeatedPayment, repeatedPayment] =
        .ok result := by
  constructor
  · rintro ⟨last, outcomes, -, persisted, -⟩
    have rejected : (persistTransactionsBatch .empty 0 none
        [repeatedPayment, repeatedPayment]).toBool = false := by decide +kernel
    rw [persisted] at rejected
    cases rejected
  · have stored : (persistOneByOne 0 none .empty
        [repeatedPayment, repeatedPayment]).toBool = true := by decide +kernel
    cases persisted : persistOneByOne 0 none .empty [repeatedPayment, repeatedPayment] with
    | ok result => exact ⟨result, rfl⟩
    | error error =>
        rw [persisted] at stored
        cases stored

end FinanceSync.Persistence
