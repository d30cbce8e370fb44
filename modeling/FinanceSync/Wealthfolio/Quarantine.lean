import FinanceSync.Wealthfolio.AccountPush

/-!
# Quarantined transactions

The loop of a push leaves out the transactions that an error isolates and those of Easy
Budgeting.  The repair of missing transactions reads all active ones, so it sends both as soon as
the destination does not name them.
-/

namespace FinanceSync.Wealthfolio

open Lib

/-! ## Chunks -/

theorem mem_of_mem_chunk {Row : Type} {rows chunk : List Row} (isChunk : chunk ∈ chunksOf rows)
    {row : Row} (isMem : row ∈ chunk) : row ∈ rows := by
  obtain ⟨index, _, rfl⟩ := List.mem_map.mp isChunk
  exact List.mem_of_mem_drop (List.mem_of_mem_take isMem)

/-- The rows that are sent are those of the chunks up to the first one that is not accepted. -/
theorem mem_pushChunks_iff {Content : Type} (destination : Destination Content) {row : MappedRow}
    (chunks : List (List MappedRow)) :
    ∀ content : Content, row ∈ (pushChunks destination content chunks).2.1 ↔
      ∃ before chunk after, chunks = before ++ chunk :: after ∧
        Accepts destination content before ∧ row ∈ chunk := by
  induction chunks with
  | nil =>
      intro content
      refine iff_of_false List.not_mem_nil ?_
      rintro ⟨before, chunk, after, split, _⟩
      exact List.append_ne_nil_of_right_ne_nil before (List.cons_ne_nil chunk after) split.symm
  | cons first rest ih =>
      intro content
      have atFirst : row ∈ first → ∃ before chunk after, first :: rest = before ++ chunk :: after ∧
          Accepts destination content before ∧ row ∈ chunk :=
        fun isMem => ⟨[], first, rest, rfl, trivial, isMem⟩
      have onlyFirst (notAccepted : (destination.pushActivities content (first.map Prod.snd)).2 ≠
          .ok 0) : row ∈ first ↔ ∃ before chunk after, first :: rest = before ++ chunk :: after ∧
            Accepts destination content before ∧ row ∈ chunk := by
        refine ⟨atFirst, ?_⟩
        rintro ⟨before, chunk, after, split, accepts, isMem⟩
        cases before with
        | nil =>
            cases split
            exact isMem
        | cons head before =>
            cases split
            exact absurd accepts.1 notAccepted
      rw [pushChunks]
      split
      · next answer =>
          apply onlyFirst
          rw [answer]
          exact fun same => nomatch same
      · next next answer =>
          rw [List.mem_append, ih]
          constructor
          · rintro (isMem | ⟨before, chunk, after, split, accepts, isMem⟩)
            · exact atFirst isMem
            · have split : first :: rest = (first :: before) ++ chunk :: after := by
                rw [split, List.cons_append]
              refine ⟨first :: before, chunk, after, split, ?_, isMem⟩
              rw [Accepts, answer]
              exact ⟨rfl, accepts⟩
          · rintro ⟨before, chunk, after, split, accepts, isMem⟩
            cases before with
            | nil =>
                cases split
                exact .inl isMem
            | cons head before =>
                cases split
                rw [Accepts, answer] at accepts
                exact .inr ⟨before, chunk, after, rfl, accepts.2, isMem⟩
      · next failed notZero answer =>
          apply onlyFirst
          rw [answer]
          intro same
          cases same
          exact notZero rfl

/-! ## The loop -/

section Loop

variable {Content : Type} {context : PushContext} {destination : Destination Content}
  {steps : AccountSteps Content} {source : AccountSource} {window : PushWindow}

theorem of_mem_mapTransactions {account : ExportAccount} {blocked : List String}
    {transactions : List Transaction} :
    ∀ {rows : List MappedRow} {errors : List PushError},
      mapTransactions context account blocked transactions = .ok (rows, errors) →
        ∀ row ∈ rows, row.1 ∈ transactions ∧ row.1.id ∉ blocked := by
  induction transactions with
  | nil =>
      intro rows errors mapped row isMem
      cases mapped
      cases isMem
  | cons txn rest ih =>
      intro rows errors mapped row isMem
      have later {others : List MappedRow} {reported : List PushError}
          (mappedRest : mapTransactions context account blocked rest = .ok (others, reported))
          (inRest : row ∈ others) : row.1 ∈ txn :: rest ∧ row.1.id ∉ blocked :=
        (ih mappedRest row inRest).imp_left (List.mem_cons_of_mem txn)
      rw [mapTransactions] at mapped
      split at mapped
      · exact later mapped isMem
      · next free =>
          split at mapped
          · obtain ⟨⟨others, reported⟩, mappedRest, isRows⟩ := bind_eq_ok.mp mapped
            cases isRows
            obtain rfl | inRest := List.mem_cons.mp isMem
            · exact ⟨List.mem_cons_self, free⟩
            · exact later mappedRest inRest
          · cases mapped
            cases isMem
          · cases mapped
            cases isMem
          · obtain ⟨⟨others, reported⟩, mappedRest, isRows⟩ := bind_eq_ok.mp mapped
            cases isRows
            exact later mappedRest isMem
          · cases mapped

theorem limitedTransactions_sublist :
    (limitedTransactions context source window).Sublist
      (windowTransactions context source window) := by
  rw [limitedTransactions]
  split
  · exact List.take_sublist _ _
  · exact List.Sublist.refl _

theorem nodup_fetched (condition : Transaction → Bool) :
    ((context.order.sort (source.transactions.filter condition)).map (·.id)).Nodup := by
  rw [((context.order.perm _).map _).nodup_iff]
  exact (List.filter_sublist.map _).nodup source.nodup

/-- A transaction of the loop is one of the account, and not one of Easy Budgeting. -/
theorem of_mem_limited {txn : Transaction}
    (isMem : txn ∈ limitedTransactions context source window) :
    txn ∈ source.transactions ∧ isBunqEasyBudgetingTransaction txn = false := by
  have inWindow := limitedTransactions_sublist.mem isMem
  obtain ⟨fetched, notEasy⟩ := List.mem_filter.mp inWindow
  have stored := context.order.mem_sort.mp fetched
  rw [Bool.not_eq_true'] at notEasy
  exact ⟨(List.mem_filter.mp stored).1, notEasy⟩

theorem nodup_limited : ((limitedTransactions context source window).map (·.id)).Nodup :=
  ((limitedTransactions_sublist.trans List.filter_sublist).map _).nodup (nodup_fetched _)

/-- What the loop sends are rows of transactions that nothing isolates. -/
theorem of_mem_mapped {rows : List MappedRow} {errors : List PushError}
    (mapped : mappedTransactions context source window = .ok (rows, errors)) {row : MappedRow}
    (isMem : row ∈ rows) : row.1 ∈ source.transactions ∧ ¬ Quarantined row.1 ∧
      isBunqEasyBudgetingTransaction row.1 = false := by
  obtain ⟨limited, free⟩ := of_mem_mapTransactions mapped row isMem
  obtain ⟨stored, notEasy⟩ := of_mem_limited limited
  refine ⟨stored, fun quarantined => free ?_, notEasy⟩
  obtain ⟨finding, inStream, isError, isNamed⟩ :=
    (error_names_iff nodup_limited limited).mpr quarantined
  rw [← isNamed]
  exact List.mem_map_of_mem (List.mem_filter.mpr ⟨inStream, decide_eq_true isError⟩)

theorem finishImport_sent (content : Content) (sent : List Transaction)
    (errors : List PushError) : (finishImport steps content sent errors).sent = sent := by
  rw [finishImport]
  split
  · rfl
  · split
    · rfl
    · rfl

theorem of_mem_importRows {content : Content} {rows : List MappedRow} {errors : List PushError}
    {txn : Transaction}
    (isSent : txn ∈ (importRows destination steps content rows errors).sent) :
    ∃ row ∈ rows, row.1 = txn := by
  have pushed : txn ∈ (pushChunks destination content (chunksOf rows)).2.1.map Prod.fst := by
    rw [importRows] at isSent
    split at isSent
    · next answer => rwa [answer]
    · next answer => rwa [answer]
    · next answer =>
        rw [finishImport_sent] at isSent
        rwa [answer]
  obtain ⟨row, isRow, isTxn⟩ := List.mem_map.mp pushed
  obtain ⟨before, chunk, after, split, _, inChunk⟩ :=
    (mem_pushChunks_iff destination (chunksOf rows) content).mp isRow
  refine ⟨row, mem_of_mem_chunk ?_ inChunk, isTxn⟩
  rw [split]
  exact List.mem_append_right before List.mem_cons_self

/-- The loop sends no transaction that is isolated or one of Easy Budgeting. -/
theorem of_mem_imported {content : Content} {txn : Transaction}
    (isSent : txn ∈ (importAccount context destination steps source window content).sent) :
    txn ∈ source.transactions ∧ ¬ Quarantined txn ∧
      isBunqEasyBudgetingTransaction txn = false := by
  rw [importAccount] at isSent
  split at isSent
  · cases isSent
  · dsimp only at isSent
    split at isSent
    · split at isSent
      · cases isSent
      · cases isSent
    · split at isSent
      · cases isSent
      · next mapped =>
          split at isSent
          · cases isSent
          · obtain ⟨row, isRow, rfl⟩ := of_mem_importRows isSent
            exact of_mem_mapped mapped isRow

end Loop

/-! ## The repair -/

section Repair

variable {Content : Type} {context : PushContext} {destination : Destination Content}
  {source : AccountSource}

/-- The transactions of the chunks that a repair reaches. -/
def RepairSends (context : PushContext) (destination : Destination Content)
    (source : AccountSource) (content : Content) (txn : Transaction) : Prop :=
  ∃ remote, destination.getAllActivities content = .ok remote ∧
    ∃ rows, repairRows context source (missingTransactions context source remote) = .ok rows ∧
      ∃ before chunk after, chunksOf rows = before ++ chunk :: after ∧
        Accepts destination content before ∧ ∃ row ∈ chunk, row.1 = txn

theorem chunksOf_nil {Row : Type} : chunksOf ([] : List Row) = [] := by
  simp [chunksOf, chunkSize]

theorem mem_reconciled_iff {content : Content} {txn : Transaction} :
    txn ∈ (reconcileActivityTotals context destination source content).sent ↔
      RepairSends context destination source content txn := by
  have ofPushed {rows : List MappedRow} :
      txn ∈ (pushChunks destination content (chunksOf rows)).2.1.map Prod.fst ↔
        ∃ before chunk after, chunksOf rows = before ++ chunk :: after ∧
          Accepts destination content before ∧ ∃ row ∈ chunk, row.1 = txn := by
    rw [List.mem_map]
    constructor
    · rintro ⟨row, isRow, isTxn⟩
      obtain ⟨before, chunk, after, split, accepts, inChunk⟩ :=
        (mem_pushChunks_iff destination _ content).mp isRow
      exact ⟨before, chunk, after, split, accepts, row, inChunk, isTxn⟩
    · rintro ⟨before, chunk, after, split, accepts, row, inChunk, isTxn⟩
      exact ⟨row, (mem_pushChunks_iff destination _ content).mpr
        ⟨before, chunk, after, split, accepts, inChunk⟩, isTxn⟩
  rw [reconcileActivityTotals, RepairSends]
  split
  · next isRemote => simp [isRemote]
  · next remote isRemote =>
      simp only [isRemote, Except.ok.injEq, exists_eq_left']
      split
      · next nothing =>
          rw [nothing]
          refine iff_of_false List.not_mem_nil ?_
          rintro ⟨rows, isRows, before, chunk, after, split, _⟩
          cases isRows
          rw [chunksOf_nil] at split
          exact List.append_ne_nil_of_right_ne_nil before (List.cons_ne_nil chunk after) split.symm
      · split
        · next isRows => simp [isRows]
        · next rows isRows =>
            simp only [isRows, Except.ok.injEq, exists_eq_left']
            rw [← ofPushed]
            split
            · next answer => rw [answer]
            · next answer =>
                split
                · rw [answer]
                · rw [answer]

end Repair

/-! ## The push -/

/-- The push of one account in a run. -/
structure AccountPush (Content : Type) where
  source : AccountSource
  steps : AccountSteps Content
  window : PushWindow
  content : Content

namespace AccountPush

variable {Content : Type} (context : PushContext) (destination : Destination Content)
  (push : AccountPush Content)

/-- The push of the account. -/
def run : Pushed Content :=
  pushAccount context destination push.steps push.source push.window push.content

/-- The push up to the reconciliation. -/
def imported : Imported Content :=
  importAccount context destination push.steps push.source push.window push.content

/-- `validate_transaction_stream` reports no error of a transaction, and it is not one of Easy
Budgeting. -/
def Exportable (txn : Transaction) : Prop :=
  (¬ ∃ finding ∈ validateTransactionStream push.source.transactions,
      finding.severity = .error ∧ finding.recordId = txn.id) ∧
    isBunqEasyBudgetingTransaction txn = false

/-- Where the account is reconciled, what the repair sends may be exported. -/
def RepairsExportable : Prop :=
  (push.imported context destination).reconciles →
    ∀ txn, RepairSends context destination push.source
      (push.imported context destination).content txn → push.Exportable txn

variable {context destination push}

theorem mem_sent_iff {txn : Transaction} : txn ∈ (push.run context destination).sent ↔
    txn ∈ (push.imported context destination).sent ∨
      (push.imported context destination).reconciles ∧
        RepairSends context destination push.source
          (push.imported context destination).content txn := by
  rw [run, pushAccount]
  dsimp only
  rw [← imported]
  split
  · next reconciles =>
      rw [List.mem_append, mem_reconciled_iff]
      simp [reconciles]
  · next ends => simp [ends]

/-- No run sends a transaction that an error isolates or one of Easy Budgeting, exactly if no
repair of a missing transaction does. -/
theorem sent_exportable_iff (context : PushContext) (destination : Destination Content)
    (pushes : List (AccountPush Content)) :
    (∀ push ∈ pushes, ∀ txn ∈ (push.run context destination).sent, push.Exportable txn) ↔
      ∀ push ∈ pushes, push.RepairsExportable context destination := by
  refine forall_congr' fun push => forall_congr' fun _ => ?_
  constructor
  · intro exportable reconciles txn sends
    exact exportable txn (mem_sent_iff.mpr (.inr ⟨reconciles, sends⟩))
  · intro repairs txn isSent
    obtain isImported | ⟨reconciles, sends⟩ := mem_sent_iff.mp isSent
    · obtain ⟨stored, notQuarantined, notEasy⟩ := of_mem_imported isImported
      refine ⟨?_, notEasy⟩
      rwa [error_names_iff push.source.nodup stored]
    · exact repairs reconciles txn sends

/-! ## A deposit that was booked before it occurred -/

/-- A deposit on the account. -/
def deposit (id externalTransactionId : String) (bookedAt : Instant) : Transaction where
  id
  tenantId := "tenant-1"
  providerKey := "trading212"
  connectionId := some "conn-1"
  externalTransactionId
  accountId := "acct-1"
  amount := 100
  currencyCode := "EUR"
  occurredAt := 1704067200000000
  bookedAt
  transactionType := .deposit
  status := .booked

/-- A deposit, and one that was booked a day before it occurred. -/
def depositSource : AccountSource where
  account := { id := "acct-1", name := "Trading", currencyCode := "EUR" }
  transactions := [deposit "txn-1" "dep-1" 1704067200000000, deposit "txn-2" "dep-2" 1703980800000000]
  nodup := by decide

/-- The keys of the two deposits. -/
def depositHash (text : String) : String :=
  if text = "tenant-1|trading212|conn-1|acct-1|dep-1" then
    "c75001f9280a24bdd87f189d81f8164bf53dfe0b1f933e8534f8ee648584bd8c"
  else "ac3b7216e09a96f4c9d81d5023cadf12f23c19547f7d82a031cbbb0deb3b4a1f"

def depositContext : PushContext where
  sha256 := depositHash
  tolerances := { absolute := 1 / 100, percentage := 0 }
  securityMap := fun _ => none
  importRunId := "run-1"
  order := OrderBy.stable _

/-- An activity as it is stored. -/
def storedActivity (row : WfRow) : RemoteActivity where
  sourceRecordId := some row.sourceRecordId
  idempotencyKey := some row.idempotencyKey
  comment := row.comment
  amount := numberOrZero row.amount
  fee := numberOrZero row.fee
  tax := numberOrZero row.tax
  dumped := row.comment

/-- A destination that stores what it gets. -/
def storingDestination : Destination (List RemoteActivity) where
  pushActivities content rows := (content ++ rows.map storedActivity, .ok 0)
  getAllActivities content := .ok content

/-- Nothing happens around the import. -/
def quietSteps : AccountSteps (List RemoteActivity) where
  prepare content := (content, .ok [])
  assignSpendingCategories content := (content, .ok ())
  settle content := (content, .ok [])

/-- A push of the two deposits to an empty account. -/
def depositPush : AccountPush (List RemoteActivity) where
  source := depositSource
  steps := quietSteps
  window := { since := 0 }
  content := []

theorem ids_sent_of_deposits :
    (depositPush.run depositContext storingDestination).sent.map (·.id) = ["txn-1", "txn-2"] := by
  decide +kernel

theorem second_deposit_isolated :
    ∃ finding ∈ validateTransactionStream depositPush.source.transactions,
      finding.severity = .error ∧ finding.recordId = "txn-2" := by
  decide +kernel

/-- The repair sends the deposit that the loop left out. -/
theorem quarantined_deposit_sent :
    ¬ ∀ txn ∈ (depositPush.run depositContext storingDestination).sent,
      depositPush.Exportable txn := by
  intro exportable
  have inSent : "txn-2" ∈ (depositPush.run depositContext storingDestination).sent.map (·.id) := by
    rw [ids_sent_of_deposits]
    exact List.mem_cons_of_mem _ List.mem_cons_self
  obtain ⟨txn, isSent, isSecond⟩ := List.mem_map.mp inSent
  apply (exportable txn isSent).1
  rw [isSecond]
  exact second_deposit_isolated

end AccountPush

end FinanceSync.Wealthfolio
