import FinanceSync.ActualBudget.TransactionMapper
import FinanceSync.Lib.Pairing
import FinanceSync.Ynab.TransactionMapper

/-!
# The YNAB export

A run sends the transactions of the mapped accounts to YNAB's bulk endpoint, and
records the ids of the answer as references of the transactions, by position.  The
endpoint leaves out the rows whose import id it knows.
-/

namespace FinanceSync.Ynab

structure Account where
  id : String
  tenantId : String
  isActive : Bool := true

/-- A stored transaction. -/
structure StoredTransaction extends Transaction where
  id : String
  tenantId : String
  accountId : String
  exportStatus : String := "active"
  cashflowSuggestion : Option Json := none
  counterpartyAccountReference : Option String := none
  revision : Int := 1

structure Config where
  accountMap : List (String × String)
  categoryMap : List (String × String) := []
  transferAccountMap : List (String × String) := []

/-- The accounts and transactions of the database.  The id of a transaction is its
primary key. -/
structure Books where
  accounts : List Account
  transactions : List StoredTransaction
  uniqueTransactions : (transactions.map (·.id)).Nodup

structure DestinationReference where
  tenantId : String
  destinationType : String
  transactionId : String
  canonicalKey : String
  destinationObjectId : String
  idempotencyKey : String
  direction : String := "write"
  sourceRevision : Option Int
deriving DecidableEq

/-- What an export did: the references it recorded, in their order, and its counts. -/
structure Outcome where
  recorded : List DestinationReference
  attempted : Nat
  imported : Nat
  skipped : Nat

/-! ## Selection -/

def exportedAccounts (books : Books) (tenantId : String) (accountIds : List String) :
    List String :=
  (books.accounts.filter fun account =>
    account.tenantId = tenantId ∧ account.isActive ∧
      (accountIds = [] ∨ account.id ∈ accountIds)).map (·.id)

def selectedTransactions (books : Books) (tenantId : String) (start : Instant)
    (accountIds : List String) : List StoredTransaction :=
  books.transactions.filter fun transaction =>
    transaction.tenantId = tenantId ∧
      transaction.accountId ∈ exportedAccounts books tenantId accountIds ∧
      start ≤ transaction.occurredAt ∧
      transaction.status ∈ [TransactionStatus.booked, .pending] ∧
      transaction.exportStatus = "active"

/-- The key into the category map: the text of what is suggested, `"None"` without. -/
def suggestionText (transaction : StoredTransaction) : String :=
  ((ActualBudget.suggestedValue transaction.cashflowSuggestion).map Json.str).getD "None"

/-- The payload of a transaction of a mapped account. -/
def exportPayload (config : Config) (transaction : StoredTransaction) : Option Payload := do
  let remoteAccount ← (config.accountMap.lookup transaction.accountId).filter (· ≠ "")
  return mapTransaction transaction.toTransaction remoteAccount
    (config.categoryMap.lookup (suggestionText transaction))
    (config.transferAccountMap.lookup (transaction.counterpartyAccountReference.getD ""))

/-- The rows of `payload_sources` and `payload`. -/
def exportRows (config : Config) (transactions : List StoredTransaction) :
    List (StoredTransaction × Payload) :=
  transactions.filterMap fun transaction =>
    (exportPayload config transaction).map fun payload => (transaction, payload)

/-! ## References -/

/-- The reference of a transaction whose remote id is a text. -/
def rowReference (tenantId : String) (row : StoredTransaction × Payload) :
    Json → Option DestinationReference
  | .string remoteId => some
      { tenantId
        destinationType := "ynab"
        transactionId := row.1.id
        canonicalKey := row.1.providerKey ++ ":" ++ row.1.externalTransactionId
        destinationObjectId := remoteId
        idempotencyKey := row.2.importId
        sourceRevision := some row.1.revision }
  | _ => none

/-- Rows and remote ids side by side, up to the end of the shorter. -/
def rowReferences (tenantId : String) (rows : List (StoredTransaction × Payload))
    (remoteIds : List Json) : List DestinationReference :=
  (rows.zip remoteIds).filterMap fun (row, remoteId) => rowReference tenantId row remoteId

/-- Two references of one tenant, destination and idempotency key. -/
def sameReference (reference other : DestinationReference) : Bool :=
  reference.tenantId = other.tenantId ∧ reference.destinationType = other.destinationType ∧
    reference.idempotencyKey = other.idempotencyKey

/-- Insert or update a destination reference. -/
def recordDestinationReference (stored : List DestinationReference)
    (reference : DestinationReference) : List DestinationReference :=
  if stored.any (sameReference reference) then
    stored.map fun old =>
      if sameReference reference old then
        { old with
          transactionId := reference.transactionId
          canonicalKey := reference.canonicalKey
          destinationObjectId := reference.destinationObjectId
          sourceRevision := reference.sourceRevision }
      else old
  else stored ++ [reference]

/-- `run_export`, with the bulk endpoint answering the rows with transaction ids. -/
def runExport (config : Config) (tenantId : String) (start : Instant) (accountIds : List String)
    (books : Books) (importTransactions : List Payload → Except String (List Json)) :
    Except String Outcome :=
  let transactions := selectedTransactions books tenantId start accountIds
  let rows := exportRows config transactions
  if rows = [] then .ok { recorded := [], attempted := 0, imported := 0,
                          skipped := transactions.length }
  else do
    let remoteIds ← importTransactions (rows.map (·.2))
    return { recorded := rowReferences tenantId rows remoteIds
             attempted := rows.length
             imported := remoteIds.length
             skipped := transactions.length - rows.length }

/-! ## Which references are right -/

/-- The rows that a run sends. -/
def sentRows (config : Config) (tenantId : String) (start : Instant) (accountIds : List String)
    (books : Books) : List (StoredTransaction × Payload) :=
  exportRows config (selectedTransactions books tenantId start accountIds)

/-- The endpoint creates some of the transactions, each under an id, and answers
with the ids of these. -/
def answer (created : String → Option String) (rows : List (StoredTransaction × Payload)) :
    List Payload → Except String (List Json) :=
  fun _ => .ok ((rows.filterMap fun row => created row.1.id).map Json.string)

theorem nodup_exportRows (config : Config) {transactions : List StoredTransaction}
    (unique : (transactions.map (·.id)).Nodup) :
    ((exportRows config transactions).map (·.1.id)).Nodup := by
  refine unique.sublist ?_
  induction transactions with
  | nil => exact List.Sublist.refl []
  | cons transaction rest ih =>
      rw [List.map_cons, List.nodup_cons] at unique
      rw [exportRows, List.filterMap_cons]
      cases exportPayload config transaction with
      | none => exact (ih unique.2).cons _
      | some payload => exact (ih unique.2).cons_cons _

theorem nodup_sentRows (config : Config) (tenantId : String) (start : Instant)
    (accountIds : List String) (books : Books) :
    ((sentRows config tenantId start accountIds books).map (·.1.id)).Nodup :=
  nodup_exportRows config (books.uniqueTransactions.sublist (List.filter_sublist.map _))

/-- The references of an answer in texts are the pairs of rows and ids. -/
theorem rowReferences_strings (tenantId : String) (rows : List (StoredTransaction × Payload))
    (remoteIds : List String) (property : String → String → Prop) :
    (∀ reference ∈ rowReferences tenantId rows (remoteIds.map Json.string),
        property reference.transactionId reference.destinationObjectId) ↔
      ∀ pair ∈ (rows.map (·.1.id)).zip remoteIds, property pair.1 pair.2 := by
  induction rows generalizing remoteIds with
  | nil => simp [rowReferences]
  | cons row rest ih =>
      cases remoteIds with
      | nil => simp [rowReferences]
      | cons remoteId others =>
          have step := ih others
          simp only [rowReferences] at step ⊢
          rw [List.map_cons, List.map_cons, List.zip_cons_cons, List.zip_cons_cons,
            List.filterMap_cons, rowReference, List.forall_mem_cons, List.forall_mem_cons, step]

/-- A run that is answered records the references of its rows and the answer. -/
theorem runExport_answer (config : Config) (tenantId : String) (start : Instant)
    (accountIds : List String) (books : Books) (created : String → Option String) :
    ∃ outcome,
      runExport config tenantId start accountIds books
          (answer created (sentRows config tenantId start accountIds books)) = .ok outcome ∧
        outcome.recorded =
          rowReferences tenantId (sentRows config tenantId start accountIds books)
            (((sentRows config tenantId start accountIds books).filterMap fun row =>
              created row.1.id).map Json.string) := by
  simp only [runExport, answer, sentRows]
  split_ifs with empty
  · refine ⟨_, rfl, ?_⟩
    rw [empty]
    rfl
  · exact ⟨_, rfl, rfl⟩

/-- The references of the sent rows name the ids that were created for their
transactions exactly if no row that is left out stands before one that is created. -/
theorem sent_right_iff (config : Config) (tenantId : String) (start : Instant)
    (accountIds : List String) (books : Books) (created : String → Option String) :
    (∀ reference ∈ rowReferences tenantId (sentRows config tenantId start accountIds books)
          (((sentRows config tenantId start accountIds books).filterMap fun row =>
            created row.1.id).map Json.string),
        created reference.transactionId = some reference.destinationObjectId) ↔
      (sentRows config tenantId start accountIds books).Pairwise fun earlier later =>
        (created later.1.id).isSome → (created earlier.1.id).isSome := by
  have unique := nodup_sentRows config tenantId start accountIds books
  generalize sentRows config tenantId start accountIds books = rows at unique
  rw [rowReferences_strings tenantId rows _ fun transactionId remoteId =>
    created transactionId = some remoteId]
  have ids : (rows.filterMap fun row => created row.1.id) =
      (rows.map (·.1.id)).filterMap created := by
    rw [List.filterMap_map]
    rfl
  rw [ids, Lib.zip_created_iff unique, List.pairwise_map]

/-- Every reference of a run names the id that was created for its transaction exactly
if no row that is left out stands before one that is created. -/
theorem references_right_iff (config : Config) (tenantId : String) (start : Instant)
    (accountIds : List String) (books : Books) (created : String → Option String) :
    ∃ outcome,
      runExport config tenantId start accountIds books
          (answer created (sentRows config tenantId start accountIds books)) = .ok outcome ∧
        ((∀ reference ∈ outcome.recorded,
            created reference.transactionId = some reference.destinationObjectId) ↔
          (sentRows config tenantId start accountIds books).Pairwise fun earlier later =>
            (created later.1.id).isSome → (created earlier.1.id).isSome) := by
  rcases runExport_answer config tenantId start accountIds books created with
    ⟨outcome, isOk, recorded⟩
  refine ⟨outcome, isOk, ?_⟩
  rw [recorded]
  exact sent_right_iff config tenantId start accountIds books created

/-- Two transactions of one mapped account. -/
def sampleBooks : Books where
  accounts := [{ id := "account", tenantId := "tenant" }]
  transactions := [
    { id := "tx-1", tenantId := "tenant", accountId := "account", providerKey := "bunq",
      externalTransactionId := "1", amount := -5, occurredAt := 0, transactionType := .payment,
      status := .booked },
    { id := "tx-2", tenantId := "tenant", accountId := "account", providerKey := "bunq",
      externalTransactionId := "2", amount := -7, occurredAt := 0, transactionType := .payment,
      status := .booked }]
  uniqueTransactions := by decide

/-- YNAB has the first transaction from an earlier run and creates the second. -/
def sampleCreated (transactionId : String) : Option String :=
  if transactionId = "tx-2" then some "remote-2" else none

/-- The id of the second transaction is recorded for the first. -/
theorem second_id_for_first :
    ∃ outcome,
      runExport { accountMap := [("account", "remote-account")] } "tenant" 0 [] sampleBooks
          (answer sampleCreated (sentRows { accountMap := [("account", "remote-account")] } "tenant"
            0 [] sampleBooks)) = .ok outcome ∧
        outcome.recorded.map (fun reference =>
          (reference.transactionId, reference.destinationObjectId)) = [("tx-1", "remote-2")] ∧
        sampleCreated "tx-1" = none := by
  rcases runExport_answer { accountMap := [("account", "remote-account")] } "tenant" 0 []
    sampleBooks sampleCreated with ⟨outcome, isOk, recorded⟩
  refine ⟨outcome, isOk, ?_, rfl⟩
  rw [recorded]
  decide +kernel

end FinanceSync.Ynab
