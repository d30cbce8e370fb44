import FinanceSync.Lib.TwoRuns
import FinanceSync.Visibility.Noninterference

/-!
# What a scoped key learns and changes

An API key with an account scope should learn nothing about accounts outside its
scope, and change nothing there.  But the endpoints that load a transaction of the
tenant do not look at the scope, nor does the review queue, and the cache of
summaries is shared by all principals of a tenant.
-/

namespace FinanceSync.Visibility

open Lib Auth

/-- The process after a request. -/
def Process.next (settings : Settings) (llm : LanguageModel) (process : Process) (call : Call) :
    Process :=
  (process.serve settings llm call).1

/-- If a request is one of the key, it reaches nothing outside the key's scope. -/
def KeyStaysWithin (settings : Settings) (row : ApiKey) (accountIds : List Uuid)
    (process : Process) (call : Call) : Prop :=
  call.principal = .apiKey row (some accountIds) →
    process.staysWithin settings (.forApiKey row.tenantId (some accountIds)) call

instance (settings : Settings) (row : ApiKey) (accountIds : List Uuid) (process : Process)
    (call : Call) : Decidable (KeyStaysWithin settings row accountIds process call) := by
  unfold KeyStaysWithin
  infer_instance

/-- What the key is answered during a run. -/
def keyResponses (settings : Settings) (llm : LanguageModel) (row : ApiKey)
    (accountIds : List Uuid) (process : Process) (calls : List Call) :
    List (Except RequestError Response) :=
  observed (Process.serve settings llm)
    (fun call => call.principal = .apiKey row (some accountIds)) process calls

/-- A request of the key changes nothing outside its scope. -/
def KeyLeavesUntouched (settings : Settings) (llm : LanguageModel) (row : ApiKey)
    (accountIds : List Uuid) (process : Process) (call : Call) : Prop :=
  call.principal = .apiKey row (some accountIds) →
    process.db.Untouched (.forApiKey row.tenantId (some accountIds))
      (process.next settings llm call).db

/-- An account-scoped key is answered alike on databases that differ only outside its
scope, and changes nothing there, in every run in which its own requests reach
nothing outside; whatever requests other principals make in between. -/
theorem scopedKey_noninterference (settings : Settings) (llm : LanguageModel) (row : ApiKey)
    (accountIds : List Uuid) (calls : List Call) {first second : Database}
    (agree : first.Agree (.forApiKey row.tenantId (some accountIds)) second)
    (firstWithin : Along (Process.next settings llm) (KeyStaysWithin settings row accountIds)
      (.start first) calls)
    (secondWithin : Along (Process.next settings llm) (KeyStaysWithin settings row accountIds)
      (.start second) calls) :
    keyResponses settings llm row accountIds (.start first) calls =
        keyResponses settings llm row accountIds (.start second) calls ∧
      Along (Process.next settings llm) (KeyLeavesUntouched settings llm row accountIds)
        (.start first) calls := by
  constructor
  · apply observed_eq _ _ calls (Process.agree_start agree) firstWithin secondWithin
    · intro before other call related
      exact related.serve call
    · intro before other call related isKey beforeWithin otherWithin
      have own : call.principal = .apiKey row (some accountIds) := of_decide_eq_true isKey
      exact related.serve_alike (by rw [own]; rfl) (beforeWithin own) (otherWithin own)
  · apply along_imp _ calls firstWithin
    intro process call within own
    exact Process.serve_untouched (within own)

/-! ## A key that reaches outside -/

/-- A key for the account 1 of the tenant 1. -/
def notebook : ApiKey where
  id := 1
  tenantId := 1
  userId := 1
  name := "notebook"
  rawKey := "fs_notebook"
  permissions := some "transactions:read transactions:write accounts:read"

def notebookCall (request : Request) : Call where
  principal := .apiKey notebook (some [1])
  request
  now := 0

/-- The owner of the tenant asks for a summary. -/
def ownerSummary : Call where
  principal := .user { id := 1, tenantId := 1, role := "admin" }
  request := .ai (.summary 30 false)
  now := 0

def checkingAccount (id : Uuid) : Account where
  id
  tenantId := 1
  providerKey := "bunq"
  externalAccountId := "NL"
  name := "account"
  accountType := "checking"

def cardPayment (id accountId : Uuid) : Transaction where
  id
  tenantId := 1
  accountId
  providerKey := "bunq"
  externalTransactionId := "payment"
  amount := -1
  currencyCode := "EUR"
  occurredAt := 0
  transactionType := .payment

/-- A database with accounts and transactions and nothing else. -/
def bankDatabase (accounts : Table Account Account.id)
    (transactions : Table Transaction Transaction.id) : Database where
  accounts
  transactions
  attached := fun _ => []
  holdings := []
  taxLots := fun _ => .empty
  securities := []
  prices := []
  credentials := []

/-- The account of the key, with one transaction. -/
def ownDatabase : Database :=
  bankDatabase { rows := [checkingAccount 1], next := 2, nodup := by decide, below := by decide }
    { rows := [cardPayment 10 1], next := 11, nodup := by decide, below := by decide }

/-- Besides, another account with one transaction. -/
def fullDatabase : Database :=
  bankDatabase
    { rows := [checkingAccount 1, checkingAccount 2], next := 3, nodup := by decide,
      below := by decide }
    { rows := [cardPayment 10 1, cardPayment 20 2], next := 21, nodup := by decide,
      below := by decide }

/-- A language model that counts the accounts. -/
def accountCounter : LanguageModel := fun prompt => ("counter", toString prompt.data.accounts)

def aiSettings : Settings where
  aiApiKey := some "secret"

theorem fullDatabase_agree : fullDatabase.Agree (.forApiKey 1 (some [1])) ownDatabase :=
  ⟨rfl, rfl, fun table => by cases table <;> rfl, rfl, rfl, rfl, rfl, rfl⟩

/-- The key reads and deletes its own transaction, and asks for a summary of its own,
while the owner has one cached. -/
theorem notebook_staysWithin :
    let calls := [ownerSummary, notebookCall (.spendingDetail 10),
      notebookCall (.ai (.summary 30 true)), notebookCall (.write 10 .tombstoneSpendingTransaction),
      ownerSummary, notebookCall (.read (.getCashflow none none none))]
    keyResponses aiSettings accountCounter notebook [1] (.start fullDatabase) calls =
        keyResponses aiSettings accountCounter notebook [1] (.start ownDatabase) calls ∧
      Along (Process.next aiSettings accountCounter)
        (KeyLeavesUntouched aiSettings accountCounter notebook [1]) (.start fullDatabase) calls :=
  scopedKey_noninterference aiSettings accountCounter notebook [1] _ fullDatabase_agree
    (by decide +kernel) (by decide +kernel)

/-- Whether answers are errors, and otherwise the number of listed items and the text
of a summary. -/
def shape : Except RequestError Response → Bool × Nat × String
  | .error _ => (false, 0, "")
  | .ok (.reviewQueue items) => (true, items.length, "")
  | .ok (.generated (.summary text _ _)) => (true, 0, text)
  | .ok _ => (true, 0, "")

/-- The key reads the other transaction, sees it in the queue, is served the summary
of the owner, and classifies the other transaction. -/
theorem notebook_reachesOutside :
    let responses := fun db calls =>
      (keyResponses aiSettings accountCounter notebook [1] (.start db) calls).map shape
    let detail := [notebookCall (.spendingDetail 20)]
    let queue := [notebookCall (.listBunqOtherTransactions 100)]
    let summary := [ownerSummary, notebookCall (.ai (.summary 30 false))]
    let classify := notebookCall (.write 20 (.classifyBunqOther "travel"))
    fullDatabase.Agree (.forApiKey 1 (some [1])) ownDatabase ∧
      responses fullDatabase detail ≠ responses ownDatabase detail ∧
      responses fullDatabase queue ≠ responses ownDatabase queue ∧
      responses fullDatabase summary ≠ responses ownDatabase summary ∧
      ¬ KeyLeavesUntouched aiSettings accountCounter notebook [1] (.start fullDatabase)
        classify := by
  refine ⟨fullDatabase_agree, by decide +kernel, by decide +kernel, by decide +kernel, ?_⟩
  intro untouched
  have same := (untouched rfl).1
  have revisions := congrArg (List.map Transaction.revision) same
  revert revisions
  decide +kernel

end FinanceSync.Visibility
