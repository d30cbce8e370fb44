import FinanceSync.Lib.Run
import FinanceSync.Sync.Sources
import Mathlib.Data.List.Induction
import Mathlib.Logic.Function.Basic

/-!
# Cursors that are times of runs

A run reads every account from its cursor on and then moves the cursor to the
start of the run.  The sources, however, are read by the dates of their rows, so
a row that is added later may lie before the cursor already.
-/

namespace FinanceSync.Sync

open Lib

/-! ## Connectors -/

/-- What the pipeline knows of a kind of source: rows are added to it and never
leave it, and a fetch returns the rows it holds that are in reach. -/
structure Feed where
  Source : Type
  Addition : Type
  empty : Source
  add : Source → Addition → Source
  held : Source → List RawTransaction
  fetchTransactions : Source → Instant → Instant → List RawTransaction
  InReach : Source → Instant → Instant → RawTransaction → Prop
  held_empty : held empty = []
  held_add : ∀ {source transaction} addition, transaction ∈ held source →
    transaction ∈ held (add source addition)
  mem_fetchTransactions : ∀ {source since now transaction},
    transaction ∈ fetchTransactions source since now ↔
      transaction ∈ held source ∧ InReach source since now transaction

/-- `csv_import`: rows are added to files. -/
def csvFeed (currency : String) : Feed where
  Source := List CsvFile
  Addition := String × CsvRow
  empty := []
  add := addCsvRow
  held := fun files => files.flatMap (CsvFile.transactions currency)
  fetchTransactions := fun files since _ => csvFetchTransactions currency files since none
  InReach := fun _ since _ transaction => since ≤ transaction.occurredAt
  held_empty := rfl
  held_add := fun addition held => held_addCsvRow addition held
  mem_fetchTransactions := mem_csvFetchTransactions

/-- `manual_expense`: expenses are added to a list. -/
def manualFeed : Feed where
  Source := List Expense
  Addition := Expense
  empty := []
  add := fun expenses expense => expenses ++ [expense]
  held := List.map expenseTransaction
  fetchTransactions := fun expenses since _ => manualFetchTransactions expenses since none
  InReach := fun _ since _ transaction => since ≤ transaction.occurredAt
  held_empty := rfl
  held_add := by
    intro expenses transaction expense held
    rw [List.map_append]
    exact List.mem_append_left _ held
  mem_fetchTransactions := mem_manualFetchTransactions

/-- `plaid_like`: the provider adds rows to an account.  In reach are the rows of
the days from the cursor to today, and of these the first hundred. -/
def plaidFeed (endpoint : TransactionsEndpoint) : Feed where
  Source := List PlaidRow
  Addition := PlaidRow
  empty := []
  add := fun rows row => rows ++ [row]
  held := List.map plaidTransaction
  fetchTransactions := fun rows since now =>
    plaidFetchTransactions endpoint rows since now none
  InReach := fun rows since now transaction =>
    ∃ row ∈ (endpoint.listing (plaidWindow since.date now.date rows)).take 100,
      plaidTransaction row = transaction
  held_empty := rfl
  held_add := by
    intro rows transaction row held
    rw [List.map_append]
    exact List.mem_append_left _ held
  mem_fetchTransactions := by
    intro rows since now transaction
    rw [plaidFetchTransactions_eq, List.mem_map]
    constructor
    · intro ⟨row, isMem, same⟩
      have inWindow := (endpoint.perm _).mem_iff.mp (List.mem_of_mem_take isMem)
      refine ⟨?_, row, isMem, same⟩
      rw [← same]
      exact List.mem_map_of_mem (List.mem_filter.mp inWindow).1
    · intro ⟨_, inReach⟩
      exact inReach

inductive Connector
  | csvImport (currency : String)
  | manualExpense
  | plaidLike (endpoint : TransactionsEndpoint)

def Connector.feed : Connector → Feed
  | csvImport currency => csvFeed currency
  | manualExpense => manualFeed
  | plaidLike endpoint => plaidFeed endpoint

/-! ## The pipeline -/

section Pipeline

variable (feed : Feed)

/-- What the syncs of one connection work on: the source of every account as it
was last read, the cursors, the stored transactions, and what the current run
has been called with and has loaded. -/
structure ConnectionSync where
  sources : String → feed.Source := fun _ => feed.empty
  cursors : String → Option Instant := fun _ => none
  transactions : List RawTransaction := []
  since : Instant := 0
  startTs : Instant := 0
  loadedCursors : String → Option Instant := fun _ => none

/-- The part of `_run_pipeline` that reads transactions: a run starts and loads
the cursors, unless it was called with a date of its own, and then syncs one
account after the other.  Rows may have been added to the account since it was
last read. -/
inductive ConnectionEvent
  | startRun (since : Instant) (resume : Bool) (startTs : Instant)
  | syncAccount (externalAccountId : String) (additions : List feed.Addition) (now : Instant)

end Pipeline

/-- Update the stored transaction with the external id, or add one. -/
def upsertTransaction (stored : List RawTransaction) (transaction : RawTransaction) :
    List RawTransaction :=
  if stored.any fun other => other.externalTransactionId = transaction.externalTransactionId then
    stored.map fun other =>
      if other.externalTransactionId = transaction.externalTransactionId then transaction
      else other
  else stored ++ [transaction]

section Step

variable {feed : Feed}

/-- `acct_since` -/
def ConnectionSync.accountSince (connection : ConnectionSync feed) (externalAccountId : String) :
    Instant :=
  (connection.loadedCursors externalAccountId).getD connection.since

/-- The source of an account with the rows that were added to it. -/
def ConnectionSync.sourceWith (connection : ConnectionSync feed) (externalAccountId : String)
    (additions : List feed.Addition) : feed.Source :=
  additions.foldl feed.add (connection.sources externalAccountId)

def connectionStep (connection : ConnectionSync feed) : ConnectionEvent feed → ConnectionSync feed
  | .startRun since resume startTs =>
      { connection with
        since
        startTs
        loadedCursors := if resume then connection.cursors else fun _ => none }
  | .syncAccount externalAccountId additions now =>
      let source := connection.sourceWith externalAccountId additions
      let raw := feed.fetchTransactions source (connection.accountSince externalAccountId) now
      { connection with
        sources := Function.update connection.sources externalAccountId source
        cursors := Function.update connection.cursors externalAccountId (some connection.startTs)
        transactions := raw.foldl upsertTransaction connection.transactions }

end Step

/-! ## Every row is stored -/

/-- A transaction is stored with the external id. -/
def IsStored (stored : List RawTransaction) (externalTransactionId : String) : Prop :=
  ∃ transaction ∈ stored, transaction.externalTransactionId = externalTransactionId

theorem isStored_upsertTransaction {stored : List RawTransaction} {transaction : RawTransaction}
    {externalTransactionId : String} :
    IsStored (upsertTransaction stored transaction) externalTransactionId ↔
      IsStored stored externalTransactionId ∨
        transaction.externalTransactionId = externalTransactionId := by
  unfold upsertTransaction IsStored
  split
  · rename_i found
    rw [List.any_eq_true] at found
    constructor
    · intro ⟨written, isMem, named⟩
      obtain ⟨other, otherMem, same⟩ := List.mem_map.mp isMem
      split at same
      · exact Or.inr (same ▸ named)
      · exact Or.inl ⟨other, otherMem, same ▸ named⟩
    · intro either
      have replaced : ∃ other ∈ stored, other.externalTransactionId = externalTransactionId := by
        cases either with
        | inl before => exact before
        | inr named =>
            obtain ⟨other, otherMem, same⟩ := found
            exact ⟨other, otherMem, (of_decide_eq_true same).trans named⟩
      obtain ⟨other, otherMem, named⟩ := replaced
      refine ⟨_, List.mem_map_of_mem otherMem, ?_⟩
      split
      · rename_i same
        exact same.symm.trans named
      · exact named
  · simp [or_and_right, exists_or]

theorem isStored_foldl {externalTransactionId : String} (raw : List RawTransaction) :
    ∀ {stored : List RawTransaction},
      IsStored (raw.foldl upsertTransaction stored) externalTransactionId ↔
        IsStored stored externalTransactionId ∨ IsStored raw externalTransactionId := by
  induction raw with
  | nil => intro stored; simp [IsStored]
  | cons transaction rest ih =>
      intro stored
      rw [List.foldl_cons, ih, isStored_upsertTransaction, or_assoc]
      simp [IsStored]

section Complete

variable {feed : Feed}

/-- Every row that an account held when it was read is stored. -/
def AllStored (connection : ConnectionSync feed) : Prop :=
  ∀ externalAccountId, ∀ transaction ∈ feed.held (connection.sources externalAccountId),
    IsStored connection.transactions transaction.externalTransactionId

/-- Every row that was added to the account since it was last read is stored under
its id already, or is in reach of the cursor. -/
def AdditionsInReach (connection : ConnectionSync feed) : ConnectionEvent feed → Prop
  | .startRun _ _ _ => True
  | .syncAccount externalAccountId additions now =>
      ∀ transaction ∈ feed.held (connection.sourceWith externalAccountId additions),
        transaction ∉ feed.held (connection.sources externalAccountId) →
        IsStored connection.transactions transaction.externalTransactionId ∨
          ∃ row ∈ feed.held (connection.sourceWith externalAccountId additions),
            row.externalTransactionId = transaction.externalTransactionId ∧
              feed.InReach (connection.sourceWith externalAccountId additions)
                (connection.accountSince externalAccountId) now row

/-- A sync stores what was stored and what it fetches. -/
theorem isStored_syncAccount {connection : ConnectionSync feed} {externalAccountId : String}
    {additions : List feed.Addition} {now : Instant} {externalTransactionId : String} :
    IsStored (connectionStep connection (.syncAccount externalAccountId additions now)).transactions
        externalTransactionId ↔
      IsStored connection.transactions externalTransactionId ∨
        ∃ row ∈ feed.held (connection.sourceWith externalAccountId additions),
          row.externalTransactionId = externalTransactionId ∧
            feed.InReach (connection.sourceWith externalAccountId additions)
              (connection.accountSince externalAccountId) now row := by
  simp only [connectionStep, isStored_foldl]
  apply or_congr_right
  simp only [IsStored, feed.mem_fetchTransactions, and_assoc]
  apply exists_congr
  intro row
  exact and_congr_right fun _ => and_comm

/-- A step keeps every row stored exactly if the added rows are in reach. -/
theorem step_allStored_iff (connection : ConnectionSync feed) (event : ConnectionEvent feed)
    (complete : AllStored connection) :
    AllStored (connectionStep connection event) ↔ AdditionsInReach connection event := by
  cases event with
  | startRun since resume startTs => exact iff_of_true complete trivial
  | syncAccount externalAccountId additions now =>
      constructor
      · intro allStored transaction held _
        rw [← isStored_syncAccount]
        apply allStored externalAccountId
        simpa [connectionStep] using held
      · intro inReach otherAccountId transaction held
        rw [isStored_syncAccount]
        by_cases own : otherAccountId = externalAccountId
        · subst own
          simp only [connectionStep, Function.update_self] at held
          by_cases before : transaction ∈ feed.held (connection.sources otherAccountId)
          · exact Or.inl (complete otherAccountId transaction before)
          · exact inReach transaction held before
        · simp only [connectionStep, Function.update_of_ne own] at held
          exact Or.inl (complete otherAccountId transaction held)

/-- After every step of every sequence of runs all rows that were there to be
read are stored, exactly if no row is added out of reach of its account's cursor. -/
theorem everyRow_stored_iff (connector : Connector)
    (events : List (ConnectionEvent connector.feed)) :
    (∀ before after, events = before ++ after →
        AllStored (runAll connectionStep ({} : ConnectionSync connector.feed) before)) ↔
      Along connectionStep AdditionsInReach ({} : ConnectionSync connector.feed) events := by
  have completeStart : AllStored ({} : ConnectionSync connector.feed) := by
    intro externalAccountId transaction held
    rw [connector.feed.held_empty] at held
    contradiction
  have keeps : ∀ (connection : ConnectionSync connector.feed)
      (event : ConnectionEvent connector.feed), True → AllStored connection →
        (AllStored (connectionStep connection event) ↔ AdditionsInReach connection event) :=
    fun connection event _ complete => step_allStored_iff connection event complete
  exact reached_iff_kept (fun _ _ _ => trivial) keeps events trivial completeStart

end Complete

/-- An expense of the third day. -/
def dinner : Expense := { id := "7", date := Instant.days 3, amount := ⟨-45, 0⟩ }

/-- Two syncs of the wallet, on the tenth and on the twentieth day.  The expense is
entered between them. -/
def dinnerEnteredLate : List (ConnectionEvent manualFeed) :=
  [ .startRun 0 true (Instant.days 10), .syncAccount "manual_wallet" [] (Instant.days 10),
    .startRun 0 true (Instant.days 20), .syncAccount "manual_wallet" [dinner] (Instant.days 20) ]

/-- The expense is dated before the cursor, which the first sync has moved. -/
theorem dinner_not_stored :
    Instant.days 0 ≤ dinner.date ∧
      ¬ AllStored (runAll connectionStep ({} : ConnectionSync Connector.manualExpense.feed)
        dinnerEnteredLate) := by
  constructor
  · decide
  · intro allStored
    have held : expenseTransaction dinner ∈ manualFeed.held ((runAll connectionStep
        ({} : ConnectionSync manualFeed) dinnerEnteredLate).sources "manual_wallet") :=
      List.mem_singleton.mpr rfl
    obtain ⟨transaction, isMem, _⟩ := allStored "manual_wallet" _ held
    have nothing : (runAll connectionStep ({} : ConnectionSync manualFeed)
        dinnerEnteredLate).transactions = [] :=
      List.isEmpty_iff.mp (by decide +kernel)
    exact absurd (nothing ▸ isMem) List.not_mem_nil

end FinanceSync.Sync
