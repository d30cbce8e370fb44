import FinanceSync.Data.Values
import FinanceSync.Lib.Table
import Mathlib.Data.String.Basic

/-!
# Sources that a sync reads from a date on

The CSV files, the file of manual expenses and the endpoint of a Plaid-like
provider, as their connectors read them.  Rows are only added to a source.  What
a connector returns is the part of the rows it holds that is dated in the window
it was asked for, and from Plaid at most a hundred of them.

A row stands for itself after `csv`, `json`, `strptime` and `Decimal` have read
it; a file that they cannot read fails the run.
-/

namespace FinanceSync.Sync

open Lib

/-- Raw transaction data as returned by a provider. -/
structure RawTransaction where
  externalTransactionId : String
  externalAccountId : String
  amount : Decimal
  currencyCode : String
  occurredAt : Instant
  description : Option String
  transactionType : String
  status : String

/-! ## CSV files -/

/-- A row of a CSV file; a row without a date is skipped. -/
structure CsvRow where
  occurredAt : Option Instant
  amount : Decimal
  description : String
  transactionType : Option String := none

structure CsvFile where
  name : String
  rows : List CsvRow

/-- The transaction of a dated row, named by the file and the number of the row. -/
def csvTransaction (currency fileName : String) (row : CsvRow) (rowNum : Nat)
    (occurredAt : Instant) : RawTransaction :=
  { externalTransactionId := "csv_" ++ fileName ++ "_" ++ toString rowNum
    externalAccountId := "csv_" ++ fileName
    amount := row.amount
    currencyCode := currency
    occurredAt
    description := some row.description
    transactionType := row.transactionType.getD
      (if 0 < row.amount.value then "credit" else "debit")
    status := "booked" }

/-- Parse a single CSV file into RawTransaction objects. -/
def parseCsv (currency : String) (since : Instant) (file : CsvFile) : List RawTransaction :=
  (file.rows.zipIdx 1).filterMap fun (row, rowNum) =>
    match row.occurredAt with
    | none => none
    | some occurredAt =>
        if occurredAt < since then none
        else some (csvTransaction currency file.name row rowNum occurredAt)

/-- `all_transactions[:limit]`, where no limit and zero leave the list. -/
def upToLimit {α : Type} (limit : Option Nat) (transactions : List α) : List α :=
  match limit with
  | none | some 0 => transactions
  | some limit => transactions.take limit

/-- Parse the configured file, or the files of the configured directory in the
order of their names.  Files after the limit is reached are not opened. -/
def csvFetchTransactions (currency : String) (files : List CsvFile) (since : Instant)
    (limit : Option Nat) : List RawTransaction :=
  upToLimit limit (((OrderBy.stable CsvFile.name).sort files).flatMap (parseCsv currency since))

/-- The transaction that a row of a file stands for, whenever it is read. -/
def CsvFile.transactions (currency : String) (file : CsvFile) : List RawTransaction :=
  (file.rows.zipIdx 1).filterMap fun (row, rowNum) =>
    row.occurredAt.map (csvTransaction currency file.name row rowNum)

/-- A row is added at the end of a file, which may be new. -/
def addCsvRow (files : List CsvFile) (addition : String × CsvRow) : List CsvFile :=
  if files.any fun file => file.name = addition.1 then
    files.map fun file =>
      if file.name = addition.1 then { file with rows := file.rows ++ [addition.2] } else file
  else files ++ [{ name := addition.1, rows := [addition.2] }]

section Csv

variable {currency : String}

theorem mem_parseCsv {since : Instant} {file : CsvFile} {transaction : RawTransaction} :
    transaction ∈ parseCsv currency since file ↔
      transaction ∈ file.transactions currency ∧ since ≤ transaction.occurredAt := by
  unfold parseCsv CsvFile.transactions
  simp only [List.mem_filterMap, Option.map_eq_some_iff]
  constructor
  · intro ⟨numbered, isMem, found⟩
    cases dated : numbered.1.occurredAt with
    | none => simp [dated] at found
    | some occurredAt =>
        simp only [dated] at found
        split at found
        · contradiction
        · rename_i notBefore
          rw [Option.some.injEq] at found
          subst found
          exact ⟨⟨numbered, isMem, occurredAt, dated, rfl⟩, not_lt.mp notBefore⟩
  · intro ⟨⟨numbered, isMem, occurredAt, dated, same⟩, notBefore⟩
    subst same
    refine ⟨numbered, isMem, ?_⟩
    simp only [dated]
    exact if_neg (not_lt.mpr notBefore)

theorem mem_csvFetchTransactions {files : List CsvFile} {since : Instant}
    {transaction : RawTransaction} :
    transaction ∈ csvFetchTransactions currency files since none ↔
      transaction ∈ files.flatMap (CsvFile.transactions currency) ∧
        since ≤ transaction.occurredAt := by
  simp only [csvFetchTransactions, upToLimit, List.mem_flatMap, OrderBy.mem_sort, mem_parseCsv]
  constructor
  · rintro ⟨file, fileMem, held, notBefore⟩
    exact ⟨⟨file, fileMem, held⟩, notBefore⟩
  · rintro ⟨⟨file, fileMem, held⟩, notBefore⟩
    exact ⟨file, fileMem, held, notBefore⟩

/-- Rows keep their numbers when rows are added after them. -/
theorem mem_transactions_append {file : CsvFile} {added : List CsvRow}
    {transaction : RawTransaction} (held : transaction ∈ file.transactions currency) :
    transaction ∈
      ({ file with rows := file.rows ++ added } : CsvFile).transactions currency := by
  unfold CsvFile.transactions at held ⊢
  dsimp only
  rw [List.zipIdx_append, List.filterMap_append]
  exact List.mem_append_left _ held

theorem held_addCsvRow {files : List CsvFile} (addition : String × CsvRow)
    {transaction : RawTransaction}
    (held : transaction ∈ files.flatMap (CsvFile.transactions currency)) :
    transaction ∈ (addCsvRow files addition).flatMap (CsvFile.transactions currency) := by
  obtain ⟨file, fileMem, inFile⟩ := List.mem_flatMap.mp held
  rw [List.mem_flatMap]
  unfold addCsvRow
  split
  · refine ⟨_, List.mem_map_of_mem fileMem, ?_⟩
    split
    · exact mem_transactions_append inFile
    · exact inFile
  · exact ⟨file, List.mem_append_left _ fileMem, inFile⟩

end Csv

/-! ## Manual expenses -/

structure Expense where
  id : String
  date : Instant
  amount : Decimal
  currency : String := "EUR"
  description : String := ""
  category : String := ""
  tags : List String := []

/-- The transaction of an expense. -/
def expenseTransaction (expense : Expense) : RawTransaction :=
  { externalTransactionId := "manual_" ++ expense.id
    externalAccountId := "manual_wallet"
    amount := expense.amount
    currencyCode := expense.currency
    occurredAt := expense.date
    description := some (" ".intercalate
      ([expense.description] ++
        (if expense.category ≠ "" then ["[" ++ expense.category ++ "]"] else []) ++
        (if expense.tags ≠ [] then ["#" ++ " #".intercalate expense.tags] else [])))
    transactionType := if expense.amount.value < 0 then "expense" else "income"
    status := "booked" }

/-- Read expenses from the JSON data source. -/
def manualFetchTransactions (expenses : List Expense) (since : Instant) (limit : Option Nat) :
    List RawTransaction :=
  (upToLimit limit expenses).filterMap fun expense =>
    if expense.date < since then none else some (expenseTransaction expense)

theorem mem_manualFetchTransactions {expenses : List Expense} {since : Instant}
    {transaction : RawTransaction} :
    transaction ∈ manualFetchTransactions expenses since none ↔
      transaction ∈ expenses.map expenseTransaction ∧ since ≤ transaction.occurredAt := by
  simp only [manualFetchTransactions, upToLimit, List.mem_filterMap, List.mem_map]
  constructor
  · intro ⟨expense, isMem, found⟩
    split at found
    · contradiction
    · rename_i notBefore
      rw [Option.some.injEq] at found
      subst found
      exact ⟨⟨expense, isMem, rfl⟩, not_lt.mp notBefore⟩
  · intro ⟨⟨expense, isMem, same⟩, notBefore⟩
    subst same
    exact ⟨expense, isMem, if_neg (not_lt.mpr notBefore)⟩

/-! ## Plaid-like accounts -/

/-- A transaction as the provider sends it, with its day. -/
structure PlaidRow where
  transactionId : String
  accountId : String
  amount : Decimal
  isoCurrencyCode : String := "EUR"
  date : Int
  merchantName : Option String := none
  name : Option String := none
  pending : Bool := false

/-- `_raw_transaction` -/
def plaidTransaction (row : PlaidRow) : RawTransaction :=
  { externalTransactionId := row.transactionId
    externalAccountId := row.accountId
    amount := row.amount
    currencyCode := row.isoCurrencyCode
    occurredAt := Instant.days row.date
    description := row.merchantName.or row.name
    transactionType := "payment"
    status := if row.pending then "pending" else "booked" }

/-- The rows of the days from `start` to `finish`. -/
def plaidWindow (start finish : Int) (rows : List PlaidRow) : List PlaidRow :=
  rows.filter fun row => start ≤ row.date ∧ row.date ≤ finish

/-- The provider's `/transactions/get` for one account.  It lists the rows of the
window in an order of its own and answers with a slice of that list. -/
structure TransactionsEndpoint where
  listing : List PlaidRow → List PlaidRow
  perm : ∀ rows, (listing rows).Perm rows

def TransactionsEndpoint.get (endpoint : TransactionsEndpoint) (rows : List PlaidRow)
    (start finish : Int) (count offset : Nat) : List PlaidRow :=
  ((endpoint.listing (plaidWindow start finish rows)).drop offset).take count

/-- The loop over the pages.  Every page but the last one brings a row, so a fuel
of the limit is enough. -/
def fetchPages (get : Nat → Nat → List PlaidRow) (limit : Nat) :
    Nat → List PlaidRow → Nat → List PlaidRow
  | 0, transactions, _ => transactions
  | fuel + 1, transactions, offset =>
      if limit ≤ transactions.length then transactions
      else
        let pageSize := min 500 (limit - transactions.length)
        let page := get pageSize offset
        if page.length < pageSize then transactions ++ page
        else fetchPages get limit fuel (transactions ++ page) (offset + page.length)

/-- `min(max(limit or 100, 1), 500)` -/
def plaidLimit : Option Nat → Nat
  | none | some 0 => 100
  | some limit => min (max limit 1) 500

/-- Fetch a bounded date range from Plaid's transaction endpoint. -/
def plaidFetchTransactions (endpoint : TransactionsEndpoint) (rows : List PlaidRow)
    (since now : Instant) (limit : Option Nat) : List RawTransaction :=
  let limit := plaidLimit limit
  let start := since.date
  let finish := now.date
  if finish < start then []
  else
    ((fetchPages (endpoint.get rows start finish) limit limit [] 0).take limit).map
      plaidTransaction

/-- The loop gets the first rows of the listing, up to the limit. -/
theorem fetchPages_take (listing : List PlaidRow) (limit : Nat) :
    ∀ fuel offset, limit ≤ fuel + offset → offset ≤ listing.length →
      (fetchPages (fun count offset => (listing.drop offset).take count) limit fuel
        (listing.take offset) offset).take limit = listing.take limit := by
  intro fuel
  induction fuel with
  | zero =>
      intro offset enough _
      rw [fetchPages, List.take_take, min_eq_left (by omega)]
  | succ fuel ih =>
      intro offset enough within
      have length : (listing.take offset).length = offset := List.length_take_of_le within
      rw [fetchPages, length]
      by_cases full : limit ≤ offset
      · rw [if_pos full, List.take_take, min_eq_left full]
      · rw [if_neg full]
        have extended : listing.take offset ++
              (listing.drop offset).take (min 500 (limit - offset)) =
            listing.take (offset + min 500 (limit - offset)) := List.take_add.symm
        dsimp only
        rw [extended]
        split
        · rename_i short
          have exhausted : listing.length ≤ offset + min 500 (limit - offset) := by
            rw [List.length_take, List.length_drop] at short
            omega
          rw [List.take_of_length_le exhausted]
        · rename_i whole
          have pageLength : ((listing.drop offset).take (min 500 (limit - offset))).length =
              min 500 (limit - offset) := by
            rw [List.length_take, List.length_drop] at whole ⊢
            omega
          rw [pageLength]
          rw [List.length_take, List.length_drop] at whole
          exact ih _ (by omega) (by omega)

theorem plaidFetchTransactions_eq (endpoint : TransactionsEndpoint) (rows : List PlaidRow)
    (since now : Instant) :
    plaidFetchTransactions endpoint rows since now none =
      ((endpoint.listing (plaidWindow since.date now.date rows)).take 100).map
        plaidTransaction := by
  have pages := fetchPages_take (endpoint.listing (plaidWindow since.date now.date rows)) 100 100 0
    (by omega) (Nat.zero_le _)
  unfold plaidFetchTransactions
  dsimp only [plaidLimit]
  split
  · rename_i reversed
    have noRows : plaidWindow since.date now.date rows = [] := by
      rw [plaidWindow, List.filter_eq_nil_iff]
      intro row _ inWindow
      rw [decide_eq_true_eq] at inWindow
      exact absurd (inWindow.1.trans inWindow.2) (not_le.mpr reversed)
    have nothing := (endpoint.perm []).eq_nil
    rw [noRows, nothing]
    rfl
  · exact congrArg _ pages

end FinanceSync.Sync
