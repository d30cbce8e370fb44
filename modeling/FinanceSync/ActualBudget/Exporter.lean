import FinanceSync.ActualBudget.Client
import Mathlib.Data.List.Lex

/-!
# Actual Budget exporter

A run exports the bank and cash accounts one after the other.  The negative leg of
a transfer becomes a native transfer where an account is found that it goes to; the
positive legs are left out, and every other transaction is imported.
-/

namespace FinanceSync.ActualBudget

open Lib

/-! ## What a run works on -/

structure Account where
  id : String
  name : String
  accountType : String
  providerKey : String
  isActive : Bool := true
  providerMetadata : Option (List (String × Json)) := none

structure ActualBudgetConfig where
  accountNameOverrides : List (String × String) := []
  transferAccountNameOverrides : List (String × String) := []

/-- The canonical rows of the tenant, told apart by their primary keys. -/
structure Source where
  accounts : List Account
  transactions : List Transaction
  accountIds : (accounts.map (·.id)).Nodup
  transactionIds : (transactions.map (·.id)).Nodup

/-- What the exporter takes from Python, from the database and from actualpy.  The
database orders names by the keys of its collation. -/
structure Runtime where
  upper : String → String
  casefold : String → String
  collationKey : String → List Nat
  byName : OrderBy fun account : Account => collationKey account.name
  byOccurredAt : OrderBy Transaction.occurredAt
  decimalToCents : ℚ → Int

/-- Texts in ASCII, names in the order of their characters, and cents that are
rounded half to even. -/
def asciiRuntime : Runtime where
  upper := fun text => text.map Char.toUpper
  casefold := fun text => text.map Char.toLower
  collationKey := fun text => text.toList.map Char.toNat
  byName := OrderBy.stable _
  byOccurredAt := OrderBy.stable _
  decimalToCents := Wealthfolio.cents

/-- The arguments of a run; no accounts and a limit of zero mean all. -/
structure ExportRun where
  config : ActualBudgetConfig
  source : Source
  accountIds : List String := []
  since : Instant
  maxTransactions : Nat := 0

/-- The budget and the names of the Actual accounts that accounts are mapped to. -/
structure ExportState where
  budget : Budget
  mappings : String → Option String

/-- What a run reports for an account. -/
structure AccountReport where
  account : Account
  failed : Nat
  exportedIds : List String

/-! ## Accounts -/

def actualBudgetAccountTypes : List String := ["checking", "savings", "cash"]

def brokerProviderKeys : List String :=
  ["saxoinvestor", "saxo", "trading212", "degiro", "interactive_brokers", "ibkr", "etoro", "lynx"]

/-- Return whether the account is a bank/cash account for Actual Budget. -/
def isActualBudgetEligibleAccount (account : Account) : Bool :=
  let providerKey := account.providerKey.toLower.map fun char => if char = '-' then '_' else char
  account.accountType.toLower ∈ actualBudgetAccountTypes && providerKey ∉ brokerProviderKeys

/-- `"".join(value.upper().split())` -/
def normalizeAccountReference (runtime : Runtime) (value : String) : String :=
  String.ofList ((runtime.upper value).toList.filter fun char => !isSpace char)

/-- The IBAN in the metadata of an account. -/
def accountIban (runtime : Runtime) (account : Account) : String :=
  match dictGet (account.providerMetadata.getD []) "iban" with
  | some (.string iban) => normalizeAccountReference runtime iban
  | _ => ""

section Exporter

variable (runtime : Runtime) (run : ExportRun)

/-- Load the accounts to export. -/
def loadAccounts : List Account :=
  (runtime.byName.sort (run.source.accounts.filter fun account =>
    account.isActive && (run.accountIds.isEmpty || account.id ∈ run.accountIds))).filter
      isActualBudgetEligibleAccount

/-- The name of an exported account in Actual Budget. -/
def configuredName (account : Account) : String :=
  (run.config.accountNameOverrides.lookup account.id).getD account.name

/-- `_account_names_by_iban`; of two accounts with an IBAN the later one counts. -/
def ownAccountName (iban : String) : Option String :=
  ((loadAccounts runtime run).reverse.find? fun account =>
    accountIban runtime account ≠ "" && accountIban runtime account = iban).map
      (configuredName run)

/-- Find an Actual account for the account, creating one if needed. -/
def resolveAbAccount (state : ExportState) (account : Account) : String × ExportState :=
  match (state.mappings account.id).filter (· ∈ state.budget.accounts) with
  | some abAccountName => (abAccountName, state)
  | none =>
      let abName := configuredName run account
      (abName,
        { budget := state.budget.getOrCreateAccount abName
          mappings := Function.update state.mappings account.id (some abName) })

/-! ## Transactions -/

/-- The transactions of an account in the window of the run. -/
def fetchPendingTransactions (account : Account) : List Transaction :=
  runtime.byOccurredAt.sort (run.source.transactions.filter fun transaction =>
    transaction.accountId = account.id && run.since ≤ transaction.occurredAt &&
      transaction.status ∈ [.booked, .pending] && transaction.exportStatus = "active")

def seconds (count : Int) : Int := count * 1000000

/-- Resolve a PAYMENT_ALLOCATE destination from its opposite leg. -/
def findEasyBudgetingPeer (transaction : Transaction) : Option String :=
  let candidates := runtime.byOccurredAt.sort (run.source.transactions.filter fun other =>
    other.providerKey = "bunq" && other.accountId ≠ transaction.accountId &&
      other.transactionType = .transfer &&
      other.amount.value = -transaction.amount.value &&
      other.description = transaction.description &&
      transaction.occurredAt - seconds 15 ≤ other.occurredAt &&
      other.occurredAt ≤ transaction.occurredAt + seconds 15)
  candidates.findSome? fun other =>
    (run.source.accounts.find? (·.id = other.accountId)).map (·.name)

/-- `str(metadata.get(key, ""))` -/
def metadataText (transaction : Transaction) (key : String) : String :=
  (((transaction.providerMetadata.getD []).lookup key).map Json.str).getD ""

/-- The budget of an Easy-Budgeting movement. -/
def easyBudget (transaction : Transaction) : String :=
  String.ofList (strip (metadataText transaction "easy_budgeting_budget").toList)

/-- The name of the first exported account with a folded name. -/
def accountCalled (folded : String) : Option String :=
  ((loadAccounts runtime run).find? fun account => runtime.casefold account.name = folded).map
    (·.name)

/-- The account that the metadata of an Easy-Budgeting movement names. -/
def easyBudgetingAccount (transaction : Transaction) : Option String :=
  let operation := metadataText transaction "easy_budgeting_operation"
  if operation = "top_up" ∧ easyBudget transaction ≠ "" then
    accountCalled runtime run (runtime.casefold (easyBudget transaction))
  else if operation = "remainder" then accountCalled runtime run "inbox"
  else none

/-- The account of a top-up, the only movement that the second search reads. -/
def topUpAccount (transaction : Transaction) : Option String :=
  match (transaction.providerMetadata.getD []).lookup "easy_budgeting_operation" with
  | some (.string "top_up") =>
      if easyBudget transaction = "" then none
      else accountCalled runtime run (runtime.casefold (easyBudget transaction))
  | _ => none

/-- The destination by which a transfer is told to be a native one. -/
def classifiedDestination (transaction : Transaction) : Option String :=
  let counterparty := transaction.counterpartyAccountReference.getD ""
  if transaction.transactionType = .transfer then
    (present (run.config.transferAccountNameOverrides.lookup counterparty)).or
      ((present (easyBudgetingAccount runtime run transaction)).or
        ((present (findEasyBudgetingPeer runtime run transaction)).or
          (present (ownAccountName runtime run
            (normalizeAccountReference runtime counterparty)))))
  else none

/-- The destination that a native transfer is booked to. -/
def bookedDestination (transaction : Transaction) : Option String :=
  let counterparty := transaction.counterpartyAccountReference.getD "None"
  let configured :=
    match run.config.transferAccountNameOverrides.lookup counterparty with
    | some name => some name
    | none => ownAccountName runtime run (normalizeAccountReference runtime counterparty)
  (present configured).or
    ((present (findEasyBudgetingPeer runtime run transaction)).or
      (present (topUpAccount runtime run transaction)))

/-- The positive leg of a transfer. -/
def isPositiveLeg (transaction : Transaction) : Bool :=
  transaction.transactionType = .transfer && 0 < transaction.amount.value

/-- A leg that is exported as a native transfer. -/
def isNativeTransfer (transaction : Transaction) : Bool :=
  !isPositiveLeg transaction && (classifiedDestination runtime run transaction).isSome

def transferTransactions (account : Account) : List Transaction :=
  (fetchPendingTransactions runtime run account).filter (isNativeTransfer runtime run)

/-- The transactions of an account that are imported as they are. -/
def importedTransactions (account : Account) : List Transaction :=
  let imported := (fetchPendingTransactions runtime run account).filter fun transaction =>
    !isPositiveLeg transaction && !isNativeTransfer runtime run transaction
  if run.maxTransactions = 0 then imported else imported.take run.maxTransactions

/-! ## The run -/

def transferReference (transaction : Transaction) : String := "finance-sync:" ++ transaction.id

/-- What the transfers of an account leave. -/
structure TransferProgress where
  budget : Budget
  failed : Nat
  deliveredIds : List String

/-- Create the native transfer of a leg unless there is one with its reference. -/
def exportTransfer (abName : String) (progress : TransferProgress) (transaction : Transaction) :
    TransferProgress :=
  match bookedDestination runtime run transaction with
  | none => { progress with failed := progress.failed + 1 }
  | some destination =>
      let deliveredIds := progress.deliveredIds ++ [transaction.id]
      if progress.budget.transferExists (transferReference transaction) then
        { progress with deliveredIds }
      else
        let (source, target) :=
          if 0 < transaction.amount.value then (destination, abName) else (abName, destination)
        { progress with
          budget := (progress.budget.getOrCreateAccount destination).createTransfer
            runtime.decimalToCents (Instant.date transaction.occurredAt) source target
            |transaction.amount.value| (transferReference transaction)
          deliveredIds }

/-- The payloads of an account. -/
def mappedTransactions (abName : String) (account : Account) : List Payload :=
  (importedTransactions runtime run account).map fun transaction =>
    mapTransaction transaction abName (categoryName transaction)

/-- Export one account. -/
def exportAccount (state : ExportState) (account : Account) : ExportState × AccountReport :=
  let (abName, state) := resolveAbAccount run state account
  let txns := fetchPendingTransactions runtime run account
  let mapped := mappedTransactions runtime run abName account
  let progress := (transferTransactions runtime run account).foldl
    (exportTransfer runtime run abName)
    ⟨state.budget, 0, (txns.filter isPositiveLeg).map (·.id)⟩
  let budget := progress.budget.importTransactionsBatch runtime.decimalToCents abName mapped
  let others := txns.filter fun transaction => !isNativeTransfer runtime run transaction
  ({ state with budget },
    ⟨account, progress.failed, progress.deliveredIds ++ (others.map (·.id)).take mapped.length⟩)

/-- Export accounts one after the other. -/
def exportAccounts (state : ExportState) : List Account → ExportState × List AccountReport
  | [] => (state, [])
  | account :: rest =>
      let (exported, report) := exportAccount runtime run state account
      let (last, reports) := exportAccounts exported rest
      (last, report :: reports)

/-- Export transactions to Actual Budget. -/
def runExport (state : ExportState) : ExportState × List AccountReport :=
  exportAccounts runtime run state (loadAccounts runtime run)

end Exporter

end FinanceSync.ActualBudget
