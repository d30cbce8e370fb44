import FinanceSync.Lib.Markers
import FinanceSync.Wealthfolio.EasyBudgeting
import FinanceSync.Wealthfolio.HoldingsReconciliation
import FinanceSync.Wealthfolio.Preflight

/-!
# The push of an account

`push_to_wealthfolio` for one account.  Its loop maps the transactions of a window and imports
them in chunks.  Where it comes to its end, the reconciliation imports the active transactions
that the destination does not name and compares the totals.
-/

namespace FinanceSync.Wealthfolio

open Lib

/-! ## What a push reads -/

/-- A canonical account, restricted to what the push reads of it. -/
structure ExportAccount where
  id : String
  name : String
  currencyCode : String
  /-- `_supports_multi_currency_cash` -/
  supportsMultiCurrencyCash : Bool := false

/-- An account with its transactions. -/
structure AccountSource where
  account : ExportAccount
  transactions : List Transaction
  nodup : (transactions.map (·.id)).Nodup

/-- The configuration of the exporter, the securities and the run. -/
structure PushContext where
  sha256 : String → String
  instrumentTypeMap : List (String × String) := []
  defaultCurrency : String := "EUR"
  includePending : Bool := false
  tolerances : Tolerances
  securityMap : String → Option Security
  importRunId : String
  order : OrderBy Transaction.occurredAt

/-- An activity as the destination lists it.  The numbers are `Decimal(str(value or 0))`. -/
structure RemoteActivity where
  sourceRecordId : Option String
  idempotencyKey : Option String
  /-- `comment or notes or ""` -/
  comment : String
  amount : ℚ
  fee : ℚ
  tax : ℚ
  /-- `json.dumps(activity, sort_keys=True)` -/
  dumped : String

/-- The calls of an account's destination.  A call that raises does so with a text, and may have
changed the content. -/
structure Destination (Content : Type) where
  /-- `push_activities`, with the number of activities that were refused. -/
  pushActivities : Content → List WfRow → Content × Except String Nat
  /-- `get_all_activities` -/
  getAllActivities : Content → Except String (List RemoteActivity)

/-- What else happens to an account around the import. -/
structure AccountSteps (Content : Type) where
  /-- The account, the cleanup and the holdings, with their findings. -/
  prepare : Content → Content × Except String (List String)
  /-- `_assign_spending_categories` -/
  assignSpendingCategories : Content → Content × Except String Unit
  /-- The cursor and the holdings, with their findings. -/
  settle : Content → Content × Except String (List String)

/-- What is reported of an account. -/
inductive PushError
  /-- A finding of the holdings, or the text of an exception. -/
  | text (error : String)
  | isolated (transactionId message : String)
  | securityRequired (transactionId : String)
  | skipped (transactionId message : String)
  | rejected (failed attempted : Nat)
  | unreadable (transactionId message : String)
  | absent (externalTransactionId : String)
  | differs (label : String) (source remote : ℚ)

/-- The text of an error, where `spell` spells a number. -/
def PushError.error (spell : ℚ → String) : PushError → String
  | text error => error
  | isolated transactionId message =>
      "Transactie " ++ transactionId ++ " is geïsoleerd: " ++ message
  | securityRequired transactionId =>
      "Security-resolutie vereist voor transactie " ++ transactionId ++ "."
  | skipped transactionId message =>
      "Transactie " ++ transactionId ++ " is overgeslagen: " ++ message
  | rejected failed attempted =>
      "Wealthfolio API rejected " ++ toString failed ++ " of " ++ toString attempted ++
        " activities"
  | unreadable transactionId message =>
      "Transactie " ++ transactionId ++ " kan niet worden gecontroleerd: " ++ message
  | absent externalTransactionId =>
      "Brontransactie ontbreekt in Wealthfolio: " ++ externalTransactionId ++ "."
  | differs label source remote =>
      "Reconciliatie " ++ label ++ " wijkt af (" ++ spell source ++ " versus " ++ spell remote ++
        ")."

/-- `(str(exc) or repr(exc))[:512]` -/
def raisedError (raised : String) : PushError := .text (String.ofList (raised.toList.take 512))

/-- `str` of the exception of a number that is too long. -/
def invalidOperationText : String := "[<class 'decimal.InvalidOperation'>]"

/-- A row with the transaction that it stems from. -/
abbrev MappedRow := Transaction × WfRow

namespace PushContext

variable (context : PushContext)

/-- The statuses and the export status of a transaction that is projected. -/
def IsActive (txn : Transaction) : Prop :=
  (txn.status = .booked ∨ context.includePending ∧ txn.status = .pending) ∧
    txn.exportStatus = "active"

instance (txn : Transaction) : Decidable (context.IsActive txn) :=
  inferInstanceAs (Decidable (_ ∧ _))

/-- `_fetch_all_active_transactions` -/
def fetchAllActiveTransactions (source : AccountSource) : List Transaction :=
  context.order.sort (source.transactions.filter fun txn => context.IsActive txn)

/-- `_fetch_pending_transactions` -/
def fetchPendingTransactions (source : AccountSource) (since : Instant) : List Transaction :=
  context.order.sort (source.transactions.filter fun txn =>
    context.IsActive txn ∧ since ≤ txn.occurredAt)

/-- The security of a transaction. -/
def securityOf (txn : Transaction) : Option Security :=
  (txn.securityId.filter (· ≠ "")).bind context.securityMap

/-- The arguments of the import, except for the run. -/
def repairOptions (account : ExportAccount) : MappingOptions where
  instrumentTypeMap := context.instrumentTypeMap
  defaultCurrency := context.defaultCurrency
  accountCurrency := some account.currencyCode
  allowMultiCurrencyCash := account.supportsMultiCurrencyCash

/-- The arguments of the import. -/
def importOptions (account : ExportAccount) : MappingOptions :=
  { context.repairOptions account with importRunId := some context.importRunId }

/-- The arguments of the check. -/
def checkOptions (account : ExportAccount) : MappingOptions where
  defaultCurrency := context.defaultCurrency
  accountCurrency := some account.currencyCode

/-- `map_transaction_to_wf_row` -/
def mapRow (options : MappingOptions) (txn : Transaction) : Except MappingError WfRow :=
  mapTransactionToWfRow context.sha256 options (context.securityOf txn) txn

end PushContext

/-! ## Chunks -/

/-- The size of an import request. -/
def chunkSize : Nat := 500

/-- `rows[offset : offset + chunk_size]` for each offset. -/
def chunksOf {Row : Type} (rows : List Row) : List (List Row) :=
  (List.range ((rows.length + chunkSize - 1) / chunkSize)).map fun index =>
    (rows.drop (index * chunkSize)).take chunkSize

/-- How the import of chunks ends. -/
inductive PushEnd
  | accepted
  | refused (failed : Nat)
  | raised (error : String)

section Push

variable {Content : Type} (destination : Destination Content)

/-- Import chunks up to the first one that is not accepted; with the rows that were sent. -/
def pushChunks : Content → List (List MappedRow) → Content × List MappedRow × PushEnd
  | content, [] => (content, [], .accepted)
  | content, chunk :: rest =>
      match destination.pushActivities content (chunk.map Prod.snd) with
      | (content, .error raised) => (content, chunk, .raised raised)
      | (content, .ok 0) =>
          let (content, sent, outcome) := pushChunks content rest
          (content, chunk ++ sent, outcome)
      | (content, .ok failed) => (content, chunk, .refused failed)

/-- The destination accepts one chunk after the other. -/
def Accepts : Content → List (List MappedRow) → Prop
  | _, [] => True
  | content, chunk :: rest =>
      (destination.pushActivities content (chunk.map Prod.snd)).2 = .ok 0 ∧
        Accepts (destination.pushActivities content (chunk.map Prod.snd)).1 rest

end Push

/-! ## The loop -/

/-- The rows of the transactions that are not blocked, up to one that has to wait. -/
def mapTransactions (context : PushContext) (account : ExportAccount) (blocked : List String) :
    List Transaction → Except String (List MappedRow × List PushError)
  | [] => .ok ([], [])
  | txn :: rest =>
      if txn.id ∈ blocked then mapTransactions context account blocked rest
      else
        match context.mapRow (context.importOptions account) txn with
        | .ok row => do
            let (rows, errors) ← mapTransactions context account blocked rest
            return ((txn, row) :: rows, errors)
        | .error (.unresolvedCashCurrency message) => .ok ([], [.text message])
        | .error (.unresolvedSecurity _) => .ok ([], [.securityRequired txn.id])
        | .error (.valueError message) => do
            let (rows, errors) ← mapTransactions context account blocked rest
            return (rows, .skipped txn.id message :: errors)
        | .error .invalidOperation => .error invalidOperationText

/-- What the loop comes to. -/
structure Imported (Content : Type) where
  content : Content
  /-- The transactions whose activities were sent. -/
  sent : List Transaction
  errors : List PushError
  /-- The end is reached, where the account is reconciled. -/
  reconciles : Bool

/-- The window and the limit of a push. -/
structure PushWindow where
  since : Instant
  maxTransactions : Option Nat := none

section Import

variable {Content : Type} (context : PushContext) (destination : Destination Content)
  (steps : AccountSteps Content) (source : AccountSource) (window : PushWindow)

/-- The transactions of the window, without those of Easy Budgeting. -/
def windowTransactions : List Transaction :=
  (context.fetchPendingTransactions source window.since).filter
    fun txn => !isBunqEasyBudgetingTransaction txn

/-- `txns[:max_transactions]`, where zero is no limit. -/
def limitedTransactions : List Transaction :=
  match window.maxTransactions.filter (· ≠ 0) with
  | some limit => (windowTransactions context source window).take limit
  | none => windowTransactions context source window

/-- The errors that isolate transactions. -/
def isolatingFindings (transactions : List Transaction) : List PreflightFinding :=
  (validateTransactionStream transactions).filter (·.severity = .error)

/-- The rows of the loop, with what is reported of the transactions without one. -/
def mappedTransactions : Except String (List MappedRow × List PushError) :=
  let transactions := limitedTransactions context source window
  mapTransactions context source.account ((isolatingFindings transactions).map (·.recordId))
    transactions

/-- What follows an import that the destination accepted. -/
def finishImport (content : Content) (sent : List Transaction) (errors : List PushError) :
    Imported Content :=
  match steps.assignSpendingCategories content with
  | (content, .error raised) => ⟨content, sent, errors ++ [raisedError raised], false⟩
  | (content, .ok ()) =>
      match steps.settle content with
      | (content, .error raised) => ⟨content, sent, errors ++ [raisedError raised], false⟩
      | (content, .ok findings) => ⟨content, sent, errors ++ findings.map .text, true⟩

/-- Import the rows of the loop. -/
def importRows (content : Content) (rows : List MappedRow) (errors : List PushError) :
    Imported Content :=
  match pushChunks destination content (chunksOf rows) with
  | (content, sent, .raised raised) =>
      ⟨content, sent.map Prod.fst, errors ++ [raisedError raised], false⟩
  | (content, sent, .refused failed) =>
      ⟨content, sent.map Prod.fst, errors ++ [.rejected failed rows.length], false⟩
  | (content, sent, .accepted) => finishImport steps content (sent.map Prod.fst) errors

/-- `push_to_wealthfolio` for an account, up to its reconciliation. -/
def importAccount (content : Content) : Imported Content :=
  match steps.prepare content with
  | (content, .error raised) => ⟨content, [], [raisedError raised], false⟩
  | (content, .ok findings) =>
      let prepared := findings.map PushError.text
      if windowTransactions context source window = [] then
        match steps.assignSpendingCategories content with
        | (content, .error raised) => ⟨content, [], prepared ++ [raisedError raised], false⟩
        | (content, .ok ()) => ⟨content, [], prepared, false⟩
      else
        let isolated :=
          (isolatingFindings (limitedTransactions context source window)).map fun finding =>
            PushError.isolated finding.recordId finding.message
        match mappedTransactions context source window with
        | .error raised => ⟨content, [], prepared ++ isolated ++ [raisedError raised], false⟩
        | .ok (rows, errors) =>
            if rows = [] then ⟨content, [], prepared ++ isolated ++ errors, false⟩
            else importRows destination steps content rows (prepared ++ isolated ++ errors)

end Import

/-! ## The reconciliation -/

/-- `comment.split("ID:", 1)[1].strip()`, if the comment has the marker. -/
def commentId (comment : String) : Option String :=
  (afterFirst "ID:".toList comment.toList).map fun tail => String.ofList (strip tail)

/-- The names under which an activity is written to the index, in order. -/
def RemoteActivity.names (activity : RemoteActivity) : List String :=
  (activity.sourceRecordId.filter (· ≠ "")).toList ++
    (activity.idempotencyKey.filter (· ≠ "")).toList ++ (commentId activity.comment).toList

/-- `remote_by_id` -/
def remoteById (remote : List RemoteActivity) : List (String × RemoteActivity) :=
  remote.flatMap fun activity => activity.names.map fun name => (name, activity)

section Reconciliation

variable {Content : Type} (context : PushContext) (destination : Destination Content)
  (source : AccountSource)

/-- The active transactions that the destination does not name. -/
def missingTransactions (remote : List RemoteActivity) : List Transaction :=
  (context.fetchAllActiveTransactions source).filter fun txn =>
    txn.externalTransactionId ∉ (remoteById remote).map Prod.fst ∧
      idempotencyKey context.sha256 txn ∉ (remoteById remote).map Prod.fst

/-- The rows of missing transactions; what has no row is left out. -/
def repairRows : List Transaction → Except String (List MappedRow)
  | [] => .ok []
  | txn :: rest =>
      match context.mapRow (context.repairOptions source.account) txn with
      | .ok row => do
          let rows ← repairRows rest
          return (txn, row) :: rows
      | .error .invalidOperation => .error invalidOperationText
      | .error _ => repairRows rest

/-- The cash, fees and taxes of the source and of the destination. -/
structure Totals where
  sourceCash : ℚ := 0
  remoteCash : ℚ := 0
  sourceFee : ℚ := 0
  remoteFee : ℚ := 0
  sourceTax : ℚ := 0
  remoteTax : ℚ := 0

/-- `Decimal(str(text or 0))` -/
def numberOrZero (text : String) : ℚ := (readNumber text).getD 0

/-- The totals with one more transaction. -/
def Totals.add (totals : Totals) (txn : Transaction) (row : WfRow) (activity : RemoteActivity) :
    Totals :=
  let cash := decide (txn.transactionType ≠ .purchase ∧ txn.transactionType ≠ .sale)
  { sourceCash := totals.sourceCash + if cash then numberOrZero row.amount else 0
    remoteCash := totals.remoteCash + if cash then activity.amount else 0
    sourceFee := totals.sourceFee + numberOrZero row.fee
    remoteFee := totals.remoteFee + activity.fee
    sourceTax := totals.sourceTax + numberOrZero row.tax
    remoteTax := totals.remoteTax + activity.tax }

/-- The activity of a row: by its key, by the id of the transaction, or by that id anywhere. -/
def activityOf (remote : List RemoteActivity) (txn : Transaction) (row : WfRow) :
    Option RemoteActivity :=
  let written := (remoteById remote).reverse
  (written.lookup row.idempotencyKey).or <|
    (written.lookup txn.externalTransactionId).or <|
      if txn.externalTransactionId = "" then none
      else remote.find? fun activity =>
        decide (txn.externalTransactionId.toList <:+: activity.dumped.toList)

/-- The totals of the transactions, and those that cannot be compared. -/
def compareTransactions (remote : List RemoteActivity) :
    Totals → List Transaction → Except String (Totals × List PushError)
  | totals, [] => .ok (totals, [])
  | totals, txn :: rest =>
      let report (message : String) : Except String (Totals × List PushError) := do
        let (totals, errors) ← compareTransactions remote totals rest
        return (totals, .unreadable txn.id message :: errors)
      match context.mapRow (context.checkOptions source.account) txn with
      | .ok row =>
          match activityOf remote txn row with
          | none => do
              let (totals, errors) ← compareTransactions remote totals rest
              return (totals, .absent txn.externalTransactionId :: errors)
          | some activity => compareTransactions remote (totals.add txn row activity) rest
      | .error .invalidOperation => .error invalidOperationText
      | .error (.unresolvedCashCurrency message) => report message
      | .error (.unresolvedSecurity message) => report message
      | .error (.valueError message) => report message

/-- A total that is not within the tolerances. -/
def totalError (label : String) (left right : ℚ) : List PushError :=
  if context.tolerances.ofValue left < |left - right| then [.differs label left right] else []

/-- The findings of a comparison. -/
def compareTotals (remote : List RemoteActivity) : Except String (List PushError) := do
  let (totals, errors) ←
    compareTransactions context source remote {} (context.fetchAllActiveTransactions source)
  return errors ++ totalError context "bruto cashbedrag" totals.sourceCash totals.remoteCash ++
    totalError context "fees" totals.sourceFee totals.remoteFee ++
    totalError context "belastingen" totals.sourceTax totals.remoteTax

/-- What the reconciliation comes to. -/
structure Reconciled (Content : Type) where
  content : Content
  sent : List Transaction
  result : Except String (List PushError)

/-- `_reconcile_activity_totals` -/
def reconcileActivityTotals (content : Content) : Reconciled Content :=
  match destination.getAllActivities content with
  | .error raised => ⟨content, [], .error raised⟩
  | .ok remote =>
      if missingTransactions context source remote = [] then
        ⟨content, [], compareTotals context source remote⟩
      else
        match repairRows context source (missingTransactions context source remote) with
        | .error raised => ⟨content, [], .error raised⟩
        | .ok rows =>
            match pushChunks destination content (chunksOf rows) with
            | (content, sent, .raised raised) => ⟨content, sent.map Prod.fst, .error raised⟩
            | (content, sent, _) =>
                match destination.getAllActivities content with
                | .error raised => ⟨content, sent.map Prod.fst, .error raised⟩
                | .ok remote =>
                    ⟨content, sent.map Prod.fst, compareTotals context source remote⟩

end Reconciliation

/-! ## The push -/

/-- What the push of an account comes to. -/
structure Pushed (Content : Type) where
  content : Content
  sent : List Transaction
  errors : List PushError

/-- `push_to_wealthfolio` for an account. -/
def pushAccount {Content : Type} (context : PushContext) (destination : Destination Content)
    (steps : AccountSteps Content) (source : AccountSource) (window : PushWindow)
    (content : Content) : Pushed Content :=
  let imported := importAccount context destination steps source window content
  if imported.reconciles then
    let reconciled := reconcileActivityTotals context destination source imported.content
    { content := reconciled.content
      sent := imported.sent ++ reconciled.sent
      errors := imported.errors ++
        match reconciled.result with
        | .error raised => [raisedError raised]
        | .ok findings => findings }
  else ⟨imported.content, imported.sent, imported.errors⟩

end FinanceSync.Wealthfolio
