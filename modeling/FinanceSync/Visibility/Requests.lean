import FinanceSync.Visibility.AISummary
import FinanceSync.Visibility.CategoryReview

/-!
# Requests to one process

The endpoints behind their guards, and the process that serves one request after
the other: the database, and the cache that all principals share.
-/

namespace FinanceSync.Visibility

open Lib Auth

/-! ## Writes -/

/-- A request to change a transaction. -/
inductive WriteRequest
  | correctDataQuality (body : DataQualityCorrection)
  | createSpendingOverride (fieldName : String) (value : Json)
  | tombstoneSpendingTransaction
  | createSpendingSplit (body : SpendingSplit)
  | createSpendingEvent (body : SpendingEvent)
  | classifyBunqOther (category : String)

namespace WriteRequest

/-- What is done with the transaction, unless the body is refused. -/
def handler (writer : Writer) : WriteRequest → Except RequestError Handler
  | correctDataQuality body =>
      if body.isEmpty then .error emptyCorrection
      else .ok (Visibility.correctDataQuality writer body)
  | createSpendingOverride fieldName value =>
      .ok (Visibility.createSpendingOverride writer fieldName value)
  | tombstoneSpendingTransaction => .ok (Visibility.tombstoneSpendingTransaction writer)
  | createSpendingSplit body => .ok (Visibility.createSpendingSplit writer body)
  | createSpendingEvent body => .ok (Visibility.createSpendingEvent writer body)
  | classifyBunqOther category =>
      match canonicalizeCategory category with
      | none => .error unknownCategory
      | some category => .ok (Visibility.classifyBunqOther writer category)

/-- The transaction that the request is about. -/
def find (db : Database) (tenantId transactionId : Uuid) : WriteRequest → Option Transaction
  | classifyBunqOther _ => db.findBankTransaction tenantId transactionId
  | _ => db.loadTransaction tenantId transactionId

end WriteRequest

def Database.write (db : Database) (tenantId transactionId : Uuid) (writer : Writer)
    (request : WriteRequest) : Except RequestError (Database × WriteReply) := do
  let handler ← request.handler writer
  db.handleWrite (request.find db tenantId transactionId) handler

/-! ## Reads within the scope -/

inductive ReadRequest
  | listTaxLots (query : Database.TaxLotQuery)
  | taxLotSummary (accountId securityId : Option Uuid)
  | getPortfolio
  | getPortfolioHistory (query : Database.HistoryQuery)
  | getCashflow (dateFrom dateTo : Option Instant) (accountId : Option Uuid)
  | getCashflowHistory (query : Database.HistoryQuery)

inductive ReadResponse
  | taxLots (response : Database.TaxLotListResponse)
  | taxLotSummary (summary : TaxLots.Summary)
  | portfolio (response : Database.PortfolioResponse)
  | portfolioHistory (response : Database.PortfolioHistoryResponse)
  | cashflow (response : Database.CashflowResponse)
  | cashflowHistory (response : Database.CashflowHistoryResponse)

def Database.read (db : Database) (scope : ReadScope) (now : Instant) :
    ReadRequest → ReadResponse
  | .listTaxLots query => .taxLots (db.listTaxLots scope query)
  | .taxLotSummary accountId securityId =>
      .taxLotSummary (db.taxLotSummary scope accountId securityId)
  | .getPortfolio => .portfolio (db.getPortfolio scope)
  | .getPortfolioHistory query => .portfolioHistory (db.getPortfolioHistory scope query)
  | .getCashflow dateFrom dateTo accountId =>
      .cashflow (db.getCashflow scope dateFrom dateTo accountId now)
  | .getCashflowHistory query => .cashflowHistory (db.getCashflowHistory scope query now)

/-! ## The process -/

inductive Request
  | write (transactionId : Uuid) (request : WriteRequest)
  | spendingDetail (transactionId : Uuid)
  | listBunqOtherTransactions (limit : Nat)
  | read (request : ReadRequest)
  | ai (request : AIRequest)

/-- The permission that guards an endpoint. -/
def Request.permission : Request → String × String
  | write _ _ => ("transactions", "write")
  | spendingDetail _ | listBunqOtherTransactions _ | read (.getCashflow _ _ _)
  | read (.getCashflowHistory _) => ("transactions", "read")
  | read _ => ("holdings", "read")
  | ai _ => ("accounts", "read")

inductive Response
  | written (reply : WriteReply)
  | spendingDetail (response : SpendingDetailResponse)
  | reviewQueue (items : List ReviewItem)
  | read (response : ReadResponse)
  | generated (value : Generated)

/-- A request of a principal, with the instant, the ids and the outage of the
provider that it meets. -/
structure Call where
  principal : Principal
  request : Request
  now : Instant
  newId : Nat → Uuid := fun _ => 0
  outage : Option RequestError := none

def Call.writer (call : Call) : Writer where
  actor := call.principal.actor
  newId := call.newId
  now := call.now

/-- `_require_ai_enabled` and `require_permission` -/
def Call.guard (settings : Settings) (call : Call) : Except RequestError AuthContext :=
  let admitted := requirePermission call.request.permission.1 call.request.permission.2
    call.principal.auth
  match call.request with
  | .ai _ =>
      if settings.aiEnabled then admitted
      else .error (.http 404 ("AI summary features are disabled." ++
        " Set AI_ENABLED=true to enable."))
  | _ => admitted

structure Process where
  db : Database
  cache : Cache

namespace Process

/-- The process after its start, when nothing is cached. -/
def start (db : Database) : Process where
  db
  cache := fun _ => none

variable (settings : Settings) (llm : LanguageModel) (process : Process) (call : Call)

/-- The endpoint of a request that its guard admits. -/
def handle : Process × Except RequestError Response :=
  let tenantId := call.principal.tenantId
  let scope := getReadScope call.principal
  match call.request with
  | .write transactionId request =>
      match process.db.write tenantId transactionId call.writer request with
      | .error error => (process, .error error)
      | .ok (db, reply) => ({ process with db }, .ok (.written reply))
  | .spendingDetail transactionId =>
      (process, (process.db.spendingDetail tenantId transactionId).map .spendingDetail)
  | .listBunqOtherTransactions limit =>
      (process, .ok (.reviewQueue (process.db.listBunqOtherTransactions tenantId limit)))
  | .read request => (process, .ok (.read (process.db.read scope call.now request)))
  | .ai request =>
      let (cache, result) :=
        generate settings llm process.db process.cache scope call.now call.outage request
      ({ process with cache }, result.map .generated)

def serve : Process × Except RequestError Response :=
  match call.guard settings with
  | .error error => (process, .error error)
  | .ok _ => process.handle settings llm call

end Process

end FinanceSync.Visibility
