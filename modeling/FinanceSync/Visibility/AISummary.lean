import FinanceSync.Visibility.Reads

/-!
# Summaries by a language model

Financial data is gathered within the scope of the principal, put into a prompt and
answered by a language model.  The answers are kept for some time in a cache of the
process, under keys that name the tenant but not the scope.
-/

namespace FinanceSync.Visibility

open Lib Auth OrderDual

/-! ## The prompt -/

structure TransactionLine where
  account : String
  amount : ℚ
  currency : String
  description : Option String
  date : Instant
  transactionType : TransactionType

/-- What `_collect_financial_data` gathers. -/
structure FinancialData where
  totalAssets : ℚ
  totalLiabilities : ℚ
  netWorth : ℚ
  currency : String
  portfolioValue : ℚ
  portfolioCostBasis : ℚ
  portfolioAccounts : Nat
  accounts : Nat
  activeAccounts : Nat
  totalInPeriod : Nat
  spendingTotal : ℚ
  incomeTotal : ℚ
  recent : List TransactionLine

def transactionLine (account : Account) (transaction : Transaction) : TransactionLine where
  account := account.name
  amount := transaction.amount
  currency := transaction.currencyCode
  description := transaction.description
  date := transaction.occurredAt
  transactionType := transaction.transactionType

def Database.collectFinancialData (db : Database) (scope : ReadScope) (now : Instant)
    (timePeriodDays : Nat) : FinancialData :=
  let since := now - Instant.days timePeriodDays
  let netWorth := db.getNetWorth scope
  let portfolio := db.getPortfolio scope
  let accounts := db.listAccounts scope 100
  let lines := accounts.items.flatMap fun account =>
    (db.listAccountTransactions scope account.id 50 since).map (transactionLine account)
  let amounts := lines.map TransactionLine.amount
  { totalAssets := netWorth.totalAssets
    totalLiabilities := netWorth.totalLiabilities
    netWorth := netWorth.netWorth
    currency := netWorth.currencyCode
    portfolioValue := portfolio.totalValue
    portfolioCostBasis := portfolio.totalCostBasis
    portfolioAccounts := portfolio.accounts.length
    accounts := accounts.total
    activeAccounts := accounts.items.countP Account.isActive
    totalInPeriod := lines.length
    spendingTotal := ((amounts.filter (· < 0)).map (|·|)).sum
    incomeTotal := (amounts.filter (0 < ·)).sum
    recent := ((OrderBy.stable fun line => toDual line.date).sort lines).take 20 }

inductive PromptTemplate
  | summary
  | dailyBriefing

/-- What the text of a prompt is made from. -/
structure Prompt where
  template : PromptTemplate
  maxLength : Nat
  data : FinancialData

/-- The model that answered, and its text. -/
abbrev LanguageModel := Prompt → String × String

/-! ## The cache -/

inductive CacheKey
  | summary (tenantId : Uuid) (timePeriodDays : Nat)
  | dailyBriefing (tenantId : Uuid) (today : Int)
deriving DecidableEq

inductive Generated
  | summary (summary : String) (generatedAt : Instant) (model : String)
  | dailyBriefing (briefing : String) (date : Int) (generatedAt : Instant) (model : String)

/-- An entry of `_CACHE`.  The scope within which the value was made is not stored
by the program, and nothing here looks at it; it is what proofs speak about. -/
structure CacheEntry where
  expiresAt : Instant
  value : Generated
  scope : ReadScope

/-- The cache of the process. -/
abbrev Cache := CacheKey → Option CacheEntry

/-- `_cache_get`; an entry that is past its time is deleted. -/
def cacheGet (cache : Cache) (key : CacheKey) (now : Instant) : Option Generated × Cache :=
  match cache key with
  | none => (none, cache)
  | some entry =>
      if entry.expiresAt < now then (none, Function.update cache key none)
      else (some entry.value, cache)

/-! ## Generating -/

structure Settings where
  aiEnabled : Bool := true
  aiApiKey : Option String := none
  aiProvider : String := "openai"
  /-- `ai_summary_cache_ttl_seconds`, in microseconds. -/
  aiSummaryCacheTtl : Int := 3600 * 1000000
  aiSummaryMaxLength : Nat := 500

/-- A request to the AI endpoints. -/
inductive AIRequest
  | summary (timePeriodDays : Nat) (forceRefresh : Bool)
  | dailyBriefing (forceRefresh : Bool)

namespace AIRequest

def forceRefresh : AIRequest → Bool
  | summary _ forceRefresh => forceRefresh
  | dailyBriefing forceRefresh => forceRefresh

def cacheKey (tenantId : Uuid) (now : Instant) : AIRequest → CacheKey
  | summary timePeriodDays _ => .summary tenantId timePeriodDays
  | dailyBriefing _ => .dailyBriefing tenantId (Instant.date now)

def template : AIRequest → PromptTemplate
  | summary _ _ => .summary
  | dailyBriefing _ => .dailyBriefing

def timePeriodDays : AIRequest → Nat
  | summary timePeriodDays _ => timePeriodDays
  | dailyBriefing _ => 1

def generated (answer : String × String) (now : Instant) : AIRequest → Generated
  | summary _ _ => .summary answer.2 now answer.1
  | dailyBriefing _ => .dailyBriefing answer.2 (Instant.date now) now answer.1

end AIRequest

/-- Why the provider is not called. -/
def llmRefusal (settings : Settings) : Option RequestError :=
  match settings.aiApiKey with
  | none => some (.http 503 ("AI summary generation is disabled: no AI_API_KEY configured. " ++
      "Set the AI_API_KEY environment variable."))
  | some _ =>
      if settings.aiProvider ∈ ["openai", "anthropic"] then none
      else some (.http 500 "Internal Server Error")

/-- `_call_llm`; an outage is how the call to the provider fails. -/
def callLlm (settings : Settings) (llm : LanguageModel) (outage : Option RequestError)
    (prompt : Prompt) : Except RequestError (String × String) :=
  match (llmRefusal settings).or outage with
  | some error => .error error
  | none => .ok (llm prompt)

/-- The cached answer to a request, unless it is to be refreshed. -/
def lookUp (cache : Cache) (tenantId : Uuid) (now : Instant) (request : AIRequest) :
    Option Generated × Cache :=
  if request.forceRefresh then (none, cache)
  else cacheGet cache (request.cacheKey tenantId now) now

/-- Gather the data, build the prompt, call the language model, and cache what it
answers. -/
def generateFresh (settings : Settings) (llm : LanguageModel) (db : Database) (cache : Cache)
    (scope : ReadScope) (now : Instant) (outage : Option RequestError) (request : AIRequest) :
    Cache × Except RequestError Generated :=
  let prompt : Prompt :=
    { template := request.template
      maxLength := settings.aiSummaryMaxLength
      data := db.collectFinancialData scope now request.timePeriodDays }
  match callLlm settings llm outage prompt with
  | .error error => (cache, .error error)
  | .ok answer =>
      let value := request.generated answer now
      let entry : CacheEntry := { expiresAt := now + settings.aiSummaryCacheTtl, value, scope }
      (Function.update cache (request.cacheKey scope.tenantId now) (some entry), .ok value)

/-- `generate_summary` and `generate_daily_briefing`, with the cache that they
leave. -/
def generate (settings : Settings) (llm : LanguageModel) (db : Database) (cache : Cache)
    (scope : ReadScope) (now : Instant) (outage : Option RequestError) (request : AIRequest) :
    Cache × Except RequestError Generated :=
  match lookUp cache scope.tenantId now request with
  | (some value, cache) => (cache, .ok value)
  | (none, cache) => generateFresh settings llm db cache scope now outage request

end FinanceSync.Visibility
