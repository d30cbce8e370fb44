import FinanceSync.Data.Values
import FinanceSync.Lib.Run
import Mathlib.Logic.Function.Basic

/-!
# Webhook deliveries

Every event that a webhook has subscribed to gets a row in the delivery log,
which each attempt to deliver it updates.  The first attempt belongs to the
outbox handler, the later ones to a worker that looks for failed rows whose next
attempt is due.
-/

namespace FinanceSync.Webhooks

/-- Delivery state of a webhook notification. -/
inductive WebhookDeliveryStatus
  | pending
  | delivered
  | failed
  | rateLimited
deriving DecidableEq, Repr

/-- A registered webhook endpoint. -/
structure Webhook where
  id : Uuid
  tenantId : Uuid
  events : List String
  isActive : Bool := true
deriving DecidableEq

/-- Record of the delivery of one event to one webhook. -/
structure WebhookDeliveryLog where
  id : Uuid
  webhookId : Uuid
  tenantId : Uuid
  eventType : String
  eventId : Option String
  status : WebhookDeliveryStatus := .pending
  attemptNumber : Nat := 1
  maxAttempts : Nat := 5
  nextRetryAt : Option Instant := none
  responseStatusCode : Option Nat := none
  responseBody : Option String := none
  durationMs : Option Nat := none
  errorMessage : Option String := none
deriving DecidableEq

structure Settings where
  webhookMaxRetries : Nat := 5
  /-- Seconds until the first retry. -/
  webhookRetryBaseDelayS : ℚ := 10

/-! ## One attempt -/

/-- How an attempt went. -/
inductive Outcome
  /-- The rate limiter did not allow it. -/
  | rateLimited
  | response (statusCode : Nat) (body : String)
  | timeout
  | requestError (name text : String)
  /-- Any other exception, the refusal of the address among them. -/
  | unexpected (text : String)
deriving DecidableEq

structure Attempt where
  outcome : Outcome
  durationMs : Nat := 0
  finishedAt : Instant := 0
deriving DecidableEq

/-- A status code that counts as success. -/
def Outcome.success : Outcome → Bool
  | response statusCode _ => 200 ≤ statusCode && statusCode < 300
  | _ => false

/-- What an attempt finds out. -/
structure Recorded where
  statusCode : Nat := 0
  responseBody : Option String := none
  errorMessage : Option String := none

def Outcome.recorded : Outcome → Recorded
  | rateLimited =>
      { statusCode := 429
        errorMessage := some "Rate limited: too many requests in the last 60 seconds" }
  | response statusCode body =>
      { statusCode
        responseBody := if body = "" then none else some (body.take 2048).toString
        errorMessage :=
          if 200 ≤ statusCode ∧ statusCode < 300 then none
          else some ("HTTP " ++ toString statusCode) }
  | timeout => { errorMessage := some "Request timed out" }
  | requestError name text => { errorMessage := some ("Request error: " ++ name ++ ": " ++ text) }
  | unexpected text => { errorMessage := some ("Unexpected error: " ++ text) }

/-- `webhook_retry_base_delay_s * 2 ** (attempt_number - 1)`, in microseconds. -/
def Settings.retryDelay (settings : Settings) (attemptNumber : Nat) : Int :=
  roundHalfEven (settings.webhookRetryBaseDelayS * 2 ^ (attemptNumber - 1) * 1000000)

/-- `_attempt_delivery` on the log entry. -/
def attemptDelivery (settings : Settings) (attempt : Attempt) (log : WebhookDeliveryLog) :
    WebhookDeliveryLog :=
  let recorded := attempt.outcome.recorded
  if attempt.outcome.success then
    { log with
      status := .delivered
      responseStatusCode := some recorded.statusCode
      responseBody := recorded.responseBody
      durationMs := some attempt.durationMs }
  else if attempt.outcome = .rateLimited then
    -- the next attempt is left as it was
    { log with
      status := .rateLimited
      responseStatusCode := some recorded.statusCode
      durationMs := some attempt.durationMs
      errorMessage := recorded.errorMessage }
  else
    { log with
      status := .failed
      responseStatusCode := some recorded.statusCode
      responseBody := recorded.responseBody
      durationMs := some attempt.durationMs
      errorMessage := recorded.errorMessage
      nextRetryAt :=
        if log.attemptNumber < log.maxAttempts then
          some (attempt.finishedAt + settings.retryDelay log.attemptNumber)
        else log.nextRetryAt }

/-- The update of the stored row at the end of an attempt. -/
def WebhookDeliveryLog.persist (entry stored : WebhookDeliveryLog) : WebhookDeliveryLog :=
  { stored with
    status := entry.status
    attemptNumber := entry.attemptNumber
    nextRetryAt := entry.nextRetryAt
    responseStatusCode := entry.responseStatusCode
    responseBody := entry.responseBody
    durationMs := entry.durationMs
    errorMessage := entry.errorMessage }

/-- The filter of `retry_due_deliveries`. -/
def WebhookDeliveryLog.retryDue (now : Instant) (log : WebhookDeliveryLog) : Bool :=
  log.status = .failed && log.nextRetryAt.any (fun due => due ≤ now) &&
    log.attemptNumber < log.maxAttempts

/-! ## The service -/

/-- An event as the outbox hands it over. -/
structure Event where
  eventType : String
  eventId : Option String
  tenantId : Option Uuid
deriving DecidableEq

structure Service where
  webhooks : List Webhook
  /-- The stored rows by id. -/
  logs : Uuid → Option WebhookDeliveryLog
  /-- The rows of a tick that a retry worker has not come to yet. -/
  selected : Nat → List WebhookDeliveryLog
  /-- The entry that a retry worker is trying to deliver. -/
  attempting : Nat → Option WebhookDeliveryLog
  /-- The id that the next row gets. -/
  nextLog : Uuid

inductive Step
  /-- `handle_outbox_message`, with the attempts at the webhooks of the event. -/
  | handle (event : Event) (attempts : Uuid → Attempt)
  /-- A tick of a retry worker begins.  Which of the due rows it takes (any, but no
  more than 100) is left open. -/
  | select (worker : Nat) (now : Instant) (ids : List Uuid)
  /-- The worker comes to the next row. -/
  | load (worker : Nat)
  /-- The attempt of the worker is over. -/
  | finish (worker : Nat) (attempt : Attempt)
  | crash (worker : Nat)
  /-- Webhooks are created, changed or deleted. -/
  | configure (webhooks : List Webhook)

namespace Service

def start : Service where
  webhooks := []
  logs := fun _ => none
  selected := fun _ => []
  attempting := fun _ => none
  nextLog := 0

variable (settings : Settings)

/-- `_get_active_webhooks_for_event` -/
def getActiveWebhooksForEvent (service : Service) (event : Event) : List Webhook :=
  service.webhooks.filter fun webhook =>
    webhook.isActive && webhook.events.contains event.eventType &&
      event.tenantId.all fun tenantId => webhook.tenantId = tenantId

/-- The row of a delivery that was not tried yet. -/
def newLog (id : Uuid) (event : Event) (webhook : Webhook) : WebhookDeliveryLog where
  id
  webhookId := webhook.id
  tenantId := webhook.tenantId
  eventType := event.eventType
  eventId := event.eventId
  status := .pending
  attemptNumber := 1
  maxAttempts := settings.webhookMaxRetries

/-- `_deliver` -/
def deliver (event : Event) (attempts : Uuid → Attempt) (service : Service) (webhook : Webhook) :
    Service :=
  let log := newLog settings service.nextLog event webhook
  { service with
    logs := Function.update service.logs service.nextLog
      (some (attemptDelivery settings (attempts webhook.id) log))
    nextLog := service.nextLog + 1 }

/-- The webhook of a row, if it is there and active. -/
def webhookActive (service : Service) (log : WebhookDeliveryLog) : Bool :=
  service.webhooks.any fun webhook => webhook.id = log.webhookId && webhook.isActive

def setWorker (service : Service) (worker : Nat) (selected : List WebhookDeliveryLog)
    (attempting : Option WebhookDeliveryLog) : Service :=
  { service with
    selected := Function.update service.selected worker selected
    attempting := Function.update service.attempting worker attempting }

/-- A stored row changes. -/
def editLog (service : Service) (id : Uuid) (edit : WebhookDeliveryLog → WebhookDeliveryLog) :
    Service :=
  { service with logs := Function.update service.logs id ((service.logs id).map edit) }

/-- One step; a step that a worker is not in the position to take does nothing. -/
def step (service : Service) : Step → Service
  | .handle event attempts =>
      (service.getActiveWebhooksForEvent event).foldl (deliver settings event attempts) service
  | .select worker now ids =>
      match service.selected worker, service.attempting worker with
      | [], none =>
          service.setWorker worker
            ((ids.dedup.filterMap fun id =>
              (service.logs id).filter fun log => log.retryDue now).take 100) none
      | _, _ => service
  | .load worker =>
      match service.selected worker, service.attempting worker with
      | log :: rest, none =>
          if service.webhookActive log then
            service.setWorker worker rest ((service.logs log.id).map fun fresh =>
              { fresh with attemptNumber := log.attemptNumber + 1 })
          else
            (service.setWorker worker rest none).editLog log.id fun stored =>
              { stored with
                errorMessage := some "Webhook no longer active; retry cancelled" }
      | _, _ => service
  | .finish worker attempt =>
      match service.attempting worker with
      | some log =>
          (service.setWorker worker (service.selected worker) none).editLog log.id
            (attemptDelivery settings attempt log).persist
      | none => service
  | .crash worker => service.setWorker worker [] none
  | .configure webhooks => { service with webhooks }

end Service

end FinanceSync.Webhooks
