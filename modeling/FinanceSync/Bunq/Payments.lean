import FinanceSync.Data.Enums
import FinanceSync.Data.Values

/-!
# Payments of bunq

The payments, card payments and scheduled payments of bunq's API and the records that the
connector makes of them.  Numbers of the API are taken as the numbers they denote, and a
field that is absent or null as no value.
-/

namespace FinanceSync.Bunq

/-! ## What the API returns -/

structure Alias where
  value : String := ""
  name : String := ""

structure Merchant where
  name : Option String := none
  city : Option String := none
  country : Option String := none

/-- A refund with its own currency or a mere amount. -/
inductive RefundData
  | details (value : ℚ) (currency : Option String)
  | amount (value : ℚ)

structure PaymentData where
  id : String
  amount : ℚ := 0
  currency : String := "EUR"
  created : Option String := none
  updated : Option String := none
  description : String := ""
  type : String := ""
  status : String := ""
  counterpartyAlias : Alias := {}
  merchant : Merchant := {}
  merchantName : Option String := none
  merchantCity : Option String := none
  merchantCountry : Option String := none
  refund : Option RefundData := none

structure CardPaymentData where
  id : String := ""
  amount : ℚ := 0
  currency : String := "EUR"
  created : Option String := none
  updated : Option String := none
  description : String := ""
  status : Option String := none
  authorisationStatus : Option String := none
  settlementStatus : Option String := none
  merchant : Merchant := {}
  merchantName : Option String := none
  merchantCity : Option String := none
  merchantCountry : Option String := none
  card : String := ""
  cardId : String := ""
  cardType : String := ""
  cardLastFour : String := ""
  refundAmount : Option ℚ := none
  refundCurrency : Option String := none

structure Schedule where
  timeUnit : String := ""
  interval : Int := 1
  start : Option String := none
  «end» : Option String := none
  nextExecution : Option String := none
  status : String := ""

structure SchedulePaymentData where
  id : String := ""
  amount : ℚ := 0
  currency : String := "EUR"
  description : String := ""
  counterpartyAlias : Alias := {}
  schedule : Schedule := {}
  scheduleInstances : Nat := 0

/-- What the connector takes from the Python runtime. -/
structure Runtime where
  upper : String → String
  /-- `datetime.strptime(text, format)` -/
  strptime : String → String → Option Instant

/-! ## The records -/

structure RawTransaction where
  externalTransactionId : String
  externalAccountId : String
  amount : ℚ
  currencyCode : String
  occurredAt : Instant
  bookedAt : Instant
  description : Option String
  transactionType : TransactionType
  status : TransactionStatus
  originalType : Option String
  originalStatus : Option String
  merchantName : Option String
  merchantCity : Option String
  merchantCountry : Option String
  counterpartyName : Option String
  counterpartyAccountReference : Option String
  providerRevision : String
  refundAmount : Option ℚ
  refundCurrencyCode : Option String
deriving DecidableEq

structure RawCardTransaction where
  externalCardTransactionId : String
  externalAccountId : String
  amount : ℚ
  currencyCode : String
  merchantName : Option String
  merchantCity : Option String
  merchantCountry : Option String
  cardId : String
  cardType : Option String
  cardLastFour : Option String
  occurredAt : Instant
  bookedAt : Instant
  authorizationType : CardAuthorizationType
  description : Option String
  status : TransactionStatus
  originalStatus : Option String
  authorizationStatus : Option String
  settlementStatus : Option String
  providerRevision : String
  refundAmount : Option ℚ
  refundCurrencyCode : Option String

structure RawScheduledPayment where
  externalScheduleId : String
  externalAccountId : String
  amount : ℚ
  currencyCode : String
  frequency : String
  interval : Int
  nextExecutionDate : Option Instant
  endDate : Option Instant
  executionCount : Nat
  counterpartyName : Option String
  counterpartyIban : Option String
  description : Option String
  status : ScheduleStatus

variable (runtime : Runtime)

/-- `value or None` -/
def nonEmpty (text : String) : Option String := if text = "" then none else some text

/-- `first or second` -/
def orText (first second : Option String) : Option String := (first.filter (· ≠ "")).or second

def transactionTypeMap : List (String × TransactionType) :=
  [("BILLING", .payment), ("PAYMENT", .payment), ("TRANSFER", .transfer),
    ("WITHDRAWAL", .withdrawal), ("DEPOSIT", .deposit), ("INTEREST", .interest), ("FEE", .fee),
    ("DIRECT_DEBIT", .payment), ("SCT", .transfer), ("SDD", .payment), ("BUNQME", .payment),
    ("REQUEST", .payment)]

/-- Map bunq payment type string to canonical transaction type. -/
def mapTransactionType (bunqType : String) : TransactionType :=
  (transactionTypeMap.lookup (runtime.upper bunqType)).getD .other

def statusMap : List (String × TransactionStatus) :=
  [("ACCEPTED", .booked), ("PENDING", .pending), ("REJECTED", .cancelled),
    ("CANCELLED", .cancelled), ("REVERSED", .reversed)]

/-- Map bunq payment status to canonical status. -/
def mapStatus (raw : String) : TransactionStatus :=
  (statusMap.lookup (runtime.upper raw)).getD .pending

def scheduleStatusMap : List (String × ScheduleStatus) :=
  [("ACTIVE", .active), ("INACTIVE", .paused), ("CANCELLED", .cancelled),
    ("COMPLETED", .completed), ("FAILED", .failed)]

/-- Map bunq schedule status to canonical schedule status. -/
def mapScheduleStatus (raw : String) : ScheduleStatus :=
  (scheduleStatusMap.lookup (runtime.upper raw)).getD .active

def authStatusMap : List (String × CardAuthorizationType) :=
  [("AUTHORISATION", .authorization), ("AUTHORIZATION", .authorization),
    ("SETTLEMENT", .settlement), ("REFUND", .refund), ("CHARGEBACK", .chargeback),
    ("CANCELLED", .other), ("REVERSED", .chargeback)]

/-- Map bunq card authorisation status to canonical auth type. -/
def mapAuthStatus (raw : String) : CardAuthorizationType :=
  (authStatusMap.lookup (runtime.upper raw)).getD .authorization

def cardPaymentStatusMap : List (String × TransactionStatus) :=
  [("AUTHORISATION", .pending), ("AUTHORIZATION", .pending), ("SETTLEMENT", .booked),
    ("REFUND", .booked), ("CHARGEBACK", .booked), ("COMPLETED", .booked),
    ("CANCELLED", .cancelled), ("REVERSED", .reversed)]

/-- Map bunq card payment status to canonical transaction status. -/
def mapCardPaymentStatus (raw : String) : TransactionStatus :=
  (cardPaymentStatusMap.lookup (runtime.upper raw)).getD .pending

/-! ## Timestamps -/

/-- `raw` with at most six digits after its first point. -/
def cleanedTime (raw : String) : String :=
  match raw.toList.span (· ≠ '.') with
  | (_, []) => raw
  | (main, _ :: fraction) => String.ofList (main ++ '.' :: fraction.take 6)

/-- The time of a text in one of the two formats. -/
def readTime (raw : String) : Option Instant :=
  if raw = "" then none
  else
    (runtime.strptime (cleanedTime raw) "%Y-%m-%d %H:%M:%S.%f").or
      (runtime.strptime (cleanedTime raw) "%Y-%m-%d %H:%M:%S")

/-- Parse a bunq timestamp to a UTC-aware datetime.  Any other text is the epoch. -/
def parseBunqDatetime (raw : String) : Instant := (readTime runtime raw).getD 0

/-- `first or second` of two datetimes, which are true whatever their time. -/
def orDatetime (first _second : Instant) : Instant := first

/-! ## Mapping -/

def refundOf (currency : String) : RefundData → ℚ × String
  | .details value refundCurrency => (value, refundCurrency.getD currency)
  | .amount value => (value, currency)

/-- Map a bunq Payment JSON object to a RawTransaction. -/
def parsePayment (accountId : String) (data : PaymentData) : RawTransaction :=
  let created := parseBunqDatetime runtime (data.created.getD "")
  let updated := parseBunqDatetime runtime (data.updated.getD "")
  let refund := data.refund.map (refundOf data.currency)
  { externalTransactionId := data.id
    externalAccountId := accountId
    amount := data.amount
    currencyCode := data.currency
    occurredAt := created
    bookedAt := orDatetime updated created
    description := nonEmpty data.description
    transactionType := mapTransactionType runtime data.type
    status := mapStatus runtime (if data.status = "" then "ACCEPTED" else data.status)
    originalType := nonEmpty data.type
    originalStatus := nonEmpty data.status
    merchantName := (orText data.merchantName data.merchant.name).filter (· ≠ "")
    merchantCity := orText data.merchantCity data.merchant.city
    merchantCountry := orText data.merchantCountry data.merchant.country
    counterpartyName := nonEmpty data.counterpartyAlias.name
    counterpartyAccountReference := nonEmpty data.counterpartyAlias.value
    providerRevision := data.updated.getD ""
    refundAmount := refund.map Prod.fst
    refundCurrencyCode := refund.map Prod.snd }

/-- Map a bunq CardPayment JSON object to a RawCardTransaction. -/
def parseCardPayment (cardId : String) (data : CardPaymentData) : RawCardTransaction :=
  let created := parseBunqDatetime runtime (data.created.getD "")
  let updated := parseBunqDatetime runtime (data.updated.getD "")
  let cardUuid := if data.card = "" then data.cardId else data.card
  let authStatus := (data.authorisationStatus.or data.status).getD ""
  let statusRaw := data.status.getD authStatus
  { externalCardTransactionId := data.id
    externalAccountId := cardId
    amount := data.amount
    currencyCode := data.currency
    merchantName := (orText data.merchantName data.merchant.name).filter (· ≠ "")
    merchantCity := (orText data.merchantCity data.merchant.city).filter (· ≠ "")
    merchantCountry := (orText data.merchantCountry data.merchant.country).filter (· ≠ "")
    cardId := if cardUuid = "" then cardId else cardUuid
    cardType := nonEmpty data.cardType
    cardLastFour := nonEmpty data.cardLastFour
    occurredAt := created
    bookedAt := orDatetime updated created
    authorizationType := mapAuthStatus runtime authStatus
    description := nonEmpty data.description
    status := mapCardPaymentStatus runtime authStatus
    originalStatus := nonEmpty statusRaw
    authorizationStatus := nonEmpty authStatus
    settlementStatus := data.settlementStatus
    providerRevision := data.updated.getD ""
    refundAmount := data.refundAmount
    refundCurrencyCode := data.refundAmount.map fun _ => data.refundCurrency.getD data.currency }

/-- Map a bunq SchedulePayment JSON object to a RawScheduledPayment. -/
def parseSchedulePayment (accountId : String) (data : SchedulePaymentData) :
    RawScheduledPayment :=
  let scheduleStart := parseBunqDatetime runtime (data.schedule.start.getD "")
  let scheduleEnd := parseBunqDatetime runtime (data.schedule.end.getD "")
  let nextExecution := parseBunqDatetime runtime (data.schedule.nextExecution.getD "")
  { externalScheduleId := data.id
    externalAccountId := accountId
    amount := data.amount
    currencyCode := data.currency
    frequency := data.schedule.timeUnit
    interval := data.schedule.interval
    nextExecutionDate := some (orDatetime nextExecution scheduleStart)
    endDate := if 0 < scheduleEnd then some scheduleEnd else none
    executionCount := data.scheduleInstances
    counterpartyName := nonEmpty data.counterpartyAlias.name
    counterpartyIban := nonEmpty data.counterpartyAlias.value
    description := nonEmpty data.description
    status := mapScheduleStatus runtime data.schedule.status }

end FinanceSync.Bunq
