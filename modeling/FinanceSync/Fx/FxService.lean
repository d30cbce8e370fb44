import FinanceSync.Data.Rounding
import FinanceSync.Lib.Run
import FinanceSync.Lib.Table
import Mathlib.Logic.Function.Basic

/-!
# Exchange rates

A rate is looked up in the memory cache, then among the stored rates, also of the
opposite pair, and last in a table of fallback rates.  The upstream interface is
switched off: the service always runs degraded.
-/

namespace FinanceSync.Fx

open Lib

/-! ## Observations -/

/-- The exceptions of a `decimal` operation. -/
inductive DecimalError
  | divisionByZero
  /-- The result has more digits than the context. -/
  | invalidOperation
deriving DecidableEq, Repr

/-- `round(number, 12)`. -/
def round12 (number : ℚ) : Except DecimalError ℚ :=
  let coefficient := roundHalfEven (number * 10 ^ 12)
  if 10 ^ contextDigits ≤ coefficient.natAbs then .error .invalidOperation
  else .ok (coefficient / 10 ^ 12)

/-- `round(Decimal(1) / rate, 12)`. -/
def inverseRate (rate : ℚ) : Except DecimalError ℚ :=
  if rate = 0 then .error .divisionByZero else round12 (roundDigits contextDigits (1 / rate))

/-- A single exchange rate observation. -/
structure FxRateObservation where
  baseCurrency : String
  quoteCurrency : String
  rate : ℚ
  timestamp : Instant
  source : String := "local"
deriving DecidableEq

/-- The observation of the opposite pair. -/
def FxRateObservation.inverse (observation : FxRateObservation) :
    Except DecimalError FxRateObservation :=
  (inverseRate observation.rate).map fun rate =>
    { observation with
      baseCurrency := observation.quoteCurrency
      quoteCurrency := observation.baseCurrency
      rate }

/-- A stored rate; its column is a `Numeric(24, 12)`. -/
structure FxRate where
  baseCurrency : String
  quoteCurrency : String
  /-- The rate in units of its last decimal. -/
  units : Nat
  timestamp : Instant
  source : String := "local"
  positive : 0 < units
  fits : units < 10 ^ 24
deriving DecidableEq

def FxRate.rate (row : FxRate) : ℚ := row.units / 10 ^ 12

/-- `_row_to_observation`. -/
def FxRate.toObservation (row : FxRate) : FxRateObservation where
  baseCurrency := row.baseCurrency
  quoteCurrency := row.quoteCurrency
  rate := row.rate
  timestamp := row.timestamp
  source := row.source

/-! ## Pairs -/

abbrev Pair := String × String

def majorPairs : List Pair :=
  [("EUR", "USD"), ("USD", "JPY"), ("GBP", "USD"), ("USD", "CHF"), ("USD", "CAD"),
    ("AUD", "USD"), ("NZD", "USD"), ("EUR", "GBP"), ("EUR", "JPY")]

def fallbackRates : List (Pair × ℚ) :=
  [(("EUR", "USD"), 1.09), (("USD", "EUR"), 0.9174), (("GBP", "USD"), 1.27),
    (("USD", "GBP"), 0.7874), (("EUR", "GBP"), 0.86), (("GBP", "EUR"), 1.1628),
    (("USD", "JPY"), 149.50), (("EUR", "JPY"), 162.96), (("USD", "CHF"), 0.88),
    (("EUR", "CHF"), 0.96), (("USD", "CAD"), 1.36), (("EUR", "CAD"), 1.48),
    (("AUD", "USD"), 0.66), (("NZD", "USD"), 0.61)]

/-- A pair in the order in which it is looked up. -/
structure CanonicalPair where
  base : String
  quote : String
  inverted : Bool
deriving DecidableEq

/-- `_canonicalise_pair`. -/
def canonicalisePair (base quote : String) : CanonicalPair :=
  if base = quote then ⟨base, quote, false⟩
  else if (base, quote) ∈ majorPairs then ⟨base, quote, false⟩
  else if (quote, base) ∈ majorPairs then ⟨quote, base, true⟩
  else ⟨base, quote, false⟩

/-- `str.upper` on a currency code. -/
def upper (currency : String) : String := String.ofList (currency.toList.map Char.toUpper)

/-! ## The service -/

structure Settings where
  fxRateCacheTtlSeconds : Int
  /-- The rows of a query, latest first; rows of one instant in any order. -/
  order : OrderBy fun row : FxRate => -row.timestamp

/-- What the clocks show during a call. -/
structure Clock where
  now : Instant
  /-- `time.monotonic()`, in seconds. -/
  monotonic : ℚ

structure CacheEntry where
  observation : FxRateObservation
  expiresAt : ℚ
deriving DecidableEq

structure FxService where
  rows : List FxRate
  memoryCache : Pair → Option CacheEntry

namespace FxService

variable (settings : Settings) (service : FxService) (clock : Clock)

/-- The answer of `_check_memory_cache`. -/
def cached (base quote : String) : Option FxRateObservation :=
  match service.memoryCache (base, quote) with
  | some entry => if entry.expiresAt < clock.monotonic then none else some entry.observation
  | none => none

/-- `_check_memory_cache` also drops an entry that has expired. -/
def dropExpired (base quote : String) : FxService :=
  match service.memoryCache (base, quote) with
  | some entry =>
      if entry.expiresAt < clock.monotonic then
        { service with memoryCache := Function.update service.memoryCache (base, quote) none }
      else service
  | none => service

def setMemoryCache (observation : FxRateObservation) : FxService :=
  { service with
    memoryCache :=
      Function.update service.memoryCache (observation.baseCurrency, observation.quoteCurrency)
        (some ⟨observation, clock.monotonic + settings.fxRateCacheTtlSeconds * (1 / 10)⟩) }

/-- `_lookup_local_rate`. -/
def lookupLocalRate (base quote : String) (atTimestamp : Option Instant) :
    Option FxRateObservation :=
  let rows := service.rows.filter fun row =>
    row.baseCurrency = base && row.quoteCurrency = quote && atTimestamp.all (row.timestamp ≤ ·)
  match (settings.order.sort rows).head? with
  | some row =>
      if atTimestamp.isNone && settings.fxRateCacheTtlSeconds * 1000000 < clock.now - row.timestamp
      then none
      else some row.toObservation
  | none => none

/-- `_get_fallback_rate`. -/
def getFallbackRate (base quote : String) : Option FxRateObservation :=
  (fallbackRates.lookup (upper base, upper quote)).map fun rate =>
    { baseCurrency := upper base
      quoteCurrency := upper quote
      rate
      timestamp := clock.now
      source := "fallback" }

end FxService

/-- The observation in the requested direction. -/
def CanonicalPair.orient (pair : CanonicalPair) (observation : FxRateObservation) :
    Except DecimalError (Option FxRateObservation) :=
  if pair.inverted then observation.inverse.map some else .ok (some observation)

namespace FxService

/-- What `get_rate` returns, or the exception it raises, and the service after it. -/
structure Answer where
  result : Except DecimalError (Option FxRateObservation)
  service : FxService

def getRate (settings : Settings) (service : FxService) (clock : Clock)
    (baseCurrency quoteCurrency : String) (atTimestamp : Option Instant) : Answer :=
  if baseCurrency = quoteCurrency then
    { result := .ok (some
        { baseCurrency
          quoteCurrency
          rate := 1
          timestamp := atTimestamp.getD clock.now
          source := "identity" })
      service }
  else
    let pair := canonicalisePair baseCurrency quoteCurrency
    -- layer 1: the memory cache, for the current rate only
    let hit := if atTimestamp.isNone then service.cached clock pair.base pair.quote else none
    let service :=
      if atTimestamp.isNone then service.dropExpired clock pair.base pair.quote else service
    match hit with
    | some cached => ⟨pair.orient cached, service⟩
    | none =>
        -- layer 2: the stored rates
        match service.lookupLocalRate settings clock pair.base pair.quote atTimestamp with
        | some stored =>
            { result := pair.orient stored
              service :=
                if atTimestamp.isNone then service.setMemoryCache settings clock stored
                else service }
        | none =>
            -- and those of the opposite pair
            match service.lookupLocalRate settings clock pair.quote pair.base atTimestamp with
            | some opposite =>
                match opposite.inverse with
                | .error error => ⟨.error error, service⟩
                | .ok result =>
                    { result := pair.orient result
                      service :=
                        if atTimestamp.isNone then service.setMemoryCache settings clock result
                        else service }
            | none =>
                -- layer 4: the fallback rates, for the current rate only
                if atTimestamp.isNone then
                  match getFallbackRate clock pair.base pair.quote with
                  | some fallback => ⟨pair.orient fallback, service⟩
                  | none => ⟨.ok none, service⟩
                else ⟨.ok none, service⟩

/-- What happens to a service: calls, and changes of the stored rates. -/
inductive Input
  | getRate (clock : Clock) (baseCurrency quoteCurrency : String) (atTimestamp : Option Instant)
  | store (rows : List FxRate)

def serve (settings : Settings) (service : FxService) : Input → FxService
  | .getRate clock baseCurrency quoteCurrency atTimestamp =>
      (getRate settings service clock baseCurrency quoteCurrency atTimestamp).service
  | .store rows => { service with rows }

/-- A service that has not been asked yet. -/
def start (rows : List FxRate) : FxService where
  rows
  memoryCache := fun _ => none

end FxService

end FinanceSync.Fx
