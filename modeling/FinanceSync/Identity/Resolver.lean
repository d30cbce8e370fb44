import FinanceSync.Sync.SecurityReferences
import FinanceSync.Visibility.Spending
import Mathlib.Algebra.Order.Field.Rat
import Mathlib.Data.Finset.Card

/-!
# The identity pipeline

`process_incoming_securities`: an instrument of a connector is matched by its ISIN, by its
FIGI or ticker, and by its name, in the database and through the lookup gateway, and what
nothing matches is queued for review.  Every match is written to the audit log.
-/

namespace FinanceSync.Identity

open FinanceSync.Sync (Security SecurityDatabase SecurityListing SecurityType UnresolvedSecurity)
open FinanceSync.Visibility (truthy)

/-! ## Instruments -/

/-- `str.upper` and `str.lower` -/
structure Casing where
  upper : String → String
  lower : String → String

/-- A raw instrument; a key that is missing is `none` or `null`. -/
structure Instrument where
  id : Json := .null
  externalSecurityId : Json := .null
  externalId : Json := .null
  isin : Option String := none
  ISIN : Option String := none
  figi : Option String := none
  FIGI : Option String := none
  ticker : Option String := none
  symbol : Option String := none
  name : Option String := none
  description : Option String := none
  currencyCode : Option String := none

/-- `first or second` -/
def orText (first second : Option String) : Option String :=
  match first with
  | some text => if text = "" then second else some text
  | none => second

/-- `text or None` -/
def notEmpty (text : String) : Option String := if text = "" then none else some text

def stripped (text : String) : String := String.ofList (strip text.toList)

section Cleansing

variable (casing : Casing)

def cleanseCurrencyCode (raw : Option String) : Option String :=
  raw.bind fun raw =>
    let cleaned := casing.upper (stripped raw)
    if cleaned.length = 3 ∧ cleaned.toList.all Char.isAlpha then some cleaned else none

def nameSuffixes : List String :=
  [" - Depository Receipt", " - Registered Shares", " - Common Stock"]

/-- Trim a name, collapse its white space and cut off a common suffix. -/
def cleanseName (raw : Option String) : Option String :=
  raw.bind fun raw =>
    let cleaned := " ".intercalate (Auth.splitWords raw)
    match nameSuffixes.find? fun suffix => suffix.toList.isSuffixOf cleaned.toList with
    | some suffix => notEmpty
        (String.ofList (cleaned.toList.take (cleaned.toList.length - suffix.toList.length)))
    | none => notEmpty cleaned

def cleanseTicker (raw : Option String) : Option String :=
  raw.bind fun raw => notEmpty (casing.upper (stripped raw))

/-- `apply_all_cleansing` -/
def applyAllCleansing (instrument : Instrument) : Instrument :=
  { instrument with
    name := cleanseName (orText instrument.name instrument.description)
    currencyCode := cleanseCurrencyCode casing instrument.currencyCode
    ticker := cleanseTicker casing (orText instrument.ticker instrument.symbol) }

/-! ## Names -/

/-- `[a-z0-9]` -/
def isTokenChar (char : Char) : Bool :=
  'a' ≤ char && char ≤ 'z' || '0' ≤ char && char ≤ '9'

/-- The set of the tokens of a name. -/
def nameTokens (name : String) : Finset (List Char) :=
  (((casing.lower name).toList.splitOnP fun char => !isTokenChar char).filter (· ≠ [])).toFinset

/-- `_name_similarity` -/
def nameSimilarity (name other : String) : ℚ :=
  let tokens := nameTokens casing name
  let others := nameTokens casing other
  if tokens = ∅ ∨ others = ∅ then 0
  else ((tokens ∩ others).card : ℚ) / (tokens ∪ others).card

def fuzzyMatchThreshold : ℚ := 6 / 10

end Cleansing

/-! ## `SecurityResolver` -/

/-- Result of a successful security resolution. -/
structure ResolvedSecurity where
  securityId : Uuid
  isin : Option String := none
  figi : Option String := none
  ticker : Option String := none
  name : String := ""
  currencyCode : String := "EUR"
  confidence : String := "high"
  source : String := "local"
deriving DecidableEq, Repr

/-- The enrichment gateway: the answer for an identifier of a type, and whether it is
degraded. -/
structure EnrichmentGateway where
  resolveSecurity : String → String → Option ResolvedSecurity
  isDegraded : Bool := false

/-- A match, by a row of the database or by an answer of the gateway. -/
inductive Match
  | stored (security : ResolvedSecurity)
  | answered (security : ResolvedSecurity)

def Match.security : Match → ResolvedSecurity
  | stored security | answered security => security

/-- A stored security as the result of a resolution. -/
def resolvedRow (row : Security) (ticker : Option String) (confidence source : String) :
    ResolvedSecurity :=
  { securityId := row.id, isin := row.isin, figi := row.figi, ticker, name := row.name,
    currencyCode := row.currencyCode, confidence, source }

section Resolver

variable (gateway : EnrichmentGateway) (db : SecurityDatabase)

/-- `_resolve_via_gateway` -/
def resolveViaGateway (identifier identifierType : String) : Option Match :=
  (gateway.resolveSecurity identifier identifierType).map .answered

def findLocalByIsin (isin : String) : Option ResolvedSecurity :=
  (db.securities.rows.find? fun row => row.isin = some isin).map fun row =>
    resolvedRow row row.ticker "exact" "local_db"

def findLocalByFigi (figi : String) : Option ResolvedSecurity :=
  (db.securities.rows.find? fun row => row.figi = some figi).map fun row =>
    resolvedRow row row.ticker "exact" "local_db"

def findLocalByTicker (ticker : String) : Option ResolvedSecurity :=
  (db.securities.rows.find? fun row => row.ticker = some ticker).map fun row =>
    resolvedRow row (some ticker) "ticker_only" "local_db"

def resolveByIsin (isin : String) : Option Match :=
  ((findLocalByIsin db isin).map .stored).or (resolveViaGateway gateway isin "isin")

def resolveByFigi (figi : String) : Option Match :=
  ((findLocalByFigi db figi).map .stored).or (resolveViaGateway gateway figi "figi")

def resolveByTicker (ticker : String) : Option Match :=
  ((findLocalByTicker db ticker).map .stored).or (resolveViaGateway gateway ticker "ticker")

/-- The security of the first listing with a ticker. -/
def findByListing (ticker : String) : Option (SecurityListing × Security) :=
  (db.listings.find? fun listing => listing.ticker = ticker).bind fun listing =>
    (db.securities.rows.find? fun row => row.id = listing.securityId).map fun row => (listing, row)

/-! ## The stages -/

/-- The ISIN that an instrument carries, if any. -/
def carriedIsin (casing : Casing) (cleansed : Instrument) : Option String :=
  ((orText cleansed.isin cleansed.ISIN).filter (· ≠ "")).map fun isin =>
    casing.upper (stripped isin)

/-- `_stage_1_exact_isin` -/
def stage1ExactIsin (casing : Casing) (cleansed : Instrument) : Option Match :=
  (carriedIsin casing cleansed).bind fun isin =>
    (resolveByIsin gateway db isin).or
      ((findByListing db isin).map fun found =>
        .stored (resolvedRow found.2 (orText found.2.ticker (some found.1.ticker)) "exact"
          "local_db"))

/-- `_stage_2_figi_ticker` -/
def stage2FigiTicker (cleansed : Instrument) : Option Match :=
  let byFigi := ((orText cleansed.figi cleansed.FIGI).filter (· ≠ "")).bind
    (resolveByFigi gateway db)
  let byTicker := cleansed.ticker.bind fun ticker =>
    (resolveByTicker gateway db ticker).or
      (((findByListing db ticker).map fun found =>
        Match.stored (resolvedRow found.2 (some ticker) "high" "local_db_listing")).or
        (if gateway.isDegraded then none else resolveByTicker gateway db ticker))
  byFigi.or byTicker

/-- A score with the security that has it. -/
abbrev Best := ℚ × Option Security

/-- One pass of the loop over the securities. -/
def scoreSecurity (casing : Casing) (name : String) (best : Best) (row : Security) : Best :=
  let score := nameSimilarity casing name row.name
  let best := if best.1 < score then (score, some row) else best
  match row.ticker.filter (· ≠ "") with
  | some ticker =>
      let score := nameSimilarity casing name ticker
      if best.1 < score then (score, some row) else best
  | none => best

/-- `_stage_3_fuzzy_name` up to the canonical record of an answer. -/
def stage3FuzzyName (casing : Casing) (cleansed : Instrument) : Option Match :=
  cleansed.name.bind fun rawName =>
    if db.securities.rows = [] then none
    else
      let name := (cleanseName (some rawName)).getD rawName
      let best := db.securities.rows.foldl (scoreSecurity casing name) (0, none)
      match best.2.filter fun _ => fuzzyMatchThreshold ≤ best.1 with
      | some row => some (.stored (resolvedRow row row.ticker "medium" "fuzzy_name"))
      | none => if gateway.isDegraded then none else resolveViaGateway gateway name "name"

/-- The stages one after the other, with the resolution method of the audit log. -/
def resolveInstrument (casing : Casing) (cleansed : Instrument) : Option (String × Match) :=
  ((stage1ExactIsin gateway db casing cleansed).map fun found => ("auto_isin", found)).or
    (((stage2FigiTicker gateway db cleansed).map fun found => ("auto_figi", found)).or
      ((stage3FuzzyName gateway db casing cleansed).map fun found => ("fuzzy_name", found)))

end Resolver

end FinanceSync.Identity
