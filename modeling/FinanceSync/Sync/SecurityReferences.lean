import FinanceSync.Data.Enums
import FinanceSync.Data.Values
import FinanceSync.Lib.Table

/-!
# Securities that providers refer to

A provider names an instrument by its own identifier, an ISIN, a FIGI or a ticker.
Such a reference is resolved by the mapping of its identifier, then by ISIN, by
FIGI and by ticker; an identified instrument that is unknown becomes a security.
-/

namespace FinanceSync.Sync

open Lib

/-! ## Text -/

/-- `str.upper` -/
def upper (text : String) : String := String.ofList (text.toList.map Char.toUpper)

/-- `str.strip().casefold()` -/
def folded (text : String) : String := String.ofList ((strip text.toList).map Char.toLower)

/-- The text where it is not empty. -/
def given (text : Option String) : Option String := text.filter (· ≠ "")

/-- `text LIKE pattern`: an underscore stands for any character, a percent sign for
any text, and a backslash takes the next character as it is. -/
def like : List Char → List Char → Bool
  | [], text => text.isEmpty
  | '%' :: pattern, text => text.tails.any (like pattern)
  | ['\\'], _ => false
  | '\\' :: escaped :: pattern, text =>
      match text with
      | [] => false
      | char :: rest => escaped = char && like pattern rest
  | mark :: pattern, text =>
      match text with
      | [] => false
      | char :: rest => (mark = '_' || mark = char) && like pattern rest

/-! ## The tables -/

inductive SecurityType
  | stock
  | etf
  | mutualFund
  | bond
  | option
  | crypto
  | currency
  | other
deriving DecidableEq, Repr

instance : StrEnum SecurityType where
  members := [.stock, .etf, .mutualFund, .bond, .option, .crypto, .currency, .other]
  value
    | .stock => "stock"
    | .etf => "etf"
    | .mutualFund => "mutual_fund"
    | .bond => "bond"
    | .option => "option"
    | .crypto => "crypto"
    | .currency => "currency"
    | .other => "other"

/-- A canonical financial instrument. -/
structure Security where
  id : Uuid
  isin : Option String
  figi : Option String
  ticker : Option String
  name : String
  securityType : SecurityType
  currencyCode : String
deriving DecidableEq

/-- The identifier of a provider with what it was mapped to. -/
structure UnresolvedSecurity where
  id : Uuid
  tenantId : Uuid
  providerKey : String
  externalSecurityId : String
  rawIsin : Option String
  rawFigi : Option String
  rawTicker : Option String
  rawName : Option String
  rawCurrencyCode : Option String
  resolvedSecurityId : Option Uuid
  resolutionMethod : Option String
deriving DecidableEq

/-- A venue where a security is traded. -/
structure SecurityListing where
  securityId : Uuid
  mic : String
  ticker : String
  currencyCode : String
  isPrimaryListing : Bool
deriving DecidableEq

structure SecurityDatabase where
  securities : Table Security Security.id
  unresolved : Table UnresolvedSecurity UnresolvedSecurity.id
  listings : List SecurityListing

/-- Provider-supplied instrument identity; never contains database IDs. -/
structure SecurityReference where
  externalId : Option String := none
  isin : Option String := none
  figi : Option String := none
  ticker : Option String := none
  name : Option String := none
  venue : Option String := none
  currencyCode : Option String := none
  securityType : Option String := none
deriving DecidableEq

/-- Return the best stable provider-local identifier. -/
def SecurityReference.providerIdentifier (reference : SecurityReference) : Option String :=
  (given reference.externalId).or ((given reference.isin).or
    ((given reference.figi).or (given reference.ticker)))

/-- Whose provider a reference comes from. -/
structure Provider where
  tenantId : Uuid
  providerKey : String

/-! ## Looking up -/

namespace SecurityDatabase

variable (db : SecurityDatabase) (provider : Provider) (reference : SecurityReference)

/-- The row of an identifier, which is unique. -/
def rowOf (externalId : String) : Option UnresolvedSecurity :=
  db.unresolved.rows.find? fun row => row.tenantId = provider.tenantId &&
    row.providerKey = provider.providerKey && row.externalSecurityId = externalId

def security (id : Uuid) : Option Security := db.securities.rows.find? (·.id = id)

/-- The row of the identifier of a reference. -/
def mapping : Option UnresolvedSecurity :=
  reference.providerIdentifier.bind (db.rowOf provider)

/-- The security that the identifier is mapped to. -/
def mapped : Option Security :=
  (db.mapping provider reference).bind fun row => row.resolvedSecurityId.bind db.security

def withIsin : List Security :=
  match given reference.isin with
  | none => []
  | some isin => db.securities.rows.filter (·.isin = some (upper isin))

def withFigi : List Security :=
  match given reference.figi with
  | none => []
  | some figi => db.securities.rows.filter (·.figi = some (upper figi))

/-- The ticker of the reference, alone or before the venue that another feed adds. -/
def isAliasOf (ticker : String) (security : Security) : Bool :=
  let bare := strip (upper ticker).toList
  security.ticker.any fun stored =>
    stored.toList = bare || like (bare ++ [':', '%']) stored.toList

/-- Of several securities those in the currency of the reference, if there are any. -/
def preferCurrency (found : List Security) : List Security :=
  match given reference.currencyCode with
  | none => found
  | some currency =>
      let matching := found.filter (·.currencyCode = upper currency)
      if matching = [] then found else matching

def withTickerAlias : List Security :=
  match given reference.ticker with
  | none => []
  | some ticker =>
      if reference.externalId = none ∨ reference.externalId.map upper = some (upper ticker) then
        preferCurrency reference (db.securities.rows.filter (isAliasOf ticker))
      else []

def withTicker : List Security :=
  match given reference.ticker with
  | none => []
  | some ticker =>
      if reference.externalId = none then
        let found := db.securities.rows.filter (·.ticker = some (upper ticker))
        match given reference.currencyCode with
        | none => found
        | some currency => found.filter (·.currencyCode = upper currency)
      else []

/-- The securities with the FIGI of the reference, or else with its ticker. -/
def withoutIsin : List Security :=
  if db.withFigi reference ≠ [] then db.withFigi reference
  else if db.withTickerAlias reference ≠ [] then db.withTickerAlias reference
  else db.withTicker reference

def candidates : List Security :=
  if db.withIsin reference ≠ [] then db.withIsin reference else db.withoutIsin reference

end SecurityDatabase

/-! ## Writing -/

/-- Apply provider metadata without replacing a curated identity. -/
def enrichExistingSecurity (allowIsinFill : Bool) (security : Security)
    (reference : SecurityReference) : Security :=
  let externalId := folded (reference.externalId.getD "")
  let currentTicker := folded (security.ticker.getD "")
  let currentName := folded security.name
  let candidateName := String.ofList (strip (reference.name.getD "").toList)
  let candidateTicker := String.ofList (strip (reference.ticker.getD "").toList)
  let placeholder := currentName = "" ∨ currentName = externalId ∨ currentName = currentTicker
  { security with
    name :=
      if candidateName ≠ "" ∧ folded candidateName ≠ externalId ∧
          folded candidateName ≠ folded candidateTicker ∧ placeholder then candidateName
      else security.name
    ticker :=
      if candidateTicker ≠ "" ∧ (currentTicker = "" ∨ currentTicker = externalId) then
        some (upper candidateTicker)
      else security.ticker
    isin :=
      if allowIsinFill ∧ given security.isin = none then
        ((given reference.isin).map upper).or security.isin
      else security.isin
    figi :=
      if given security.figi = none then ((given reference.figi).map upper).or security.figi
      else security.figi
    currencyCode :=
      if placeholder then ((given reference.currencyCode).map upper).getD security.currencyCode
      else security.currencyCode }

namespace SecurityDatabase

variable (db : SecurityDatabase) (provider : Provider) (reference : SecurityReference)

/-- The row of the queue for a reference. -/
def queueRow (id : Uuid) (externalId : String) (resolvedSecurityId : Option Uuid)
    (resolutionMethod : Option String) : UnresolvedSecurity where
  id := id
  tenantId := provider.tenantId
  providerKey := provider.providerKey
  externalSecurityId := externalId
  rawIsin := reference.isin
  rawFigi := reference.figi
  rawTicker := reference.ticker
  rawName := reference.name
  rawCurrencyCode := reference.currencyCode
  resolvedSecurityId := resolvedSecurityId
  resolutionMethod := resolutionMethod

theorem queueRow_id (provider : Provider) (reference : SecurityReference) (id : Uuid)
    (externalId : String) (resolvedSecurityId : Option Uuid) (resolutionMethod : Option String) :
    (queueRow provider reference id externalId resolvedSecurityId resolutionMethod).id = id :=
  rfl

/-- Create or refresh a provider identity mapping/queue item. -/
def queueUnresolvedSecurity (resolvedSecurityId : Option Uuid) (resolutionMethod : Option String) :
    SecurityDatabase × String :=
  match reference.providerIdentifier with
  | none => (db, "missing-provider-identifier")
  | some externalId =>
      match db.rowOf provider externalId with
      | some row =>
          let refreshed := queueRow provider reference row.id externalId resolvedSecurityId
            resolutionMethod
          ({ db with unresolved := db.unresolved.save refreshed }, externalId)
      | none =>
          let added := queueRow provider reference db.unresolved.next externalId
            resolvedSecurityId resolutionMethod
          ({ db with unresolved := db.unresolved.insert added (queueRow_id ..) }, externalId)

/-- The ticker and the venue of a listing; a qualified ticker has a venue of its own. -/
def listingOf : List Char × List Char :=
  let rawVenue := (strip (reference.venue.getD "").toList).map Char.toUpper
  let rawTicker := (strip (reference.ticker.getD "").toList).map Char.toUpper
  if ':' ∈ rawTicker then
    let tickerPart := (rawTicker.reverse.dropWhile (· ≠ ':')).tail.reverse
    let venuePart := (rawTicker.reverse.takeWhile (· ≠ ':')).reverse
    (if tickerPart = [] then rawTicker else tickerPart,
      if rawVenue = [] then venuePart else rawVenue)
  else (rawTicker, rawVenue)

/-- Persist a venue listing whenever the provider supplies one. -/
def upsertListing (security : Security) : SecurityDatabase :=
  let (ticker, venue) := listingOf reference
  let currency := (strip ((given reference.currencyCode).getD security.currencyCode).toList).map
    Char.toUpper
  if venue.length ≠ 4 ∨ ticker = [] ∨ currency.length ≠ 3 then db
  else
    let listing : SecurityListing :=
      { securityId := security.id
        mic := String.ofList venue
        ticker := String.ofList ticker
        currencyCode := String.ofList currency
        isPrimaryListing := true }
    let isSame : SecurityListing → Bool := fun row => row.securityId = listing.securityId &&
      row.mic = listing.mic && row.currencyCode = listing.currencyCode
    { db with
      listings :=
        if db.listings.any isSame then
          db.listings.map fun row => if isSame row then listing else row
        else db.listings ++ [listing] }

/-- The mapping of an identifier the provider itself gave. -/
def mapExternalId (security : Security) (fallback : String) : SecurityDatabase :=
  if given reference.externalId = none then db
  else
    (db.queueUnresolvedSecurity provider reference (some security.id) (some
      (if (given reference.isin).isSome then "auto_isin"
      else if (given reference.figi).isSome then "auto_figi"
      else fallback))).1

/-- Whether a reference says enough to become a security. -/
def canCreate : Bool :=
  (given reference.isin).isSome || (given reference.figi).isSome ||
    ((given reference.externalId).isSome && (given reference.ticker).isSome &&
      (given reference.name).isSome && (given reference.currencyCode).isSome)

/-- The security that a reference becomes; a FIGI that is too long is dropped. -/
def createdSecurity (id : Uuid) : Security where
  id := id
  isin := (given reference.isin).map upper
  figi := ((given reference.figi).filter (·.length ≤ 12)).map upper
  ticker := (given reference.ticker).map upper
  name := (given reference.name).getD ((given reference.ticker).getD
    ((given reference.isin).getD ((given reference.figi).getD "Unknown security")))
  securityType := StrEnum.coerce ((given reference.securityType).getD "other") .other
  currencyCode := upper ((given reference.currencyCode).getD "EUR")

/-- Resolve ISIN-first, avoiding ambiguous ticker matches. -/
def resolveSecurityReference : SecurityDatabase × Option Uuid × Option String :=
  match db.mapped provider reference with
  | some security =>
      let enriched := enrichExistingSecurity false security reference
      ({ db with securities := db.securities.save enriched }, some security.id, none)
  | none =>
      match db.candidates reference with
      | [security] =>
          ((db.mapExternalId provider reference security "auto_ticker").upsertListing reference
            security, some security.id, none)
      | [] =>
          if canCreate reference then
            let security := createdSecurity reference db.securities.next
            let created := { db with securities := db.securities.insert security rfl }
            ((created.mapExternalId provider reference security
              "provider_instrument").upsertListing reference security, some security.id, none)
          else
            let (queued, externalId) := db.queueUnresolvedSecurity provider reference none none
            (queued, none, some externalId)
      | _ =>
          let (queued, externalId) := db.queueUnresolvedSecurity provider reference none none
          (queued, none, some externalId)

end SecurityDatabase

end FinanceSync.Sync
