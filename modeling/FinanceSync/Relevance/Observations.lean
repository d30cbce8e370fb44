import FinanceSync.Intel.Ingestion
import FinanceSync.Sync.SecurityReferences

/-!
# Observations, relevance and clusters

The tables of the holding feed: stored observations, their matches with the holdings of a
tenant, the clusters of matches that tell one story, and what users say about them.  An
observation is read by its event type and by the fingerprint of its title.
-/

namespace FinanceSync.Relevance

open FinanceSync.Intel (FactValue IntelItemKind IntelLicenseClass MarketIntelligenceItem)
open FinanceSync.Sync (Security)

/-! ## Tables -/

/-- An aware `datetime` as its wall clock and its offset from UTC, both in microseconds. -/
structure ZonedTime where
  wall : Int
  offset : Int
deriving DecidableEq

namespace ZonedTime

def instant (time : ZonedTime) : Instant := time.wall - time.offset

/-- The wall clock as `isoformat(timespec="seconds")` and `date()` with `time()` show it. -/
def second (time : ZonedTime) : Int := time.wall.fdiv 1000000

end ZonedTime

/-- Why observations are one story. -/
inductive ClusterReason
  | exactEvent | titleDuplicate | noDate
deriving DecidableEq

/-- The identity of a story: its security and event type with a wall clock or with a title.
The text of a key spells its parts out. -/
inductive StoryKey
  | dated (securityId : Option Uuid) (eventType : String) (second : Int)
  | titled (securityId : Option Uuid) (eventType : String) (fingerprint : String)
deriving DecidableEq

/-- A stored observation of a tenant. -/
structure Observation where
  tenantId : Uuid
  item : MarketIntelligenceItem

/-- A match of an observation with a holding or a cash account. -/
structure HoldingRelevanceItem where
  tenantId : Uuid
  itemId : Uuid
  securityId : Option Uuid
  accountId : Option Uuid
  matchReason : String
  confidence : ℚ
  holdingStatus : String
  holdingWeight : Option ℚ
  eventDate : Option ZonedTime

/-- A story: the row that the feed shows. -/
structure RelevanceCluster where
  id : Uuid
  tenantId : Uuid
  storyKey : StoryKey
  securityId : Option Uuid
  headline : String
  eventType : String
  eventDate : Option Instant
  sourceCount : Nat
  clusterReason : Option ClusterReason
  earliestPublishedAt : Option Instant
  bestSourceUrl : Option String
  score : ℚ

/-- The membership of an observation in a cluster. -/
structure RelevanceClusterItem where
  tenantId : Uuid
  clusterId : Uuid
  itemId : Uuid
  position : Nat
deriving DecidableEq

structure RelevanceAck where
  tenantId : Uuid
  userId : Uuid
  clusterId : Uuid
  acknowledged : Bool
deriving DecidableEq

/-- A false positive that a user reported. -/
structure RelevanceCorrection where
  tenantId : Uuid
  userId : Uuid
  itemId : Uuid
  securityId : Option Uuid
  action : String
  reason : Option String
deriving DecidableEq

/-- The latest position of a security in an account. -/
structure Position where
  tenantId : Uuid
  accountId : Uuid
  securityId : Uuid
  quantity : ℚ

/-! ## Reading an observation -/

/-- `str.lower`, `html.unescape` and `redact_text` -/
structure TextTools where
  lower : String → String
  unescape : String → String
  redact : String → String

def kindText : IntelItemKind → String
  | .newsArticle => "news_article"
  | .corporateEvent => "corporate_event"
  | .earningsReport => "earnings_report"
  | .earningsCallTranscript => "earnings_call_transcript"
  | .analystEstimate => "analyst_estimate"
  | .dividend => "dividend"
  | .guidance => "guidance"

/-- The first value of a fact; a missing one is `null`. -/
def factValue (item : MarketIntelligenceItem) (key : String) : FactValue :=
  ((item.facts.find? fun fact => fact.key = key).map (·.value)).getD .null

/-- `bool(value)` -/
def isTrue : FactValue → Bool
  | .null => false
  | .text value => value ≠ ""
  | .number value => value ∉ ["0", "0.0", "-0.0"]
  | .bool value => value

/-- `part in text` -/
def isIn (part text : String) : Bool := decide (part.toList <:+: text.toList)

def knownEventTypes : List String :=
  ["interest", "currency", "fx", "earnings", "dividend", "agm", "meeting", "split", "merger",
    "acquisition", "filing"]

/-- The event type that an explicit fact names. -/
def eventTypeFact (tools : TextTools) (item : MarketIntelligenceItem) : Option String :=
  match factValue item "event_type" with
  | .text named =>
      let eventType := tools.lower named
      if eventType ∈ knownEventTypes then
        some (if eventType = "fx" then "currency" else eventType)
      else none
  | _ => none

/-- `_event_type_for` -/
def eventTypeFor (tools : TextTools) (item : MarketIntelligenceItem) : String :=
  let kind := kindText item.kind
  let headline := tools.lower (item.headline.getD "")
  match eventTypeFact tools item with
  | some eventType => eventType
  | none =>
      if isIn "interest" kind || factValue item "interest_rate" ≠ .null then "interest"
      else if isIn "currency" kind || isIn "fx" kind || isTrue (factValue item "currency_pair")
        then "currency"
      else if isIn "earnings" kind then "earnings"
      else if isIn "dividend" kind || isTrue (factValue item "dividend") then "dividend"
      else if isIn "agm" kind || isIn "meeting" kind || isTrue (factValue item "meeting_date")
        then "agm"
      else if isIn "split" kind || isTrue (factValue item "split_date") then "split"
      else if isIn "merger" kind || isIn "merger" headline then "merger"
      else if isIn "acquisition" kind || isIn "acquisition" headline then "acquisition"
      else if isIn "filing" kind || isIn "8-k" headline then "filing"
      else "news"

/-- Replace every tag by a space; `opened` is what was read since the last open bracket. -/
def stripTags : Option (List Char) → List Char → List Char
  | none, [] => []
  | some opened, [] => '<' :: opened.reverse
  | none, char :: rest =>
      if char = '<' then stripTags (some []) rest else char :: stripTags none rest
  | some opened, char :: rest =>
      if char = '>' then
        if opened = [] then '<' :: '>' :: stripTags none rest else ' ' :: stripTags none rest
      else stripTags (some (char :: opened)) rest

def stopwords : List String :=
  ["a", "an", "the", "of", "and", "or", "to", "for", "on", "in", "at", "by", "with", "from",
    "as", "is", "are", "was", "were", "be", "been", "has", "have", "had", "s", "t", "q", "vs",
    "v"]

/-- `[^a-z0-9\s]` becomes a space. -/
def plainChar (char : Char) : Char :=
  if 'a' ≤ char ∧ char ≤ 'z' ∨ '0' ≤ char ∧ char ≤ '9' ∨ isSpace char then char else ' '

/-- `_title_fingerprint` -/
def titleFingerprint (tools : TextTools) (headline : Option String) : String :=
  match headline.filter (· ≠ "") with
  | none => ""
  | some headline =>
      let text := stripTags none (tools.lower (tools.unescape headline)).toList
      let tokens := Auth.splitWords (String.ofList (text.map plainChar))
      let kept := tokens.filter fun token => token ∉ stopwords
      " ".intercalate (kept.mergeSort fun first second => decide (first ≤ second))

/-- Redact the secrets of a URL. -/
def safeSourceUrl (tools : TextTools) (url : Option String) : Option String :=
  url.map fun url => if url = "" then url else tools.redact url

/-- Items fetched longer ago than this are stale. -/
def staleAfter : Int := Instant.microsecondsPerDay

/-- `_is_fresh` -/
def isFresh (now : Instant) (item : MarketIntelligenceItem) : Bool :=
  match item.staleAfter with
  | some limit => decide (now < limit)
  | none => decide (now - item.fetchedAt ≤ staleAfter)

/-- An observation with a title, for examples. -/
def sampleItem (id : Uuid) (headline : String) : MarketIntelligenceItem where
  id := id
  provider := "openbb"
  sourceId := "source"
  canonicalUrl := none
  kind := .newsArticle
  publishedAt := 0
  fetchedAt := 0
  validFrom := none
  validUntil := none
  language := "en"
  licenseClass := .openLicense
  licenseUri := none
  contentHash := ""
  headline := some headline
  summary := none
  body := none
  facts := []
  providerMetadata := []
  identifiers := {}
  resolutionStatus := .resolved
  securityId := none
  reviewRequired := false

end FinanceSync.Relevance
