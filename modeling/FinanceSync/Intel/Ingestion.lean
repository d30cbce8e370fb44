import FinanceSync.Auth.ApiKeys
import FinanceSync.Lib.Table
import Mathlib.Data.List.Infix

/-!
# Ingestion of market intelligence

`ingest_items`: the items of a provider become stored observations.  An item that the same
source served before is compared with its row and updates it; any other is stored unless
its content is there under another source.  What may be kept of the text is up to the
licence, and the security of a new row to its identifiers.
-/

namespace FinanceSync.Intel

/-! ## Licences -/

/-- Reuse class of a source's content. -/
inductive IntelLicenseClass
  | publicDomain | openLicense | freeAccess | subscriberOnly | proprietary
deriving DecidableEq, Repr

/-- `FULL_CONTENT_LICENSE_CLASSES` -/
def IntelLicenseClass.allowsFullContent : IntelLicenseClass → Bool
  | publicDomain | openLicense => true
  | _ => false

/-- `SNIPPET_LICENSE_CLASSES` -/
def IntelLicenseClass.allowsSnippet : IntelLicenseClass → Bool
  | proprietary => false
  | _ => true

def restrictedPatterns : List (List String) :=
  [["cc by-nc", "cc-by-nc", "non-commercial", "nc license"],
    ["subscription", "subscriber", "paywall", "paid", "proprietary"],
    ["copyright", "all rights reserved", "©"],
    ["terms of service", "terms of use", "license agreement"]]

def openPatterns : List (List String × IntelLicenseClass) :=
  [(["public domain", "publicdomain", "cc0", "no copyright"], .publicDomain),
    (["cc by", "creative commons attribution", "cc-by", "cc_by", "open license", "open licence",
      "apache 2.0", "mit license", "bsd"], .openLicense)]

/-- `keyword in text` for one of the keywords. -/
def anyIn (keywords : List String) (text : String) : Bool :=
  keywords.any fun keyword => keyword.toList <:+: text.toList

/-- Map a free-form licence string to a reuse class. -/
def inferLicenseClass (raw : String) : IntelLicenseClass :=
  if raw = "" then .proprietary
  else
    let text := " ".intercalate (Auth.splitWords raw.toLower)
    if restrictedPatterns.any fun keywords => anyIn keywords text then .subscriberOnly
    else ((openPatterns.find? fun pattern => anyIn pattern.1 text).map Prod.snd).getD .proprietary

/-! ## Items -/

/-- Concrete kind of an item. -/
inductive IntelItemKind
  | newsArticle | corporateEvent | earningsReport | earningsCallTranscript | analystEstimate
  | dividend | guidance
deriving DecidableEq, Repr

/-- The value of a fact; a number is kept as its text. -/
inductive FactValue
  | null
  | text (value : String)
  | number (value : String)
  | bool (value : Bool)
deriving DecidableEq, Repr

/-- A structured fact, as the item has it and as its dict has it. -/
structure IntelStructuredFact where
  key : String
  value : FactValue := .null
  unit : Option String := none
  asOf : Option Instant := none
  itemSourceId : Option String := none
  itemUrl : Option String := none
deriving DecidableEq, Repr

/-- A dict of identifiers, such as a ticker or an ISIN. -/
abbrev Identifiers := List (String × String)

/-- Normalised item from any provider. -/
structure IntelItem where
  provider : String
  sourceId : String
  canonicalUrl : Option String := none
  kind : IntelItemKind := .newsArticle
  publishedAt : Instant := 0
  fetchedAt : Instant := 0
  validFrom : Option Instant := none
  validUntil : Option Instant := none
  language : String := "en"
  licenseClass : IntelLicenseClass
  licenseUri : Option String := none
  licenseText : Option String := none
  contentHash : String
  headline : Option String := none
  summary : Option String := none
  body : Option String := none
  facts : List IntelStructuredFact := []
  providerMetadata : List (String × Json) := []
  identifiers : Identifiers := []
  storeFullText : Bool := false
  storeSummary : Bool := false

/-- `_effective_license_class` -/
def IntelItem.effectiveLicenseClass (item : IntelItem) : IntelLicenseClass :=
  match item.licenseText with
  | some text => inferLicenseClass text
  | none => item.licenseClass

/-- A text that is there and not empty. -/
def isText (text : Option String) : Bool := text.any (· ≠ "")

def enforceSnippetLimit (text : Option String) : Option String :=
  (text.filter (· ≠ "")).map fun text => String.ofList (text.toList.take 500)

/-- `apply_licensing_policy`, where `none` is `IntelLicensingError`. -/
def applyLicensingPolicy (item : IntelItem) : Option IntelItem :=
  let licenseClass := item.effectiveLicenseClass
  if item.licenseText = none ∧
      (item.storeFullText ∧ isText item.body ∧ ¬ item.licenseClass.allowsFullContent ∨
        item.storeSummary ∧ isText item.summary ∧ ¬ item.licenseClass.allowsSnippet) then none
  else
    let body := if licenseClass.allowsFullContent then item.body else none
    let summary := if licenseClass.allowsSnippet then enforceSnippetLimit item.summary else none
    some { item with
      licenseClass, body, summary
      storeFullText := item.storeFullText && body.isSome
      storeSummary := item.storeSummary && summary.isSome }

/-- The policy leaves what the item is about and cuts its texts. -/
theorem applyLicensingPolicy_spec {item policyItem : IntelItem}
    (applied : applyLicensingPolicy item = some policyItem) :
    policyItem.provider = item.provider ∧ policyItem.sourceId = item.sourceId ∧
      policyItem.identifiers = item.identifiers ∧
      (policyItem.body.isSome → policyItem.licenseClass.allowsFullContent) ∧
      (policyItem.summary.isSome → policyItem.licenseClass.allowsSnippet) := by
  rw [applyLicensingPolicy] at applied
  simp only at applied
  split at applied
  · cases applied
  · cases applied
    refine ⟨rfl, rfl, rfl, ?_, ?_⟩
    · intro kept
      by_contra refused
      simp [refused] at kept
    · intro kept
      by_contra refused
      simp [refused] at kept

/-! ## Identities -/

inductive IntelResolutionStatus
  | resolved | ambiguous | unresolved | ignored
deriving DecidableEq, Repr

/-- Result of a successful resolution of one identifier. -/
structure ResolvedSecurity where
  securityId : Uuid
  confidence : String := "high"
  name : String := ""
  ticker : Option String := none
deriving DecidableEq, Repr

/-- The pipeline that resolves one identifier of a type. -/
abbrev SecurityResolver := String → String → Option ResolvedSecurity

/-- A matched security, for the review queue. -/
structure Candidate where
  identifierType : String
  identifier : String
  security : ResolvedSecurity
deriving DecidableEq, Repr

/-- Confidence values that are too weak to link a holding. -/
def lowConfidence : List String := ["medium", "low", "fuzzy", "inferred", "ticker_only", "ticker"]

/-- What `resolve` returns. -/
structure Resolution where
  securityId : Option Uuid := none
  status : IntelResolutionStatus := .unresolved
  reviewRequired : Bool := false
  candidates : List Candidate := []
deriving DecidableEq, Repr

/-- The candidates of the identifiers that the pipeline resolves. -/
def matchedCandidates (resolver : SecurityResolver) (identifiers : Identifiers) : List Candidate :=
  ["isin", "figi", "ticker"].filterMap fun identifierType =>
    match (identifiers.lookup identifierType).filter (· ≠ "") with
    | none => none
    | some value => (resolver identifierType value).map fun security =>
        ⟨identifierType, value, security⟩

/-- `IntelIdentityResolution.resolve` -/
def resolve (resolver : SecurityResolver) (identifiers : Identifiers) : Resolution :=
  match matchedCandidates resolver identifiers with
  | [] => {}
  | best :: others =>
      let candidates := best :: others
      if others.any fun other => other.security.securityId ≠ best.security.securityId then
        { status := .ambiguous, reviewRequired := true, candidates }
      else if best.security.confidence.toLower ∈ lowConfidence then
        { status := .ambiguous, reviewRequired := true, candidates }
      else { securityId := some best.security.securityId, status := .resolved, candidates }

/-! ## The store -/

/-- A stored observation of one tenant. -/
structure MarketIntelligenceItem where
  id : Uuid
  provider : String
  sourceId : String
  canonicalUrl : Option String
  kind : IntelItemKind
  publishedAt : Instant
  fetchedAt : Instant
  validFrom : Option Instant
  validUntil : Option Instant
  language : String
  licenseClass : IntelLicenseClass
  licenseUri : Option String
  contentHash : String
  staleAfter : Option Instant := none
  isStale : Bool := false
  headline : Option String
  summary : Option String
  body : Option String
  facts : List IntelStructuredFact
  providerMetadata : List (String × Json)
  identifiers : Identifiers
  resolutionStatus : IntelResolutionStatus
  securityId : Option Uuid
  reviewRequired : Bool

inductive ReviewStatus
  | pending | resolved | dismissed
deriving DecidableEq, Repr

/-- An entry of the review queue. -/
structure ReviewEntry where
  id : Uuid
  itemId : Uuid
  provider : String
  sourceId : String
  candidateIdentifiers : List Candidate
  resolutionStatus : ReviewStatus := .pending
  resolvedSecurityId : Option Uuid := none

abbrev Items := Lib.Table MarketIntelligenceItem MarketIntelligenceItem.id

/-- The observations of a tenant and its review queue. -/
structure Store where
  items : Items
  queue : Lib.Table ReviewEntry ReviewEntry.id

def Store.empty : Store := ⟨.empty, .empty⟩

/-- `uq_market_intel_provider_source` and `uq_market_intel_content_hash` -/
structure UniqueKeys (rows : List MarketIntelligenceItem) : Prop where
  source : (rows.map fun row => (row.provider, row.sourceId)).Nodup
  contentHash : (rows.map MarketIntelligenceItem.contentHash).Nodup

instance (rows : List MarketIntelligenceItem) : Decidable (UniqueKeys rows) :=
  decidable_of_iff (_ ∧ _) ⟨fun both => ⟨both.1, both.2⟩, fun unique => ⟨unique.1, unique.2⟩⟩

/-- A flush of the items, where `none` is `IntegrityError`. -/
def Store.flush (store : Store) (items : Items) : Option Store :=
  if UniqueKeys items.rows then some { store with items } else none

theorem Store.flush_isSome (store : Store) (items : Items) :
    (store.flush items).isSome ↔ UniqueKeys items.rows := by
  rw [Store.flush]
  split <;> simp_all

/-- The rows of a flush that succeeds. -/
theorem Store.of_flush {store next : Store} {items : Items} (flushed : next ∈ store.flush items) :
    UniqueKeys items.rows ∧ next = { store with items } := by
  rw [Store.flush] at flushed
  split at flushed
  · next unique =>
      cases flushed
      exact ⟨unique, rfl⟩
  · cases flushed

/-! ## `ingest_items` -/

/-- `_is_unchanged` -/
def isUnchanged (existing : MarketIntelligenceItem) (item : IntelItem) : Bool :=
  existing.contentHash = item.contentHash && existing.headline = item.headline &&
    existing.summary = item.summary && existing.body = item.body &&
    existing.canonicalUrl = item.canonicalUrl && existing.facts = item.facts

/-- `_update_row` -/
def updateRow (existing : MarketIntelligenceItem) (item : IntelItem) : MarketIntelligenceItem :=
  { existing with
    contentHash := item.contentHash
    canonicalUrl := item.canonicalUrl
    headline := item.headline
    summary := item.summary
    body := item.body
    facts := item.facts
    providerMetadata := item.providerMetadata
    identifiers := item.identifiers
    fetchedAt := item.fetchedAt
    validFrom := item.validFrom
    validUntil := item.validUntil
    language := item.language
    licenseClass := item.licenseClass
    licenseUri := item.licenseUri
    isStale := false
    staleAfter := none }

/-- `_find_by_source` -/
def Store.findBySource (store : Store) (providerKey sourceId : String) :
    Option MarketIntelligenceItem :=
  store.items.rows.find? fun row => row.provider = providerKey && row.sourceId = sourceId

/-- The row that is found by its source. -/
theorem Store.of_findBySource {store : Store} {providerKey sourceId : String}
    {existing : MarketIntelligenceItem}
    (found : store.findBySource providerKey sourceId = some existing) :
    existing ∈ store.items.rows ∧ existing.provider = providerKey ∧
      existing.sourceId = sourceId := by
  have meets := List.find?_some found
  simp only [Bool.and_eq_true, decide_eq_true_eq] at meets
  exact ⟨List.mem_of_find?_eq_some found, meets⟩

theorem Store.of_findBySource_none {store : Store} {providerKey sourceId : String}
    (missing : store.findBySource providerKey sourceId = none) :
    ∀ row ∈ store.items.rows, row.provider = providerKey → row.sourceId ≠ sourceId := by
  intro row isMem sameProvider sameSource
  have fails := List.find?_eq_none.mp missing row isMem
  simp [sameProvider, sameSource] at fails

/-- `_find_by_hash` -/
def Store.findByHash (store : Store) (contentHash : String) : Option MarketIntelligenceItem :=
  store.items.rows.find? fun row => row.contentHash = contentHash

/-- `_build_row` -/
def buildRow (id : Uuid) (item : IntelItem) (resolution : Resolution) : MarketIntelligenceItem where
  id := id
  provider := item.provider
  sourceId := item.sourceId
  canonicalUrl := item.canonicalUrl
  kind := item.kind
  publishedAt := item.publishedAt
  fetchedAt := item.fetchedAt
  validFrom := item.validFrom
  validUntil := item.validUntil
  language := item.language
  licenseClass := item.licenseClass
  licenseUri := item.licenseUri
  contentHash := item.contentHash
  headline := item.headline
  summary := item.summary
  body := item.body
  facts := item.facts
  providerMetadata := item.providerMetadata
  identifiers := item.identifiers
  resolutionStatus := resolution.status
  securityId := if resolution.reviewRequired then none else resolution.securityId
  reviewRequired := resolution.reviewRequired

@[simp] theorem buildRow_id (id : Uuid) (item : IntelItem) (resolution : Resolution) :
    (buildRow id item resolution).id = id := rfl

/-- `_ensure_review_entry` -/
def Store.ensureReviewEntry (store : Store) (item : IntelItem) (row : MarketIntelligenceItem)
    (candidates : List Candidate) : Store :=
  if store.queue.rows.any fun entry => entry.itemId = row.id then store
  else
    { store with
      queue := store.queue.insert
        { id := store.queue.next, itemId := row.id, provider := item.provider,
          sourceId := item.sourceId, candidateIdentifiers := candidates } rfl }

/-- What becomes of an item. -/
inductive Handled
  | ingested (reviewRequired : Bool)
  | updated
  | duplicate
  | error
deriving DecidableEq, Repr

/-- The counts that `ingest_items` returns. -/
structure Summary where
  ingested : Nat := 0
  updated : Nat := 0
  duplicates : Nat := 0
  reviewRequired : Nat := 0
  errors : Nat := 0
deriving DecidableEq, Repr

def Summary.count (summary : Summary) : Handled → Summary
  | .ingested reviewRequired =>
      { summary with
        ingested := summary.ingested + 1
        reviewRequired := summary.reviewRequired + if reviewRequired then 1 else 0 }
  | .updated => { summary with updated := summary.updated + 1 }
  | .duplicate => { summary with duplicates := summary.duplicates + 1 }
  | .error => { summary with errors := summary.errors + 1 }

section Ingestion

variable (resolver : SecurityResolver) (providerKey : String) (resolveIdentities : Bool)

/-- The resolution that a new row is stored with. -/
def IntelItem.resolution (item : IntelItem) : Resolution :=
  if resolveIdentities ∧ item.identifiers ≠ [] then resolve resolver item.identifiers else {}

/-- A new row for an item, and a review entry where its identity is ambiguous. -/
def Store.insertItem (store : Store) (item : IntelItem) : Option (Store × Handled) :=
  let resolution := item.resolution resolver resolveIdentities
  let row := buildRow store.items.next item resolution
  (store.flush (store.items.insert row (buildRow_id _ _ _))).map fun store =>
    if resolution.reviewRequired then
      (store.ensureReviewEntry item row resolution.candidates, .ingested true)
    else (store, .ingested false)

/-- What the insertion of an item leaves: its row, and a queue that may be longer. -/
theorem Store.insertItem_spec (store : Store) (item : IntelItem) :
    let row := buildRow store.items.next item (item.resolution resolver resolveIdentities)
    ((store.insertItem resolver resolveIdentities item).isSome ↔
        UniqueKeys (store.items.insert row (buildRow_id _ _ _)).rows) ∧
      ∀ stored ∈ store.insertItem resolver resolveIdentities item,
        stored.1.items.rows = store.items.rows ++ [row] ∧
          store.queue.rows ⊆ stored.1.queue.rows := by
  intro row
  rw [insertItem]
  constructor
  · rw [Option.isSome_map, flush_isSome]
  · intro stored isStored
    obtain ⟨flushed, isFlushed, rfl⟩ := Option.map_eq_some_iff.mp isStored
    obtain ⟨_, rfl⟩ := of_flush isFlushed
    split
    · rw [ensureReviewEntry]
      split
      · exact ⟨rfl, List.Subset.refl _⟩
      · exact ⟨rfl, List.subset_append_left _ _⟩
    · exact ⟨rfl, List.Subset.refl _⟩

/-- One pass of the loop of `ingest_items`, where `none` is `IntegrityError`. -/
def Store.ingestItem (store : Store) (item : IntelItem) : Option (Store × Handled) :=
  match applyLicensingPolicy item with
  | none => some (store, .error)
  | some policyItem =>
      match store.findBySource providerKey policyItem.sourceId with
      | some existing =>
          if isUnchanged existing policyItem then some (store, .duplicate)
          else
            (store.flush (store.items.save (updateRow existing policyItem))).map fun store =>
              (store, .updated)
      | none =>
          match store.findByHash policyItem.contentHash with
          | some _ => some (store, .duplicate)
          | none => store.insertItem resolver resolveIdentities policyItem

/-- `ingest_items` -/
def Store.ingestItems (store : Store) : List IntelItem → Option (Store × Summary)
  | [] => some (store, {})
  | item :: rest => do
      let (next, handled) ← store.ingestItem resolver providerKey resolveIdentities item
      let (last, summary) ← next.ingestItems rest
      some (last, summary.count handled)

/-- The store after an item, which stays as it is if the item is not stored. -/
def Store.afterItem (store : Store) (item : IntelItem) : Store :=
  ((store.ingestItem resolver providerKey resolveIdentities item).map Prod.fst).getD store

/-- A page is stored exactly if each of its items is, and then it leaves what the items leave
one after the other. -/
theorem Store.ingestItems_eq (items : List IntelItem) : ∀ store : Store,
    ((store.ingestItems resolver providerKey resolveIdentities items).isSome ↔
        Lib.Along (Store.afterItem resolver providerKey resolveIdentities)
          (fun store item => (store.ingestItem resolver providerKey resolveIdentities item).isSome)
          store items) ∧
      ∀ stored ∈ store.ingestItems resolver providerKey resolveIdentities items,
        stored.1 = Lib.runAll (Store.afterItem resolver providerKey resolveIdentities) store
          items := by
  induction items with
  | nil => simp [Store.ingestItems, Lib.Along]
  | cons item rest ih =>
      intro store
      obtain ⟨stored, same⟩ := ih
        (store.afterItem resolver providerKey resolveIdentities item)
      rw [Lib.Along, ← stored, Lib.runAll_cons, Store.ingestItems]
      rw [Store.afterItem] at same ⊢
      cases handled : store.ingestItem resolver providerKey resolveIdentities item with
      | none => simp
      | some result =>
          rw [handled, Option.map_some, Option.getD_some] at same
          cases ingested : result.1.ingestItems resolver providerKey resolveIdentities rest with
          | none => simp [ingested]
          | some last => simpa [ingested] using same last ingested

end Ingestion

end FinanceSync.Intel
