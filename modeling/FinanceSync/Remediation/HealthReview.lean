import FinanceSync.Remediation.HealthFindings
import FinanceSync.Lib.FirstByKey
import Mathlib.Data.List.Forall2

/-!
# Review of health findings

A finding is marked for manual review in three passes: by its kind, where no canonical
security is found for it, and where the contract of the target is not verified.  The last
pass decides the mark anew, so that a finding without a repair of prices loses it.
-/

namespace FinanceSync.Remediation

open Lib

/-! ## Contexts -/

/-- What the passes read and write of a finding's context.  A key that is not there is no
value, and no mark. -/
structure HealthContext where
  securityId : Option String := none
  identifier : Option String := none
  identifierType : Option String := none
  manualReview : Bool := false
  identityResolution : Option String := none
  accountId : Option String := none
  connectionId : Option String := none
  providerAccountId : Option String := none
  costBasisResolution : Option String := none
  compatibility : Option String := none

structure HealthFinding where
  issue : DetectedIssue
  context : HealthContext := {}

/-- `value is not None` -/
def isSet : Json → Bool
  | .null => false
  | _ => true

/-- The first of the keys that is set, as a text. -/
def firstSet (data : JsonObject) (keys : List String) : Option String :=
  ((keys.map fun key => JsonObject.get data key .null).find? isSet).map (boundedText 64)

/-- The identifier of an affected item, and its type. -/
def identifierOf (data : JsonObject) : Option (String × String) :=
  let isin := JsonObject.get data "isin" (JsonObject.get data "ISIN" .null)
  let ticker := JsonObject.get data "ticker" (JsonObject.get data "Ticker" .null)
  let figi := JsonObject.get data "figi" .null
  let cusip := JsonObject.get data "cusip" .null
  if isSet isin then some (boundedText 64 isin, "isin")
  else if isSet ticker then some (boundedText 64 ticker, "ticker")
  else if isSet figi then some (boundedText 64 figi, "figi")
  else if isSet cusip then some (boundedText 64 cusip, "cusip")
  else
    (firstSet data ["providerSymbol", "provider_symbol", "symbol", "displayCode",
      "instrumentSymbol"]).map fun symbol => (symbol, "provider_symbol")

/-- The context of the finding of an issue about one of its affected items. -/
def contextOf (issue : JsonObject) (item : Json) : HealthContext :=
  let data := item.asDict.getD []
  { securityId := firstSet data ["securityId", "security_id"]
    identifier := (identifierOf data).map Prod.fst
    identifierType := (identifierOf data).map Prod.snd
    manualReview := issueKind issue ∉ [.quoteSyncFailure, .historicalPriceGap, .fxSync] }

namespace Polled

variable (polled : Polled)

/-- The issues and their affected items that are read of a payload. -/
def readItems (rawIssues : List Json) : List (JsonObject × Json) :=
  ((rawIssues.take maxAffectedItems).filterMap Json.asDict).flatMap fun raw =>
    ((affectedItems raw).take maxAffectedItems).map fun item => (raw, item)

def healthFinding (read : JsonObject × Json) : HealthFinding where
  issue := polled.finding read.1 read.2
  context := contextOf read.1 read.2

/-- `normalize_health_issues`, with the contexts of the findings. -/
def healthFindings (payload : JsonObject) : List HealthFinding :=
  match payload.get "issues" (.array []) with
  | .array rawIssues => (readItems rawIssues).map polled.healthFinding
  | _ => [{ issue := polled.malformedIssues }]

/-- The contexts come on top of the findings. -/
theorem map_issue_healthFindings (payload : JsonObject) :
    (polled.healthFindings payload).map HealthFinding.issue =
      polled.normalizeHealthIssues payload := by
  rw [healthFindings, normalizeHealthIssues]
  generalize payload.get "issues" (.array []) = issues
  cases issues with
  | array rawIssues =>
      simp only [readItems, List.map_flatMap, List.map_map]
      rfl
  | _ => rfl

end Polled

/-! ## Canonical securities -/

structure SecurityRow where
  id : String
  isin : Option String := none
  ticker : Option String := none
  figi : Option String := none
  cusip : Option String := none

structure SecurityListing where
  securityId : String
  ticker : Option String := none

structure AccountRow where
  id : String
  tenantId : String
  providerKey : String
  connectionId : Option String := none
deriving DecidableEq

structure HoldingRow where
  tenantId : String
  accountId : String
  securityId : String
  quantity : ℚ

/-- The tables that findings are resolved with, and the upper case of Python and of the
database. -/
structure HealthTables where
  securities : List SecurityRow := []
  listings : List SecurityListing := []
  accounts : List AccountRow := []
  holdings : List HoldingRow := []
  upper : String → String := id
  sqlUpper : String → String := id

namespace HealthTables

variable (tables : HealthTables)

def identifierTypes : List String := ["isin", "ticker", "figi", "cusip", "provider_symbol"]

/-- `getattr(Security, identifier_type)` -/
def column (identifierType : String) (security : SecurityRow) : Option String :=
  if identifierType = "isin" then security.isin
  else if identifierType = "ticker" then security.ticker
  else if identifierType = "figi" then security.figi
  else security.cusip

/-- `func.upper(column) == value.upper()` -/
def isSame (column : Option String) (value : String) : Bool :=
  column.map tables.sqlUpper = some (tables.upper value)

def only {Row : Type} : List Row → Option Row
  | [row] => some row
  | _ => none

def findCanonicalSecurity (context : HealthContext) : Option SecurityRow :=
  match context.securityId.filter (· ≠ "") with
  | some securityId => only (tables.securities.filter (·.id = securityId))
  | none =>
      match context.identifier.filter (· ≠ "") with
      | none => none
      | some identifier =>
          let identifierType := lower (context.identifierType.getD "")
          let value := String.ofList (strip identifier.toList)
          if value = "" ∨ identifierType ∉ identifierTypes then none
          else if identifierType = "provider_symbol" then
            let byTicker := tables.securities.filter (tables.isSame ·.ticker value)
            let byListing := tables.listings.flatMap fun listing =>
              if tables.isSame listing.ticker value then
                tables.securities.filter (·.id = listing.securityId)
              else []
            only (firsts SecurityRow.id (byTicker ++ byListing))
          else only (tables.securities.filter fun security =>
            tables.isSame (column identifierType security) value)

def canonicalIdentifier (context : HealthContext) (security : SecurityRow) :
    Option (String × String) :=
  let explicitType := lower (context.identifierType.getD "")
  match (context.identifier.filter (· ≠ "")).filter fun _ => explicitType ∈ identifierTypes with
  | some explicit => some (explicit, explicitType)
  | none =>
      [(security.isin, "isin"), (security.ticker, "ticker"), (security.figi, "figi"),
        (security.cusip, "cusip")].findSome? fun (value, kind) =>
          (value.filter (· ≠ "")).map fun value => (value, kind)

/-- The security of a finding's context, and the identifier that it goes by. -/
def identified (context : HealthContext) : Bool :=
  match tables.findCanonicalSecurity context with
  | none => false
  | some security => (canonicalIdentifier context security).isSome

/-- The accounts of the provider that hold a security. -/
def holdingAccounts (tenantId securityId : String) : List AccountRow :=
  (tables.accounts.filter fun account =>
    account.tenantId = tenantId && account.providerKey = "trading212" &&
      tables.holdings.any fun holding =>
        holding.tenantId = tenantId && holding.accountId = account.id &&
          holding.securityId = securityId && holding.quantity ≠ 0).dedup

def costBasisContext (tenantId securityId : String) (context : HealthContext) : HealthContext :=
  match tables.holdingAccounts tenantId securityId with
  | [account] =>
      { context with
        accountId := some account.id
        connectionId := account.connectionId
        providerAccountId := some account.id }
  | _ =>
      { context with
        manualReview := true
        costBasisResolution := some "no_unique_trading212_account" }

end HealthTables

/-! ## The passes -/

def priceStrategies : List String := ["wealthfolio_quote", "wealthfolio_price_history"]

namespace HealthFinding

variable (tables : HealthTables) (finding : HealthFinding)

/-- A finding without a canonical security. -/
def unresolved (resolution : String) : HealthFinding where
  issue := { finding.issue with remediationStrategy := "unsupported" }
  context :=
    { finding.context with manualReview := true, identityResolution := some resolution }

/-- `resolve_canonical_health_issues` on one finding. -/
def resolve : HealthFinding :=
  if finding.issue.remediationStrategy ∉ priceStrategies ++ ["wealthfolio_cost_basis"] then finding
  else
    match tables.findCanonicalSecurity finding.context with
    | none => finding.unresolved "unresolved_or_ambiguous"
    | some security =>
        match HealthTables.canonicalIdentifier finding.context security with
        | none => finding.unresolved "canonical_identifier_missing"
        | some (identifier, identifierType) =>
            let context :=
              { finding.context with
                securityId := some security.id
                identifier := some identifier
                identifierType := some identifierType
                identityResolution := some "canonical" }
            { finding with
              context :=
                if finding.issue.remediationStrategy = "wealthfolio_cost_basis" then
                  tables.costBasisContext finding.issue.tenantId security.id context
                else context }

/-- What becomes of a finding where the contract of the target is not verified. -/
def unverified : HealthFinding :=
  let isPrice : Bool := finding.issue.remediationStrategy ∈ priceStrategies
  { issue :=
      { finding.issue with
        remediationStrategy :=
          if isPrice then "unsupported" else finding.issue.remediationStrategy }
    context :=
      { finding.context with
        manualReview := isPrice
        compatibility := some "unsupported_or_unverified" } }

end HealthFinding

/-- The findings that `enqueue_success` registers. -/
def registeredFindings (tables : HealthTables) (polled : Polled) (payload : JsonObject)
    (compatibilityVerified : Bool) : List HealthFinding :=
  let findings := (polled.healthFindings payload).map (HealthFinding.resolve tables)
  if compatibilityVerified then findings else findings.map HealthFinding.unverified

/-! ## Less trust, more review -/

/-- A finding is as restricted without verification as with it. -/
structure AtLeastAsRestricted (verified unverified : HealthFinding) : Prop where
  manualReview : verified.context.manualReview → unverified.context.manualReview
  unsupported : verified.issue.remediationStrategy = "unsupported" →
    unverified.issue.remediationStrategy = "unsupported"

/-- The kinds without a safe repair. -/
def unsafeKinds : List IssueKind :=
  [.missingPurchasePrice, .negativeValuation, .incompleteValuation, .transactionOrTransferIssue]

structure NeverLessReview (tables : HealthTables) (polled : Polled) (payload : JsonObject) :
    Prop where
  restricted : List.Forall₂ AtLeastAsRestricted (registeredFindings tables polled payload true)
    (registeredFindings tables polled payload false)
  reviewed : ∀ verified, ∀ finding ∈ registeredFindings tables polled payload verified,
    finding.issue.issueType ∈ unsafeKinds.map IssueKind.name → finding.context.manualReview

/-- Exchange rates, or prices of something that is identified. -/
def IssueKind.KeepsReview (identified : Bool) : IssueKind → Prop
  | fxSync => True
  | quoteSyncFailure | historicalPriceGap | incompleteValuation => identified
  | _ => False

/-- An issue about exchange rates, or about prices of an item whose security is found. -/
def KeepsReview (tables : HealthTables) (read : JsonObject × Json) : Prop :=
  (issueKind read.1).KeepsReview (tables.identified (contextOf read.1 read.2))

/-! ### The passes, one by one -/

section Passes

variable (tables : HealthTables) {finding : HealthFinding}

theorem restricted_unverified_iff :
    AtLeastAsRestricted finding finding.unverified ↔
      (finding.context.manualReview → finding.issue.remediationStrategy ∈ priceStrategies) := by
  constructor
  · intro restricted marked
    exact of_decide_eq_true (restricted.manualReview marked)
  · intro isPrice
    refine ⟨fun marked => decide_eq_true (isPrice marked), fun isUnsupported => ?_⟩
    change (if _ then "unsupported" else finding.issue.remediationStrategy) = "unsupported"
    rw [isUnsupported]
    exact ite_self _

theorem resolve_other
    (other : finding.issue.remediationStrategy ∉ priceStrategies ++ ["wealthfolio_cost_basis"]) :
    finding.resolve tables = finding :=
  if_pos other

/-- A finding about prices keeps its mark and its strategy if its security is found, and is
marked and without a repair otherwise. -/
theorem resolve_price (isPrice : finding.issue.remediationStrategy ∈ priceStrategies) :
    ((finding.resolve tables).context.manualReview,
        (finding.resolve tables).issue.remediationStrategy) =
      if tables.identified finding.context then
        (finding.context.manualReview, finding.issue.remediationStrategy)
      else (true, "unsupported") := by
  have notOther : ¬ finding.issue.remediationStrategy ∉
      priceStrategies ++ ["wealthfolio_cost_basis"] :=
    not_not_intro (List.mem_append_left _ isPrice)
  have notCostBasis : finding.issue.remediationStrategy ≠ "wealthfolio_cost_basis" := by
    intro same
    rw [same] at isPrice
    exact absurd isPrice (by decide)
  rw [HealthFinding.resolve, if_neg notOther, HealthTables.identified]
  cases tables.findCanonicalSecurity finding.context with
  | none => rfl
  | some security =>
      cases found : HealthTables.canonicalIdentifier finding.context security with
      | none =>
          simp only [found]
          rfl
      | some identifier =>
          simp only [found, if_neg notCostBasis]
          rfl

/-- A mark stays, and a finding gets no other repair. -/
theorem resolve_marked (marked : finding.context.manualReview) :
    (finding.resolve tables).context.manualReview ∧
      ((finding.resolve tables).issue.remediationStrategy = finding.issue.remediationStrategy ∨
        (finding.resolve tables).issue.remediationStrategy = "unsupported") := by
  rw [HealthFinding.resolve]
  split
  · exact ⟨marked, .inl rfl⟩
  · split
    · exact ⟨rfl, .inr rfl⟩
    · split
      · exact ⟨rfl, .inr rfl⟩
      · refine ⟨?_, .inl rfl⟩
        dsimp only
        split
        · rw [HealthTables.costBasisContext]
          split
          · exact marked
          · rfl
        · exact marked

theorem issueType_resolve : (finding.resolve tables).issue.issueType = finding.issue.issueType := by
  rw [HealthFinding.resolve]
  split
  · rfl
  · split
    · rfl
    · split <;> rfl

end Passes

/-! ### Findings of a payload -/

section Findings

variable (tables : HealthTables) (polled : Polled)

/-- The findings that are no worse off without verification are those whose review does
not rest on a mark. -/
theorem restricted_iff_keepsReview (read : JsonObject × Json) :
    AtLeastAsRestricted ((polled.healthFinding read).resolve tables)
        ((polled.healthFinding read).resolve tables).unverified ↔
      KeepsReview tables read := by
  rw [restricted_unverified_iff, KeepsReview]
  have isStrategy : (polled.healthFinding read).issue.remediationStrategy =
      (issueKind read.1).strategy := by
    simp only [Polled.healthFinding, Polled.finding]
  have isMark : (polled.healthFinding read).context.manualReview =
      decide (issueKind read.1 ∉ [.quoteSyncFailure, .historicalPriceGap, .fxSync]) := by
    simp only [Polled.healthFinding, contextOf]
  have isContext : (polled.healthFinding read).context = contextOf read.1 read.2 := rfl
  generalize issueKind read.1 = kind at isStrategy isMark ⊢
  have price : kind.strategy ∈ priceStrategies →
      ((((polled.healthFinding read).resolve tables).context.manualReview →
          ((polled.healthFinding read).resolve tables).issue.remediationStrategy ∈
            priceStrategies) ↔
        tables.identified (contextOf read.1 read.2)) := by
    intro isPrice
    rw [← isStrategy] at isPrice
    have resolved := resolve_price tables isPrice
    rw [isContext] at resolved
    split at resolved
    · next found =>
        rw [Prod.mk.injEq] at resolved
        rw [resolved.2]
        exact iff_of_true (fun _ => isPrice) found
    · next notFound =>
        rw [Prod.mk.injEq] at resolved
        rw [resolved.1, resolved.2]
        exact iff_of_false (fun isPrice => absurd (isPrice rfl) (by decide)) notFound
  have marked : kind ∉ [IssueKind.quoteSyncFailure, .historicalPriceGap, .fxSync] →
      kind.strategy ∉ priceStrategies →
      ¬ (((polled.healthFinding read).resolve tables).context.manualReview →
        ((polled.healthFinding read).resolve tables).issue.remediationStrategy ∈
          priceStrategies) := by
    intro isMarked notPrice isPrice
    have resolved := resolve_marked tables (isMark.trans (decide_eq_true isMarked))
    have repaired := isPrice resolved.1
    rcases resolved.2 with same | unsupported
    · rw [same, isStrategy] at repaired
      exact notPrice repaired
    · rw [unsupported] at repaired
      exact absurd repaired (by decide)
  cases kind with
  | fxSync =>
      have other : (polled.healthFinding read).issue.remediationStrategy ∉
          priceStrategies ++ ["wealthfolio_cost_basis"] := by
        rw [isStrategy]
        decide
      rw [resolve_other tables other, isMark]
      exact iff_of_true (fun marked => absurd marked (by decide)) trivial
  | quoteSyncFailure => exact price (by decide)
  | historicalPriceGap => exact price (by decide)
  | incompleteValuation => exact price (by decide)
  | missingPurchasePrice => exact iff_of_false (marked (by decide) (by decide)) not_false
  | negativeValuation => exact iff_of_false (marked (by decide) (by decide)) not_false
  | transactionOrTransferIssue => exact iff_of_false (marked (by decide) (by decide)) not_false
  | unsupportedIssue => exact iff_of_false (marked (by decide) (by decide)) not_false

theorem restricted_malformed :
    AtLeastAsRestricted (HealthFinding.resolve tables { issue := polled.malformedIssues })
      (HealthFinding.resolve tables { issue := polled.malformedIssues }).unverified := by
  have other : polled.malformedIssues.remediationStrategy ∉
      priceStrategies ++ ["wealthfolio_cost_basis"] := by
    change "unsupported" ∉ _
    decide
  rw [resolve_other tables other, restricted_unverified_iff]
  intro marked
  cases marked

/-- One by one the findings of both runs belong to each other. -/
theorem forall₂_registered_iff {payload : JsonObject} :
    List.Forall₂ AtLeastAsRestricted (registeredFindings tables polled payload true)
        (registeredFindings tables polled payload false) ↔
      ∀ finding ∈ polled.healthFindings payload,
        AtLeastAsRestricted (finding.resolve tables) (finding.resolve tables).unverified := by
  rw [registeredFindings, registeredFindings, if_pos rfl, if_neg Bool.false_ne_true,
    List.forall₂_map_right_iff, List.forall₂_same, List.forall_mem_map]

theorem forall_restricted_iff {payload : JsonObject} :
    (∀ finding ∈ polled.healthFindings payload,
        AtLeastAsRestricted (finding.resolve tables) (finding.resolve tables).unverified) ↔
      ∀ rawIssues, payload.get "issues" (.array []) = .array rawIssues →
        ∀ read ∈ Polled.readItems rawIssues, KeepsReview tables read := by
  rw [Polled.healthFindings]
  generalize payload.get "issues" (.array []) = issues
  have malformed : ∀ finding ∈ [({ issue := polled.malformedIssues } : HealthFinding)],
      AtLeastAsRestricted (finding.resolve tables) (finding.resolve tables).unverified := by
    intro finding isMem
    rw [List.mem_singleton.mp isMem]
    exact restricted_malformed tables polled
  cases issues with
  | array rawIssues =>
      simp only [List.forall_mem_map, restricted_iff_keepsReview, Json.array.injEq, forall_eq']
  | _ => exact iff_of_true malformed fun _ noArray => nomatch noArray

/-- With verification every finding without a safe repair is marked. -/
theorem reviewed_of_resolved {payload : JsonObject} {finding : HealthFinding}
    (isMem : finding ∈ polled.healthFindings payload)
    (isUnsafe : finding.issue.issueType ∈ unsafeKinds.map IssueKind.name) :
    (finding.resolve tables).context.manualReview := by
  have marked : finding.context.manualReview := by
    rw [Polled.healthFindings] at isMem
    generalize payload.get "issues" (.array []) = issues at isMem
    have noMalformed : finding ∉ [({ issue := polled.malformedIssues } : HealthFinding)] := by
      intro isMalformed
      rw [List.mem_singleton.mp isMalformed] at isUnsafe
      change IssueKind.unsupportedIssue.name ∈ _ at isUnsafe
      exact absurd isUnsafe (by decide)
    cases issues with
    | array rawIssues =>
        rcases List.mem_map.mp isMem with ⟨read, _, rfl⟩
        simp only [Polled.healthFinding, Polled.finding] at isUnsafe
        simp only [Polled.healthFinding, contextOf]
        generalize issueKind read.1 = kind at isUnsafe ⊢
        revert isUnsafe
        cases kind <;> decide
    | _ => exact absurd isMem noMalformed
  exact (resolve_marked tables marked).1

end Findings

/-- Without verification no finding is reviewed less exactly if every issue is about
exchange rates, or about prices of items whose security is found. -/
theorem neverLessReview_iff (tables : HealthTables) (polled : Polled) (payload : JsonObject) :
    NeverLessReview tables polled payload ↔
      ∀ rawIssues, payload.get "issues" (.array []) = .array rawIssues →
        ∀ read ∈ Polled.readItems rawIssues, KeepsReview tables read := by
  rw [← forall_restricted_iff tables polled, ← forall₂_registered_iff]
  constructor
  · intro never
    exact never.restricted
  · intro restricted
    refine ⟨restricted, fun verified finding isMem isUnsafe => ?_⟩
    rw [forall₂_registered_iff] at restricted
    cases verified with
    | true =>
        rw [registeredFindings, if_pos rfl] at isMem
        rcases List.mem_map.mp isMem with ⟨original, originalMem, rfl⟩
        rw [issueType_resolve] at isUnsafe
        exact reviewed_of_resolved tables polled originalMem isUnsafe
    | false =>
        rw [registeredFindings, if_neg Bool.false_ne_true, List.map_map] at isMem
        rcases List.mem_map.mp isMem with ⟨original, originalMem, rfl⟩
        apply (restricted original originalMem).manualReview
        apply reviewed_of_resolved tables polled originalMem
        rw [← issueType_resolve tables]
        exact isUnsafe

/-- A purchase price that is missing, in an otherwise readable payload. -/
def missingPurchasePrice : JsonObject :=
  [("issues", .array [.object
    [("code", .string "MISSING_PURCHASE_PRICE"), ("assetId", .string "fund")]])]

def samplePolled : Polled where
  tenantId := "tenant"
  targetId := "target"
  now := 0

theorem missing_purchase_price_loses_review :
    (registeredFindings {} samplePolled missingPurchasePrice true).map
        (fun finding => (finding.issue.issueType, finding.context.manualReview)) =
          [("wealthfolio_missing_purchase_price", true)] ∧
      (registeredFindings {} samplePolled missingPurchasePrice false).map
        (fun finding => (finding.issue.issueType, finding.context.manualReview)) =
          [("wealthfolio_missing_purchase_price", false)] ∧
      ¬ NeverLessReview {} samplePolled missingPurchasePrice := by
  have unverified : (registeredFindings {} samplePolled missingPurchasePrice false).map
      (fun finding => (finding.issue.issueType, finding.context.manualReview)) =
        [("wealthfolio_missing_purchase_price", false)] := by decide +kernel
  refine ⟨by decide +kernel, unverified, fun never => ?_⟩
  rcases List.map_eq_singleton_iff.mp unverified with ⟨finding, isOnly, same⟩
  rw [Prod.mk.injEq] at same
  have isMem : finding ∈ registeredFindings {} samplePolled missingPurchasePrice false := by
    rw [isOnly]
    exact List.mem_singleton_self finding
  have reviewed := never.reviewed false finding isMem (by rw [same.1]; decide)
  rw [same.2] at reviewed
  cases reviewed

end FinanceSync.Remediation
