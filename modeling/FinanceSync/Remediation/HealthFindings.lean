import FinanceSync.Remediation.Backlog
import FinanceSync.Visibility.Spending
import Mathlib.Data.List.Infix

/-!
# Wealthfolio health findings

A health response lists issues, and each issue the items that it affects.  One
function decides whether the response is complete, and another reads it into
findings, with bounds of its own.
-/

namespace FinanceSync.Remediation

open Visibility (truthy setItem)

def maxContextText : Nat := 256

def maxAffectedItems : Nat := 100

/-! ## JSON -/

/-- A loaded JSON object. -/
abbrev JsonObject : Type := List (String × Json)

/-- `fields.get(key, default)` -/
def JsonObject.get (fields : JsonObject) (key : String) (default : Json) : Json :=
  (fields.lookup key).getD default

/-- `first or second` -/
def orElse (first second : Json) : Json := if truthy first then first else second

/-- `_text`: the text of a value without the space around it, cut off at the limit. -/
def boundedText (limit : Nat) (value : Json) : String :=
  String.ofList ((strip (if truthy value then value.str else "").toList).take limit)

def lower (text : String) : String := String.ofList (text.toList.map Char.toLower)

/-- `part in text` -/
def mentions (text part : String) : Bool := part.toList <:+: text.toList

/-! ## Completeness -/

/-- The list of issues, unless there is none or something else in its place. -/
def issueList (payload : JsonObject) : Option (List Json) :=
  match payload.get "issues" .null with
  | .array issues => some issues
  | _ => none

/-- Where the provider says that there is more to read. -/
structure Pagination where
  nextCursor : Json
  hasMore : Json

def paginationOf (payload : JsonObject) : Pagination :=
  let nextCursor := payload.get "nextCursor" (payload.get "next_cursor" .null)
  let hasMore := payload.get "hasMore" (payload.get "has_more" .null)
  match payload.get "pagination" .null with
  | .object pagination =>
      { nextCursor := JsonObject.get pagination "nextCursor"
          (JsonObject.get pagination "next_cursor" nextCursor)
        hasMore := JsonObject.get pagination "hasMore"
          (JsonObject.get pagination "has_more" hasMore) }
  | _ => { nextCursor, hasMore }

/-- `has_more is True or next_cursor` -/
def Pagination.isOpen (pagination : Pagination) : Bool :=
  (match pagination.hasMore with
    | .bool hasMore => hasMore
    | _ => false) || truthy pagination.nextCursor

/-- Sanitized health payload plus durable completeness metadata. -/
structure HealthPollResult where
  payload : JsonObject
  complete : Bool
  truncated : Bool := false

/-- Bound a health response without treating omitted issues as absent. -/
def prepareHealthPoll (payload : JsonObject) (issueLimit : Int) : HealthPollResult :=
  match issueList payload with
  | none => { payload, complete := false }
  | some issues =>
      let isOpen := (paginationOf payload).isOpen
      let isLong : Bool := issueLimit < issues.length
      { payload :=
          if isLong then
            setItem payload "issues" (.array (issues.take (max 1 issueLimit).toNat))
          else payload
        complete := !isOpen && !isLong
        truncated := isLong || isOpen }

/-! ## Findings -/

inductive IssueKind
  | fxSync
  | missingPurchasePrice
  | negativeValuation
  | incompleteValuation
  | quoteSyncFailure
  | transactionOrTransferIssue
  | historicalPriceGap
  | unsupportedIssue
deriving DecidableEq

def IssueKind.name : IssueKind → String
  | fxSync => "wealthfolio_fx_sync"
  | missingPurchasePrice => "wealthfolio_missing_purchase_price"
  | negativeValuation => "wealthfolio_negative_valuation"
  | incompleteValuation => "wealthfolio_incomplete_valuation"
  | quoteSyncFailure => "wealthfolio_quote_sync_failure"
  | transactionOrTransferIssue => "wealthfolio_transaction_or_transfer_issue"
  | historicalPriceGap => "wealthfolio_historical_price_gap"
  | unsupportedIssue => "wealthfolio_unsupported_issue"

/-- The text that tells the kind of an issue. -/
def issueText (issue : JsonObject) : String :=
  let fixAction := issue.get "fixAction" (issue.get "fix_action" .null)
  let fixActionId := match fixAction with
    | .object fields => JsonObject.get fields "id" (.string "")
    | _ => fixAction
  let raw := " ".intercalate
    (["code", "category", "type", "title", "description", "details"].map fun key =>
      lower (boundedText maxContextText (issue.get key .null)))
  raw ++ " " ++ lower (boundedText maxContextText fixActionId)

def issueKind (issue : JsonObject) : IssueKind :=
  let raw := issueText issue
  if ["fx", "exchange rate", "exchange_rate"].any (mentions raw) then .fxSync
  -- unsafe financial findings win over generic wording about prices
  else if ["purchase", "cost_basis", "cost basis"].any (mentions raw) then .missingPurchasePrice
  else if mentions raw "negative" && mentions raw "valuation" then .negativeValuation
  else if mentions raw "incomplete" && mentions raw "valuation" then .incompleteValuation
  else if ["sync_prices", "quote_sync"].any (mentions raw) then .quoteSyncFailure
  else if ["transaction", "transfer"].any (mentions raw) then .transactionOrTransferIssue
  else if ["quote", "price", "market_data"].any (mentions raw) then
    if ["histor", "gap", "missing_price"].any (mentions raw) then .historicalPriceGap
    else .quoteSyncFailure
  else .unsupportedIssue

/-- `issue_type.startswith("wealthfolio_")` -/
def isHealthType (issueType : String) : Bool :=
  "wealthfolio_".toList.isPrefixOf issueType.toList

/-- `_strategy` -/
def IssueKind.strategy : IssueKind → String
  | quoteSyncFailure => "wealthfolio_quote"
  | historicalPriceGap => "wealthfolio_price_history"
  | incompleteValuation => "wealthfolio_price_history"
  | fxSync => "wealthfolio_fx"
  | missingPurchasePrice => "wealthfolio_cost_basis"
  | _ => "unsupported"

def severityOf (issue : JsonObject) : String :=
  let severity := lower (boundedText 16 (issue.get "severity" .null))
  if severity ∈ ["info", "warning", "error"] then severity else "warning"

/-- The affected items of an issue, or the one thing that stands for them. -/
def affectedItems (issue : JsonObject) : List Json :=
  match issue.get "affectedItems" (issue.get "affected_items" (.array [])) with
  | .array (item :: items) => item :: items
  | _ =>
      [orElse (issue.get "assetId" .null)
        (orElse (issue.get "securityId" .null) (.string "summary"))]

/-- What an item names: an object by the first of its identifiers, anything else by
its text. -/
def entityIdOf (item : Json) : String :=
  let named := match item with
    | .object data =>
        let get (key : String) : Json := JsonObject.get data key .null
        orElse (get "id") (orElse (get "assetId") (orElse (get "asset_id") (get "symbol")))
    | _ => item
  let entityId := boundedText maxContextText named
  if entityId = "" then "summary" else entityId

def entityTypeOf (item : Json) : String :=
  let named := match item with
    | .object data => orElse (JsonObject.get data "type" .null) (.string "wealthfolio_asset")
    | _ => .string "wealthfolio_asset"
  boundedText 64 named

/-- Whose health is polled, and when. -/
structure Polled where
  tenantId : String
  targetId : String
  now : Instant

namespace Polled

variable (polled : Polled)

/-- The finding of an issue about one of its affected items. -/
def finding (issue : JsonObject) (item : Json) : DetectedIssue where
  tenantId := polled.tenantId
  providerKey := "wealthfolio"
  issueType := (issueKind issue).name
  affectedEntityType := entityTypeOf item
  affectedEntityId := entityIdOf item
  severity := severityOf issue
  priority := if severityOf issue = "error" then 10 else 0
  remediationStrategy := (issueKind issue).strategy
  targetId := some polled.targetId
  scope := some polled.targetId
  detectedAt := polled.now

/-- The finding of a response whose issues are no list. -/
def malformedIssues : DetectedIssue where
  tenantId := polled.tenantId
  providerKey := "wealthfolio"
  issueType := IssueKind.unsupportedIssue.name
  affectedEntityType := "health_response"
  affectedEntityId := "malformed-issues"
  severity := "error"
  connectionId := some polled.targetId
  scope := some polled.targetId
  detectedAt := polled.now

/-- Convert tolerant Wealthfolio issue shapes into bounded findings. -/
def normalizeHealthIssues (payload : JsonObject) : List DetectedIssue :=
  match payload.get "issues" (.array []) with
  | .array rawIssues =>
      ((rawIssues.take maxAffectedItems).filterMap Json.asDict).flatMap fun raw =>
        ((affectedItems raw).take maxAffectedItems).map (polled.finding raw)
  | _ => [polled.malformedIssues]

/-- Every finding that the payload reports, whatever the bounds. -/
def reported (payload : JsonObject) : List DetectedIssue :=
  (((issueList payload).getD []).filterMap Json.asDict).flatMap fun raw =>
    (affectedItems raw).map (polled.finding raw)

end Polled

/-- An entry that is no object, or the issues or items beyond the bounds: something
of the payload does not become a finding. -/
def LeavesOut (payload : JsonObject) : Prop :=
  ∃ issues, issueList payload = some issues ∧
    (maxAffectedItems < issues.length ∨
      ∃ entry ∈ issues, ∀ raw, entry.asDict = some raw →
        maxAffectedItems < (affectedItems raw).length)

section Reading

variable {polled : Polled}

theorem get_issues_of_issueList {payload : JsonObject} {issues : List Json}
    (isList : issueList payload = some issues) :
    payload.get "issues" (.array []) = .array issues := by
  unfold issueList at isList
  unfold JsonObject.get at isList ⊢
  cases found : payload.lookup "issues" with
  | none => simp [found] at isList
  | some value =>
      rw [found, Option.getD_some] at isList
      cases value with
      | array items =>
          rw [Option.getD_some, Option.some.inj isList]
      | _ => contradiction

/-- What is read of a payload that leaves nothing out is all that it reports. -/
theorem normalizeHealthIssues_eq {payload : JsonObject} {issues : List Json}
    (isList : issueList payload = some issues) (whole : ¬ LeavesOut payload) :
    polled.normalizeHealthIssues payload = polled.reported payload := by
  unfold LeavesOut at whole
  push Not at whole
  obtain ⟨short, objects⟩ := whole issues isList
  simp only [Polled.normalizeHealthIssues, Polled.reported, get_issues_of_issueList isList,
    isList, Option.getD_some, List.take_of_length_le short]
  apply List.flatMap_congr
  intro raw isMem
  obtain ⟨entry, entryMem, isObject⟩ := List.mem_filterMap.mp isMem
  obtain ⟨_, isRaw, fits⟩ := objects entry entryMem
  rw [isObject, Option.some.injEq] at isRaw
  rw [List.take_of_length_le (isRaw ▸ fits)]

/-- Whatever is read is reported. -/
theorem mem_reported_of_mem_normalizeHealthIssues {payload : JsonObject} {issues : List Json}
    (isList : issueList payload = some issues) {finding : DetectedIssue}
    (isMem : finding ∈ polled.normalizeHealthIssues payload) :
    finding ∈ polled.reported payload := by
  simp only [Polled.normalizeHealthIssues, get_issues_of_issueList isList, List.mem_flatMap,
    List.mem_filterMap] at isMem
  simp only [Polled.reported, isList, Option.getD_some, List.mem_flatMap, List.mem_filterMap]
  obtain ⟨raw, ⟨entry, entryMem, isObject⟩, found⟩ := isMem
  refine ⟨raw, ⟨entry, List.mem_of_mem_take entryMem, isObject⟩, ?_⟩
  rw [List.map_take] at found
  exact List.mem_of_mem_take found

theorem isHealthType_ofList (rest : List Char) :
    isHealthType (String.ofList ('w' :: 'e' :: 'a' :: 'l' :: 't' :: 'h' :: 'f' :: 'o' :: 'l' ::
      'i' :: 'o' :: '_' :: rest)) := by
  simp [isHealthType]

theorem IssueKind.isHealthType_name (kind : IssueKind) : isHealthType kind.name := by
  cases kind <;> exact isHealthType_ofList _

theorem IssueKind.strategy_ne_coverageBoundary (kind : IssueKind) :
    kind.strategy ≠ "coverage_boundary" := by
  cases kind <;> decide

/-- Every finding is a Wealthfolio finding of the tenant. -/
theorem of_mem_normalizeHealthIssues {payload : JsonObject} {finding : DetectedIssue}
    (isMem : finding ∈ polled.normalizeHealthIssues payload) :
    finding.tenantId = polled.tenantId ∧ finding.providerKey = "wealthfolio" ∧
      isHealthType finding.issueType ∧
      finding.remediationStrategy ≠ "coverage_boundary" ∧ finding.detectedAt = polled.now := by
  unfold Polled.normalizeHealthIssues at isMem
  split at isMem
  · obtain ⟨raw, _, found⟩ := List.mem_flatMap.mp isMem
    obtain ⟨item, _, made⟩ := List.mem_map.mp found
    rw [← made, Polled.finding]
    dsimp only
    exact ⟨rfl, rfl, (issueKind raw).isHealthType_name,
      (issueKind raw).strategy_ne_coverageBoundary, rfl⟩
  · rw [List.mem_singleton.mp isMem]
    exact ⟨rfl, rfl, IssueKind.unsupportedIssue.isHealthType_name,
      IssueKind.unsupportedIssue.strategy_ne_coverageBoundary, rfl⟩

end Reading

end FinanceSync.Remediation
