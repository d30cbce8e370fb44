import FinanceSync.Data.Values
import FinanceSync.Lib.Run
import Mathlib.Logic.Function.Basic

/-!
# The remediation backlog

Detected data quality issues become rows of a backlog, one for each deduplication
key.  Workers claim due rows under a lease and write the outcome with their claim
token; operators requeue, ignore and patch rows.
-/

namespace FinanceSync.Remediation

open Lib

inductive RemediationStatus
  | pending
  | processing
  | deferred
  | retryWait
  | resolved
  | failed
  | ignored
  | manualReview
deriving DecidableEq, Repr

namespace RemediationStatus

/-- `ACTIVE_STATUSES`. -/
def isActive : RemediationStatus → Bool
  | pending | retryWait | deferred => true
  | _ => false

/-- `TERMINAL_STATUSES`. -/
def isTerminal : RemediationStatus → Bool
  | resolved | failed | ignored | manualReview => true
  | _ => false

end RemediationStatus

/-! ## Issues and their keys -/

structure DetectedIssue where
  tenantId : String
  providerKey : String
  issueType : String
  affectedEntityType : String
  affectedEntityId : String
  severity : String := "warning"
  priority : Int := 0
  remediationStrategy : String := "unsupported"
  connectionId : Option String := none
  targetId : Option String := none
  scope : Option String := none
  detectedAt : Instant
deriving DecidableEq

/-- `_stable(value).strip().lower()` on a text. -/
def normalize (text : String) : String :=
  String.ofList ((strip text.toList).map Char.toLower)

/-- `value or default` on an optional text. -/
def textOr (text : Option String) (default : String) : String :=
  match text with
  | none => default
  | some text => if text = "" then default else text

/-- The text that the key of an issue is made of. -/
def DetectedIssue.raw (issue : DetectedIssue) : String :=
  "|".intercalate
    ["dq:v1",
      "tenant=" ++ normalize issue.tenantId,
      "connection=" ++ textOr (issue.connectionId.map normalize) "-",
      "target=" ++ textOr (issue.targetId.map normalize) "-",
      "provider=" ++ normalize issue.providerKey,
      "type=" ++ normalize issue.issueType,
      "entity=" ++ normalize issue.affectedEntityType ++ ":" ++ issue.affectedEntityId,
      "scope=" ++ textOr issue.scope issue.affectedEntityId]

/-- A SHA-256 digest, given by what it is the digest of: two inputs are never
taken to have the same digest. -/
inductive Digest
  | issue (raw : String)
  /-- The digest of a key and the second at which its issue was seen again. -/
  | generation (key : Digest) (second : Int)
deriving DecidableEq

/-- The key of the issue that the digest was made for. -/
def Digest.origin : Digest → Digest
  | issue raw => issue raw
  | generation key _ => key.origin

def deduplicationKey (issue : DetectedIssue) : Digest := .issue issue.raw

/-- The columns of `uq_dq_remediation_tenant_dedup`. -/
structure Key where
  tenantId : String
  deduplicationKey : Digest
deriving DecidableEq

/-- The items are about one issue of one tenant. -/
def Key.SameIssue (first second : Key) : Prop :=
  first.tenantId = second.tenantId ∧
    first.deduplicationKey.origin = second.deduplicationKey.origin

theorem Key.SameIssue.symm {first second : Key} (same : first.SameIssue second) :
    second.SameIssue first :=
  ⟨same.1.symm, same.2.symm⟩

/-! ## Items -/

/-- A `uuid4` of a claim: the claim and the row it was drawn for. -/
structure ClaimToken where
  claim : Nat
  itemId : Uuid
deriving DecidableEq

/-- One deduplicated, at-least-once remediation task. -/
structure DataQualityRemediationItem where
  id : Uuid
  providerKey : String
  connectionId : Option String
  targetId : Option String
  issueType : String
  affectedEntityType : String
  affectedEntityId : String
  severity : String
  priority : Int
  status : RemediationStatus
  firstDetectedAt : Instant
  lastSeenAt : Instant
  nextAttemptAt : Instant
  attemptCount : Nat := 0
  rateLimitDeferralCount : Nat := 0
  remediationStrategy : String
  claimToken : Option ClaimToken := none
  claimedAt : Option Instant := none
  leaseExpiresAt : Option Instant := none
  lastError : Option String := none
  lastErrorCategory : Option String := none
  resolvedAt : Option Instant := none
  verifiedAt : Option Instant := none
deriving DecidableEq

/-- An issue that is only a note about the coverage of its provider. -/
def DetectedIssue.isCoverageBoundary (issue : DetectedIssue) : Bool :=
  issue.remediationStrategy = "coverage_boundary"

/-- The status that a registration writes. -/
def DetectedIssue.registeredStatus (issue : DetectedIssue) : RemediationStatus :=
  if issue.isCoverageBoundary then .ignored else .pending

/-- The values of the row that a registration inserts. -/
def DetectedIssue.values (issue : DetectedIssue) (id : Uuid) : DataQualityRemediationItem where
  id
  providerKey := normalize issue.providerKey
  connectionId := issue.connectionId
  targetId := issue.targetId
  issueType := issue.issueType
  affectedEntityType := issue.affectedEntityType
  affectedEntityId := issue.affectedEntityId
  severity := issue.severity
  priority := issue.priority
  status := issue.registeredStatus
  firstDetectedAt := issue.detectedAt
  lastSeenAt := issue.detectedAt
  nextAttemptAt := issue.detectedAt
  remediationStrategy := issue.remediationStrategy
  lastError :=
    if issue.isCoverageBoundary then
      some ("Provider coverage starts after the analysis window; " ++
        "no missing transaction is proven.")
    else none
  lastErrorCategory := if issue.isCoverageBoundary then some "coverage_boundary" else none
  resolvedAt := if issue.isCoverageBoundary then some issue.detectedAt else none

/-- The `ON CONFLICT DO UPDATE` of a registration. -/
def DataQualityRemediationItem.refresh (excluded item : DataQualityRemediationItem) :
    DataQualityRemediationItem :=
  { item with
    lastSeenAt := excluded.lastSeenAt
    severity := excluded.severity
    priority := excluded.priority
    remediationStrategy := excluded.remediationStrategy
    status := excluded.status
    lastError := excluded.lastError
    lastErrorCategory := excluded.lastErrorCategory
    resolvedAt := excluded.resolvedAt }

/-- The row may be claimed at the instant. -/
def DataQualityRemediationItem.due (now : Instant) (item : DataQualityRemediationItem) : Bool :=
  (item.status.isActive ||
    (item.status = .processing && item.leaseExpiresAt.any (· < now))) &&
    item.nextAttemptAt ≤ now

def DataQualityRemediationItem.claim (now : Instant) (leaseSeconds : Int) (claim : Nat)
    (item : DataQualityRemediationItem) : DataQualityRemediationItem :=
  { item with
    status := .processing
    claimToken := some ⟨claim, item.id⟩
    claimedAt := some now
    leaseExpiresAt := some (now + leaseSeconds * 1000000)
    attemptCount := item.attemptCount + 1 }

/-- What `transition` writes. -/
structure Transition where
  status : RemediationStatus
  error : Option String := none
  errorCategory : Option String := none
  nextAttemptAt : Option Instant := none
  incrementRateLimitDeferrals : Bool := false
  now : Instant

def DataQualityRemediationItem.transition (transition : Transition)
    (item : DataQualityRemediationItem) : DataQualityRemediationItem :=
  { item with
    status := transition.status
    lastError := transition.error
    lastErrorCategory := transition.errorCategory
    nextAttemptAt := transition.nextAttemptAt.getD transition.now
    leaseExpiresAt := none
    claimToken := none
    rateLimitDeferralCount :=
      item.rateLimitDeferralCount + transition.incrementRateLimitDeferrals.toNat
    resolvedAt :=
      if transition.status = .resolved then some transition.now else item.resolvedAt
    verifiedAt :=
      if transition.status = .resolved then some transition.now else item.verifiedAt }

/-! ## The backlog -/

/-- A registration between its `SELECT` and its `INSERT`. -/
structure Registration where
  issue : DetectedIssue
  deduplicationKey : Digest
deriving DecidableEq

def Registration.key (registration : Registration) : Key :=
  ⟨registration.issue.tenantId, registration.deduplicationKey⟩

structure Backlog where
  items : Key → Option DataQualityRemediationItem
  /-- The registrations under way. -/
  registrations : Nat → Option Registration
  nextId : Uuid
  claims : Nat

namespace Backlog

def start : Backlog where
  items := fun _ => none
  registrations := fun _ => none
  nextId := 0
  claims := 0

/-- An `UPDATE` of the rows that meet the condition. -/
def update (backlog : Backlog) (condition : Key → DataQualityRemediationItem → Bool)
    (edit : DataQualityRemediationItem → DataQualityRemediationItem) : Backlog :=
  { backlog with
    items := fun key =>
      (backlog.items key).map fun item => if condition key item then edit item else item }

def resolvedGrace : Int := 24 * 3600 * 1000000

/-- The key under which `register` writes the issue; none where it only records
that a resolved item was seen again. -/
def registrationKey (backlog : Backlog) (issue : DetectedIssue) : Option Digest :=
  let key := deduplicationKey issue
  match backlog.items ⟨issue.tenantId, key⟩ with
  | some existing =>
      if existing.status = .resolved then
        if existing.resolvedAt.any fun resolvedAt =>
            issue.detectedAt - resolvedAt ≤ resolvedGrace then
          none
        else
          -- a new generation, while the resolved item is kept as history
          some (.generation key (issue.detectedAt.fdiv 1000000))
      else some key
  | none => some key

/-- The read half of `register`, by a session. -/
def select (backlog : Backlog) (session : Nat) (issue : DetectedIssue) : Backlog :=
  match backlog.registrationKey issue with
  | some key =>
      { backlog with
        registrations :=
          Function.update backlog.registrations session (some ⟨issue, key⟩) }
  | none =>
      backlog.update (fun key _ => key = ⟨issue.tenantId, deduplicationKey issue⟩)
        fun item => { item with lastSeenAt := issue.detectedAt }

/-- The row after the write of a registration. -/
def registered (backlog : Backlog) (registration : Registration) : DataQualityRemediationItem :=
  let excluded := registration.issue.values backlog.nextId
  match backlog.items registration.key with
  | some item => excluded.refresh item
  | none => excluded

/-- The write half of `register`: insert, or update on a conflict. -/
def upsert (backlog : Backlog) (session : Nat) : Backlog :=
  match backlog.registrations session with
  | some registration =>
      { backlog with
        items :=
          Function.update backlog.items registration.key (some (backlog.registered registration))
        registrations := Function.update backlog.registrations session none
        nextId := backlog.nextId + 1 }
  | none => backlog

/-- The rows that a claim returns, of the candidates that its query, which skips
locked rows, and the order of their scores put before it. -/
def claimed (backlog : Backlog) (now : Instant) (limit : Int) (tenantId : Option String)
    (candidates : List Key) : List Key :=
  (candidates.filter fun key =>
    (backlog.items key).any (·.due now) && tenantId.all (key.tenantId = ·)).take
      (max 1 (min limit 200)).toNat

def claim (backlog : Backlog) (now : Instant) (limit leaseSeconds : Int)
    (tenantId : Option String) (candidates : List Key) : Backlog :=
  { backlog.update (fun key _ => key ∈ backlog.claimed now limit tenantId candidates)
      (·.claim now leaseSeconds backlog.claims) with
    claims := backlog.claims + 1 }

/-- The rows that an update by tenant and identifier is about. -/
def isRow (tenantId : String) (itemId : Uuid) (key : Key) (item : DataQualityRemediationItem) :
    Bool :=
  item.id = itemId && key.tenantId = tenantId

/-- The rows that `transition` updates. -/
def transitionRows (tenantId : String) (itemId : Uuid) (claimToken : Option ClaimToken)
    (allowedFrom : Option (List RemediationStatus)) (key : Key)
    (item : DataQualityRemediationItem) : Bool :=
  isRow tenantId itemId key item && allowedFrom.all (item.status ∈ ·) &&
    claimToken.all fun token => item.claimToken = some token

/-- Where a requeue is allowed from. -/
def requeueFrom : List RemediationStatus := [.failed, .manualReview, .deferred, .retryWait]

/-- Where an operator may ignore an item from. -/
def ignoreFrom : List RemediationStatus :=
  [.pending, .processing, .deferred, .retryWait, .failed, .manualReview]

/-- The rows that a bulk requeue updates. -/
def bulkRows (tenantId : String) (itemIds : List Uuid) (key : Key)
    (item : DataQualityRemediationItem) : Bool :=
  key.tenantId = tenantId && item.id ∈ itemIds.eraseDups.take 100 && item.status ∈ requeueFrom

/-! ## Steps -/

/-- How the executor ends its work on an item. -/
inductive Outcome
  | resolved
  | retryWait
  | deferred
  | failed
  | manualReview
deriving DecidableEq

def Outcome.status : Outcome → RemediationStatus
  | resolved => .resolved
  | retryWait => .retryWait
  | deferred => .deferred
  | failed => .failed
  | manualReview => .manualReview

/-- The statuses that the API lets an operator set. -/
inductive PatchStatus
  | pending
  | manualReview
  | ignored
deriving DecidableEq

def PatchStatus.status : PatchStatus → RemediationStatus
  | pending => .pending
  | manualReview => .manualReview
  | ignored => .ignored

/-- The details of an outcome. -/
structure Report where
  error : Option String := none
  errorCategory : Option String := none
  nextAttemptAt : Option Instant := none
  incrementRateLimitDeferrals : Bool := false
  now : Instant

inductive Step
  /-- A session starts to register an issue. -/
  | select (session : Nat) (issue : DetectedIssue)
  | upsert (session : Nat)
  | claim (now : Instant) (limit leaseSeconds : Int) (tenantId : Option String)
      (candidates : List Key)
  /-- The executor's transition with the token of its claim. -/
  | execute (tenantId : String) (itemId : Uuid) (claimToken : ClaimToken) (outcome : Outcome)
      (report : Report)
  | requeue (tenantId : String) (itemId : Uuid) (now : Instant)
  | bulkRequeue (tenantId : String) (itemIds : List Uuid) (now : Instant)
  | ignore (tenantId : String) (itemId : Uuid) (reason : String) (now : Instant)
  | patch (tenantId : String) (itemId : Uuid) (priority : Option Int)
      (status : Option PatchStatus)
  /-- Old resolved and ignored rows are deleted. -/
  | cleanupTerminal (old : List Key)

def step (backlog : Backlog) : Step → Backlog
  | .select session issue => backlog.select session issue
  | .upsert session => backlog.upsert session
  | .claim now limit leaseSeconds tenantId candidates =>
      backlog.claim now limit leaseSeconds tenantId candidates
  | .execute tenantId itemId claimToken outcome report =>
      backlog.update (transitionRows tenantId itemId (some claimToken) none)
        (·.transition
          { status := outcome.status
            error := report.error
            errorCategory := report.errorCategory
            nextAttemptAt := report.nextAttemptAt
            incrementRateLimitDeferrals := report.incrementRateLimitDeferrals
            now := report.now })
  | .requeue tenantId itemId now =>
      backlog.update (transitionRows tenantId itemId none (some requeueFrom))
        (·.transition { status := .pending, nextAttemptAt := some now, now })
  | .bulkRequeue tenantId itemIds now =>
      -- unlike `requeue`, this leaves the claim token and the lease in place
      backlog.update (bulkRows tenantId itemIds) fun item =>
        { item with
          status := .pending
          nextAttemptAt := now
          lastError := none
          lastErrorCategory := none }
  | .ignore tenantId itemId reason now =>
      backlog.update (transitionRows tenantId itemId none (some ignoreFrom))
        (·.transition
          { status := .ignored, error := some reason, errorCategory := some "operator", now })
  | .patch tenantId itemId priority status =>
      backlog.update (isRow tenantId itemId) fun item =>
        { item with
          priority := priority.getD item.priority
          status := (status.map PatchStatus.status).getD item.status }
  | .cleanupTerminal old =>
      { backlog with
        items := fun key =>
          (backlog.items key).filter fun item =>
            !((item.status = .resolved || item.status = .ignored) && key ∈ old) }

/-! ## What a step does to one row -/

variable {backlog : Backlog} {key : Key} {item : DataQualityRemediationItem}

@[simp] theorem update_items (condition : Key → DataQualityRemediationItem → Bool)
    (edit : DataQualityRemediationItem → DataQualityRemediationItem) (key : Key) :
    (backlog.update condition edit).items key =
      (backlog.items key).map fun item => if condition key item then edit item else item := rfl

/-- The row that an update hits. -/
theorem update_row {condition : Key → DataQualityRemediationItem → Bool}
    {edit : DataQualityRemediationItem → DataQualityRemediationItem}
    (row : backlog.items key = some item) (hit : condition key item) :
    (backlog.update condition edit).items key = some (edit item) := by
  simp [row, hit]

/-- An update that does not hit the row leaves it. -/
theorem update_missed {condition : Key → DataQualityRemediationItem → Bool}
    {edit : DataQualityRemediationItem → DataQualityRemediationItem}
    (missed : (backlog.items key).any (condition key) = false) :
    (backlog.update condition edit).items key = backlog.items key := by
  cases row : backlog.items key with
  | none => simp [row]
  | some item =>
      have notHit : condition key item = false := by simpa [row] using missed
      simp [row, notHit]

/-- A transition by identifier misses the rows that the identifier misses. -/
theorem transitionRows_missed {tenantId : String} {itemId : Uuid}
    {claimToken : Option ClaimToken} {allowedFrom : Option (List RemediationStatus)}
    (missed : (backlog.items key).any (isRow tenantId itemId key) = false) :
    (backlog.items key).any (transitionRows tenantId itemId claimToken allowedFrom key) =
      false := by
  cases row : backlog.items key with
  | none => rfl
  | some item =>
      have notRow : isRow tenantId itemId key item = false := by simpa [row] using missed
      simp [transitionRows, notRow]

@[simp] theorem claim_items (now : Instant) (limit leaseSeconds : Int)
    (tenantId : Option String) (candidates : List Key) (key : Key) :
    (backlog.claim now limit leaseSeconds tenantId candidates).items key =
      (backlog.items key).map fun item =>
        if key ∈ backlog.claimed now limit tenantId candidates then
          item.claim now leaseSeconds backlog.claims
        else item := by
  simp [claim]

/-- Only due rows are claimed. -/
theorem due_of_mem_claimed {now : Instant} {limit : Int} {tenantId : Option String}
    {candidates : List Key} (isMem : key ∈ backlog.claimed now limit tenantId candidates)
    (row : backlog.items key = some item) : item.due now := by
  have filtered := List.mem_of_mem_take isMem
  simp only [List.mem_filter, row, Option.any_some, Bool.and_eq_true] at filtered
  exact filtered.2.1

/-- A claim of one row that is due. -/
theorem mem_claimed_singleton {now : Instant} (limit : Int) (row : backlog.items key = some item)
    (due : item.due now) : key ∈ backlog.claimed now limit none [key] := by
  have room : [key].length ≤ (max 1 (min limit 200)).toNat := by
    rw [List.length_singleton]
    omega
  rw [claimed, List.filter_cons_of_pos (by simp [row, due]), List.filter_nil,
    List.take_of_length_le room]
  exact List.mem_singleton_self key

theorem due_of_isActive {now : Instant} (active : item.status.isActive)
    (next : item.nextAttemptAt ≤ now) : item.due now := by
  simp [DataQualityRemediationItem.due, active, next]

/-- The read half of a registration changes at most when rows were last seen. -/
theorem select_items (session : Nat) (issue : DetectedIssue) (key : Key) :
    ∃ seen : Instant → Instant, (backlog.select session issue).items key =
      (backlog.items key).map fun item => { item with lastSeenAt := seen item.lastSeenAt } := by
  simp only [select]
  split
  · exact ⟨id, by simp⟩
  · by_cases own : key = ⟨issue.tenantId, deduplicationKey issue⟩
    · exact ⟨fun _ => issue.detectedAt, by simp [own]⟩
    · exact ⟨id, by simp [own]⟩

theorem select_row (row : backlog.items key = some item) (session : Nat) (issue : DetectedIssue) :
    ∃ seen, (backlog.select session issue).items key = some { item with lastSeenAt := seen } := by
  rcases select_items session issue key with ⟨seen, rows⟩
  rw [row, Option.map_some] at rows
  exact ⟨seen item.lastSeenAt, rows⟩

/-- The row of a registration's key after its write. -/
theorem upsert_items_own {session : Nat} {registration : Registration}
    (underWay : backlog.registrations session = some registration) :
    (backlog.upsert session).items registration.key = some (backlog.registered registration) := by
  simp [upsert, underWay]

theorem upsert_items_other {session : Nat}
    (other : ∀ registration ∈ backlog.registrations session, registration.key ≠ key) :
    (backlog.upsert session).items key = backlog.items key := by
  simp only [upsert]
  split
  · next registration underWay =>
      have ne := (other registration underWay).symm
      simp [ne]
  · rfl

theorem registered_status (backlog : Backlog) (registration : Registration) :
    (backlog.registered registration).status = registration.issue.registeredStatus := by
  simp only [registered]
  split
  · rfl
  · rfl

/-- A registration that finds a row leaves the instant of its next attempt. -/
theorem registered_nextAttemptAt {registration : Registration}
    (row : backlog.items registration.key = some item) :
    (backlog.registered registration).nextAttemptAt = item.nextAttemptAt := by
  rw [registered, row]
  rfl

/-- A registration that finds a row leaves the claim on it. -/
theorem registered_claimToken {registration : Registration}
    (row : backlog.items registration.key = some item) :
    (backlog.registered registration).claimToken = item.claimToken := by
  rw [registered, row]
  rfl

/-- The key of an issue whose row is not resolved. -/
theorem registrationKey_of_row (issue : DetectedIssue)
    (isKey : ⟨issue.tenantId, deduplicationKey issue⟩ = key) (row : backlog.items key = some item)
    (notResolved : item.status ≠ .resolved) :
    backlog.registrationKey issue = some (deduplicationKey issue) := by
  simp [registrationKey, isKey, row, notResolved]

/-- `register` by one session, with nothing in between. -/
def register (issue : DetectedIssue) : List Step := [.select 0 issue, .upsert 0]

theorem items_register {issue : DetectedIssue} {digest : Digest}
    (isDigest : backlog.registrationKey issue = some digest) :
    (runAll step backlog (register issue)).items =
      Function.update backlog.items ⟨issue.tenantId, digest⟩
        (some (backlog.registered ⟨issue, digest⟩)) := by
  simp [register, step, select, isDigest, upsert, registered, Registration.key]

theorem row_register (issue : DetectedIssue)
    (isKey : ⟨issue.tenantId, deduplicationKey issue⟩ = key) (row : backlog.items key = some item)
    (notResolved : item.status ≠ .resolved) :
    (runAll step backlog (register issue)).items key =
      some ((issue.values backlog.nextId).refresh item) := by
  rw [items_register (registrationKey_of_row issue isKey row notResolved), isKey,
    Function.update_self]
  simp [registered, Registration.key, isKey, row]

/-- A finding of the reconciliation, seen at the second. -/
def missingSeen (second : Int) : DetectedIssue where
  tenantId := "tenant"
  providerKey := "bunq"
  issueType := "missing_transaction"
  affectedEntityType := "account"
  affectedEntityId := "1"
  detectedAt := second * 1000000

def missingKey : Key := ⟨"tenant", deduplicationKey (missingSeen 0)⟩

theorem key_missingSeen (second : Int) :
    ⟨(missingSeen second).tenantId, deduplicationKey (missingSeen second)⟩ = missingKey := rfl

theorem missing_registered :
    (runAll step start (register (missingSeen 0))).items missingKey =
      some ((missingSeen 0).values 0) := by
  have isDigest : start.registrationKey (missingSeen 0) = some missingKey.deduplicationKey := rfl
  rw [items_register isDigest]
  exact Function.update_self ..

theorem missing_claimed :
    missingKey ∈ (runAll step start (register (missingSeen 0))).claimed 0 20 none [missingKey] ∧
      (step (runAll step start (register (missingSeen 0)))
          (.claim 0 20 300 none [missingKey])).items missingKey =
        some (((missingSeen 0).values 0).claim 0 300 0) := by
  have claims : missingKey ∈ (runAll step start (register (missingSeen 0))).claimed 0 20 none
      [missingKey] := mem_claimed_singleton 20 missing_registered (by decide)
  refine ⟨claims, ?_⟩
  rw [step, claim_items, missing_registered, Option.map_some, if_pos claims]
  rfl

end Backlog

end FinanceSync.Remediation
