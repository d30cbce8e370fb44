import FinanceSync.Remediation.HealthFindings

/-!
# Health polls

A poll registers what it reads of the payload and, if it takes the payload for
complete, resolves the open items of the target that are not among that.
-/

namespace FinanceSync.Remediation

open Lib

/-! ## The bridge -/

/-- The backlog, and the target that the context of each row names. -/
structure HealthWorld where
  backlog : Backlog := .start
  contextTargets : Key → Option String := fun _ => none

/-- A health response with what the poll is given beside it: whether the worker has
verified the contract of the target, and for which findings a canonical security is
found. -/
structure HealthPoll where
  polled : Polled
  session : Nat := 0
  payload : JsonObject
  issueLimit : Int := 100
  compatibilityVerified : Bool := true
  canonical : DetectedIssue → Bool := fun _ => true

namespace HealthPoll

variable (poll : HealthPoll)

def prepared : HealthPollResult := prepareHealthPoll poll.payload poll.issueLimit

/-- The strategy that a finding is registered with. -/
def strategyOf (finding : DetectedIssue) : String :=
  let quotes := ["wealthfolio_quote", "wealthfolio_price_history"]
  let strategy :=
    if finding.remediationStrategy ∈ "wealthfolio_cost_basis" :: quotes &&
        !poll.canonical finding then "unsupported"
    else finding.remediationStrategy
  if strategy ∈ quotes && !poll.compatibilityVerified then "unsupported" else strategy

/-- The findings of the prepared payload, as they are registered. -/
def findings : List DetectedIssue :=
  (poll.polled.normalizeHealthIssues poll.prepared.payload).map fun finding =>
    { finding with remediationStrategy := poll.strategyOf finding }

def currentKeys : List Digest := poll.findings.map deduplicationKey

/-- The poll counts as a complete view of the target. -/
def isComplete : Bool :=
  poll.prepared.complete && (issueList poll.prepared.payload).isSome && !poll.prepared.truncated

end HealthPoll

namespace HealthWorld

/-- `BacklogRepository.register`, in one go.  The context names the target also where
the row of a resolved item is only seen again. -/
def register (session : Nat) (targetId : String) (world : HealthWorld) (issue : DetectedIssue) :
    HealthWorld :=
  let key := (world.backlog.registrationKey issue).getD (deduplicationKey issue)
  { backlog :=
      if (world.backlog.registrationKey issue).isSome then
        (world.backlog.select session issue).upsert session
      else world.backlog.select session issue
    contextTargets :=
      Function.update world.contextTargets ⟨issue.tenantId, key⟩ (some targetId) }

/-- The findings of a poll are registered. -/
def registered (world : HealthWorld) (poll : HealthPoll) : HealthWorld :=
  poll.findings.foldl (register poll.session poll.polled.targetId) world

/-- A row of the provider's health findings. -/
def isHealthRow (item : DataQualityRemediationItem) : Bool :=
  item.providerKey = "wealthfolio" && isHealthType item.issueType

/-- The rows that the bridge resolves when their key is not current. -/
def isCandidate (world : HealthWorld) (polled : Polled) (key : Key)
    (item : DataQualityRemediationItem) : Bool :=
  key.tenantId = polled.tenantId && isHealthRow item && item.status.isActive &&
    world.contextTargets key = some polled.targetId

/-- `enqueue_success` for the prepared payload.  The rows it reads are resolved one by
one, each by its own identifier. -/
def enqueueSuccess (world : HealthWorld) (poll : HealthPoll) : HealthWorld :=
  let registered := world.registered poll
  { registered with
    backlog := registered.backlog.update
      (fun key item => poll.isComplete && registered.isCandidate poll.polled key item &&
        key.deduplicationKey ∉ poll.currentKeys)
      (·.transition { status := .resolved, now := poll.polled.now }) }

/-- The poll moves the item from an open status to resolved. -/
def Moves (world : HealthWorld) (poll : HealthPoll) (key : Key) : Prop :=
  ∃ item resolved, (world.registered poll).backlog.items key = some item ∧
    item.status.isActive ∧ (world.enqueueSuccess poll).backlog.items key = some resolved ∧
    resolved.status = .resolved

/-- The key is the key of an open item of the target. -/
def IsOpen (world : HealthWorld) (polled : Polled) (key : Key) : Prop :=
  ∃ item, world.backlog.items key = some item ∧ world.isCandidate polled key item

theorem moves_iff {world : HealthWorld} {poll : HealthPoll} {key : Key} :
    world.Moves poll key ↔
      poll.isComplete ∧ (world.registered poll).IsOpen poll.polled key ∧
        key.deduplicationKey ∉ poll.currentKeys := by
  simp only [Moves, enqueueSuccess, Backlog.update_items, IsOpen]
  constructor
  · intro ⟨item, resolved, row, active, isResolved, status⟩
    rw [row, Option.map_some, Option.some.injEq] at isResolved
    split at isResolved
    · rename_i hit
      simp only [Bool.and_eq_true, decide_eq_true_eq] at hit
      exact ⟨hit.1.1, ⟨item, row, hit.1.2⟩, hit.2⟩
    · rw [isResolved, status] at active
      contradiction
  · intro ⟨complete, ⟨item, row, candidate⟩, absent⟩
    refine ⟨item, _, row, ?_, by rw [row, Option.map_some], ?_⟩
    · simp only [isCandidate, Bool.and_eq_true] at candidate
      exact candidate.1.2
    · simp [complete, candidate, absent, DataQualityRemediationItem.transition]

end HealthWorld

/-! ## The keys of registrations -/

namespace Backlog

variable {backlog other : Backlog} {issue : DetectedIssue}

/-- An issue is registered under its own key, or under a generation of it. -/
theorem digest_of_registrationKey {digest : Digest}
    (registered : backlog.registrationKey issue = some digest) :
    digest = deduplicationKey issue ∨
      ∃ second, digest = .generation (deduplicationKey issue) second := by
  unfold registrationKey at registered
  dsimp only at registered
  split at registered
  · split at registered
    · split at registered
      · contradiction
      · exact Or.inr ⟨_, (Option.some.inj registered).symm⟩
    · exact Or.inl (Option.some.inj registered).symm
  · exact Or.inl (Option.some.inj registered).symm

/-- The own key is written as long as its row is not resolved. -/
theorem registrationKey_eq_own_iff :
    backlog.registrationKey issue = some (deduplicationKey issue) ↔
      ∀ item, backlog.items ⟨issue.tenantId, deduplicationKey issue⟩ = some item →
        item.status ≠ .resolved := by
  unfold registrationKey
  dsimp only
  cases row : backlog.items ⟨issue.tenantId, deduplicationKey issue⟩ with
  | none => simp
  | some item =>
      simp only [Option.some.injEq, forall_eq']
      by_cases isResolved : item.status = .resolved
      · simp only [isResolved, if_true, ne_eq, not_true_eq_false, iff_false]
        split
        · simp
        · simp [deduplicationKey]
      · simp [isResolved]

/-- Where a registration writes depends on the status of the issue's row alone, and on
when it was resolved. -/
theorem registrationKey_congr
    (same : (backlog.items ⟨issue.tenantId, deduplicationKey issue⟩).map
        (fun item => (item.status, item.resolvedAt)) =
      (other.items ⟨issue.tenantId, deduplicationKey issue⟩).map
        fun item => (item.status, item.resolvedAt)) :
    backlog.registrationKey issue = other.registrationKey issue := by
  unfold registrationKey
  dsimp only
  cases row : backlog.items ⟨issue.tenantId, deduplicationKey issue⟩ with
  | none =>
      cases otherRow : other.items ⟨issue.tenantId, deduplicationKey issue⟩ with
      | none => rfl
      | some otherItem => simp [row, otherRow] at same
  | some item =>
      cases otherRow : other.items ⟨issue.tenantId, deduplicationKey issue⟩ with
      | none => simp [row, otherRow] at same
      | some otherItem =>
          simp only [row, otherRow, Option.map_some, Option.some.injEq, Prod.mk.injEq] at same
          simp only [same.1, same.2]

end Backlog

/-! ## One registration -/

namespace HealthWorld

/-- A finding that the bridge registers. -/
structure IsFinding (polled : Polled) (issue : DetectedIssue) : Prop where
  tenant : issue.tenantId = polled.tenantId
  provider : issue.providerKey = "wealthfolio"
  healthType : isHealthType issue.issueType
  strategy : issue.remediationStrategy ≠ "coverage_boundary"

/-- The registration of the issue writes the row of the key. -/
def Writes (world : HealthWorld) (issue : DetectedIssue) (key : Key) : Prop :=
  key.tenantId = issue.tenantId ∧
    world.backlog.registrationKey issue = some key.deduplicationKey

section Register

variable {world : HealthWorld} {polled : Polled} (session : Nat) {issue : DetectedIssue}
  {key : Key}

/-- What a registration leaves of a row that it does not write. -/
def standing (item : DataQualityRemediationItem) :
    RemediationStatus × Option Instant × String × String :=
  (item.status, item.resolvedAt, item.providerKey, item.issueType)

theorem standing_select (backlog : Backlog) :
    ((backlog.select session issue).items key).map standing =
      (backlog.items key).map standing := by
  obtain ⟨seen, rows⟩ := backlog.select_items session issue key
  rw [rows, Option.map_map]
  rfl

theorem standing_register (unwritten : ¬ world.Writes issue key) :
    ((world.register session polled.targetId issue).backlog.items key).map standing =
      (world.backlog.items key).map standing := by
  unfold register
  dsimp only
  cases registered : world.backlog.registrationKey issue with
  | none =>
      rw [if_neg (by simp)]
      exact standing_select session _
  | some digest =>
      rw [if_pos (by simp)]
      have underWay : (world.backlog.select session issue).registrations session =
          some ⟨issue, digest⟩ := by
        simp [Backlog.select, registered]
      have otherKey : ∀ registration ∈
          (world.backlog.select session issue).registrations session,
          registration.key ≠ key := by
        intro registration isUnderWay same
        rw [underWay, Option.mem_some_iff] at isUnderWay
        subst isUnderWay same
        exact unwritten ⟨rfl, registered⟩
      rw [Backlog.upsert_items_other otherKey]
      exact standing_select session _

/-- The row that a registration writes is pending, and a health row unless the row was
there and was none. -/
theorem written_register (isFinding : IsFinding polled issue)
    (written : world.Writes issue key) :
    ∃ item, (world.register session polled.targetId issue).backlog.items key = some item ∧
      item.status = .pending ∧
      isHealthRow item = (world.backlog.items key).all isHealthRow := by
  obtain ⟨sameTenant, registered⟩ := written
  have isKey : Registration.key ⟨issue, key.deduplicationKey⟩ = key := by
    rw [Registration.key, ← sameTenant]
  have underWay : (world.backlog.select session issue).registrations session =
      some ⟨issue, key.deduplicationKey⟩ := by
    simp [Backlog.select, registered]
  have row := Backlog.upsert_items_own underWay
  rw [isKey] at row
  refine ⟨(world.backlog.select session issue).registered ⟨issue, key.deduplicationKey⟩,
    ?_, ?_, ?_⟩
  · unfold register
    dsimp only
    rw [if_pos (by simp [registered]), row]
  · rw [Backlog.registered_status, DetectedIssue.registeredStatus, if_neg]
    simpa [DetectedIssue.isCoverageBoundary] using isFinding.strategy
  · have unchanged : (world.backlog.select session issue).items key =
        world.backlog.items key := by
      simp [Backlog.select, registered]
    unfold Backlog.registered
    dsimp only
    rw [isKey, unchanged]
    cases world.backlog.items key with
    | some item => rfl
    | none =>
        simp only [isHealthRow, DetectedIssue.values, isFinding.provider, isFinding.healthType,
          Option.all_none, Bool.and_true, decide_eq_true_eq]
        decide

/-- An open row, as far as its standing tells. -/
def isOpenStanding (standing : RemediationStatus × Option Instant × String × String) : Bool :=
  standing.2.2.1 = "wealthfolio" && isHealthType standing.2.2.2 && standing.1.isActive

theorem isOpen_iff : world.IsOpen polled key ↔
    key.tenantId = polled.tenantId ∧
      (((world.backlog.items key).map standing).any isOpenStanding ∧
        world.contextTargets key = some polled.targetId) := by
  simp only [IsOpen, isCandidate, isHealthRow, Bool.and_eq_true, decide_eq_true_eq]
  cases world.backlog.items key with
  | none => simp
  | some item =>
      simp only [Option.some.injEq, exists_eq_left', Option.map_some, Option.any_some,
        isOpenStanding, standing, Bool.and_eq_true, decide_eq_true_eq]
      tauto

/-- A row that a registration does not write is open if it was. -/
theorem isOpen_register_iff (unwritten : ¬ world.Writes issue key) :
    (world.register session polled.targetId issue).IsOpen polled key ↔
      world.IsOpen polled key := by
  rw [isOpen_iff, isOpen_iff, standing_register session unwritten]
  apply and_congr_right'
  apply and_congr_right
  intro isOpen
  have otherKey : key ≠ ⟨issue.tenantId,
      (world.backlog.registrationKey issue).getD (deduplicationKey issue)⟩ := by
    intro same
    cases registered : world.backlog.registrationKey issue with
    | some digest =>
        rw [registered, Option.getD_some] at same
        exact unwritten ⟨congrArg Key.tenantId same, by rw [registered, same]⟩
    | none =>
        -- the row of the issue is resolved
        rw [registered, Option.getD_none] at same
        have notOwn : world.backlog.registrationKey issue ≠
            some (deduplicationKey issue) := by simp [registered]
        rw [Ne, Backlog.registrationKey_eq_own_iff] at notOwn
        push Not at notOwn
        obtain ⟨item, row, resolved⟩ := notOwn
        rw [same, row] at isOpen
        simp [isOpenStanding, standing, resolved, RemediationStatus.isActive] at isOpen
  simp only [register, Function.update_of_ne otherKey]

theorem isOpen_written (isFinding : IsFinding polled issue)
    (written : world.Writes issue key) :
    (world.register session polled.targetId issue).IsOpen polled key ↔
      (world.backlog.items key).all isHealthRow = true := by
  obtain ⟨item, row, status, health⟩ :=
    written_register session isFinding written
  have context : (world.register session polled.targetId issue).contextTargets key =
      some polled.targetId := by
    have isKey : (⟨issue.tenantId,
        (world.backlog.registrationKey issue).getD (deduplicationKey issue)⟩ : Key) = key := by
      rw [written.2, Option.getD_some, ← written.1]
    simp only [register, isKey, Function.update_self]
  simp [IsOpen, row, isCandidate, context, status, RemediationStatus.isActive,
    written.1.trans isFinding.tenant, health]

/-- A registration keeps the health rows. -/
theorem all_isHealthRow_register (isFinding : IsFinding polled issue) :
    ((world.register session polled.targetId issue).backlog.items key).all isHealthRow =
      (world.backlog.items key).all isHealthRow := by
  by_cases written : world.Writes issue key
  · obtain ⟨item, row, _, health⟩ :=
      written_register session isFinding written
    rw [row, Option.all_some, health]
  · have same : ((world.register session polled.targetId issue).backlog.items key).map standing =
        (world.backlog.items key).map standing := standing_register session written
    have sameHealth := congrArg (Option.all fun standing =>
      decide (standing.2.2.1 = "wealthfolio") && isHealthType standing.2.2.2) same
    rwa [Option.all_map, Option.all_map] at sameHealth

/-- A registration does not change where another one writes. -/
theorem registrationKey_register (isFinding : IsFinding polled issue) (next : DetectedIssue) :
    (world.register session polled.targetId issue).backlog.registrationKey next =
      world.backlog.registrationKey next := by
  by_cases written : world.Writes issue ⟨next.tenantId, deduplicationKey next⟩
  · obtain ⟨sameTenant, registered⟩ := written
    have sameIssue : deduplicationKey issue = deduplicationKey next := by
      cases Backlog.digest_of_registrationKey registered with
      | inl own => exact own.symm
      | inr generation =>
          obtain ⟨_, isGeneration⟩ := generation
          simp [deduplicationKey] at isGeneration
    have notResolved : world.backlog.registrationKey next = some (deduplicationKey next) := by
      rw [Backlog.registrationKey_eq_own_iff]
      intro item row
      rw [← sameIssue] at registered row
      dsimp only at sameTenant
      rw [sameTenant] at row
      exact Backlog.registrationKey_eq_own_iff.mp registered item row
    rw [notResolved, Backlog.registrationKey_eq_own_iff]
    obtain ⟨item, row, status, _⟩ :=
      written_register session isFinding ⟨sameTenant, registered⟩
    intro found isRow
    rw [row, Option.some.injEq] at isRow
    rw [← isRow, status]
    decide
  · apply Backlog.registrationKey_congr
    have same : ((world.register session polled.targetId issue).backlog.items
        ⟨next.tenantId, deduplicationKey next⟩).map standing =
        (world.backlog.items ⟨next.tenantId, deduplicationKey next⟩).map standing :=
      standing_register session written
    have sameStatus := congrArg (Option.map fun standing => (standing.1, standing.2.1)) same
    rwa [Option.map_map, Option.map_map] at sameStatus

theorem writes_register (isFinding : IsFinding polled issue) (next : DetectedIssue) :
    (world.register session polled.targetId issue).Writes next key ↔ world.Writes next key := by
  rw [Writes, Writes, registrationKey_register session isFinding]

end Register

/-! ## All registrations of a poll -/

/-- After the registrations a row is open if it was, and where one was written unless a
row of something else was there. -/
theorem isOpen_foldl_register {polled : Polled} (session : Nat) {key : Key}
    (findings : List DetectedIssue) :
    ∀ world : HealthWorld, (∀ finding ∈ findings, IsFinding polled finding) →
      ((findings.foldl (register session polled.targetId) world).IsOpen polled key ↔
        ((∃ finding ∈ findings, world.Writes finding key) ∧
            (world.backlog.items key).all isHealthRow = true) ∨
          ((∀ finding ∈ findings, ¬ world.Writes finding key) ∧ world.IsOpen polled key)) := by
  induction findings with
  | nil => intro world _; simp
  | cons first rest ih =>
      intro world areFindings
      have isFirst := areFindings first List.mem_cons_self
      rw [List.foldl_cons, ih _ fun finding isMem =>
        areFindings finding (List.mem_cons_of_mem first isMem)]
      simp only [writes_register session isFirst, all_isHealthRow_register session isFirst,
        List.exists_mem_cons_iff, List.forall_mem_cons]
      by_cases written : world.Writes first key
      · rw [isOpen_written session isFirst written]
        by_cases later : ∃ finding ∈ rest, world.Writes finding key
        · simp [written, later]
        · push Not at later
          have nowhere : ¬ ∃ finding ∈ rest, world.Writes finding key := by
            simpa using later
          simpa [written, nowhere] using fun _ => later
      · rw [isOpen_register_iff session written]
        simp [written]

end HealthWorld

/-! ## What is resolved -/

namespace HealthPoll

variable {poll : HealthPoll}

theorem isFinding_of_mem {finding : DetectedIssue} (isMem : finding ∈ poll.findings) :
    HealthWorld.IsFinding poll.polled finding := by
  obtain ⟨read, isRead, registered⟩ := List.mem_map.mp isMem
  obtain ⟨tenant, provider, healthType, strategy, _⟩ := of_mem_normalizeHealthIssues isRead
  subst registered
  refine ⟨tenant, provider, healthType, ?_⟩
  simp only [strategyOf]
  split_ifs
  · decide
  · decide
  · decide
  · exact strategy

/-- The keys that the poll takes for current. -/
theorem mem_currentKeys {digest : Digest} : digest ∈ poll.currentKeys ↔
    ∃ finding ∈ poll.polled.normalizeHealthIssues poll.prepared.payload,
      deduplicationKey finding = digest := by
  simp only [currentKeys, findings, List.map_map, List.mem_map]
  rfl

/-- A payload that counts as complete is read as it is. -/
theorem payload_of_isComplete (complete : poll.isComplete) :
    poll.prepared.payload = poll.payload ∧ ∃ issues, issueList poll.payload = some issues := by
  unfold isComplete prepared prepareHealthPoll at complete
  unfold prepared prepareHealthPoll
  cases isList : issueList poll.payload with
  | none => simp [isList] at complete
  | some issues =>
      simp only [isList, Bool.and_eq_true, Bool.not_eq_true'] at complete
      simp [complete.1.1.2]

/-- The keys that an entry of the payload maps to. -/
def Reports (poll : HealthPoll) (digest : Digest) : Prop :=
  ∃ finding ∈ poll.polled.reported poll.payload, deduplicationKey finding = digest

theorem reports_of_mem_currentKeys (complete : poll.isComplete) {digest : Digest}
    (current : digest ∈ poll.currentKeys) : poll.Reports digest := by
  obtain ⟨finding, isMem, isKey⟩ := mem_currentKeys.mp current
  obtain ⟨same, issues, isList⟩ := payload_of_isComplete complete
  rw [same] at isMem
  exact ⟨finding, mem_reported_of_mem_normalizeHealthIssues isList isMem, isKey⟩

theorem mem_currentKeys_of_reports (complete : poll.isComplete)
    (whole : ¬ LeavesOut poll.payload) {digest : Digest} (reports : poll.Reports digest) :
    digest ∈ poll.currentKeys := by
  obtain ⟨same, issues, isList⟩ := payload_of_isComplete complete
  rw [mem_currentKeys, same, normalizeHealthIssues_eq isList whole]
  exact reports

end HealthPoll

namespace HealthWorld

/-- What a poll resolves is really gone: no entry of the payload is about the item, and
no entry has been left out. -/
def ResolvesGone (world : HealthWorld) (poll : HealthPoll) : Prop :=
  ∀ key, world.Moves poll key →
    ¬ poll.Reports key.deduplicationKey.origin ∧ ¬ LeavesOut poll.payload

/-- A finding comes back after its item has been resolved for longer than the grace, and
is registered as a new generation. -/
def Returns (world : HealthWorld) (finding : DetectedIssue) : Prop :=
  ∃ digest, world.backlog.registrationKey finding = some digest ∧
    digest ≠ deduplicationKey finding ∧
    (world.backlog.items ⟨finding.tenantId, digest⟩).all isHealthRow

/-- The open items of the target that are in the way of a poll that counts as complete. -/
structure Accounted (world : HealthWorld) (poll : HealthPoll) : Prop where
  noneReturns : ∀ finding ∈ poll.findings, ¬ world.Returns finding
  ownKeys : ∀ key, world.IsOpen poll.polled key →
    poll.Reports key.deduplicationKey.origin →
      key.deduplicationKey.origin = key.deduplicationKey
  allCurrent : LeavesOut poll.payload → ∀ key, world.IsOpen poll.polled key →
    key.deduplicationKey ∈ poll.currentKeys

section Resolve

variable {world : HealthWorld} {poll : HealthPoll}

theorem isOpen_registered_iff {key : Key} : (world.registered poll).IsOpen poll.polled key ↔
    ((∃ finding ∈ poll.findings, world.Writes finding key) ∧
        (world.backlog.items key).all isHealthRow = true) ∨
      ((∀ finding ∈ poll.findings, ¬ world.Writes finding key) ∧
        world.IsOpen poll.polled key) :=
  isOpen_foldl_register poll.session poll.findings world
    fun _ isMem => HealthPoll.isFinding_of_mem isMem

/-- What was open is open after the registrations. -/
theorem isOpen_registered {key : Key} (isOpen : world.IsOpen poll.polled key) :
    (world.registered poll).IsOpen poll.polled key := by
  rw [isOpen_registered_iff]
  by_cases written : ∃ finding ∈ poll.findings, world.Writes finding key
  · left
    refine ⟨written, ?_⟩
    obtain ⟨item, row, candidate⟩ := isOpen
    simp only [isCandidate, Bool.and_eq_true] at candidate
    rw [row, Option.all_some, candidate.1.1.2]
  · right
    exact ⟨by simpa using written, isOpen⟩

/-- The keys of findings are no generations. -/
theorem origin_of_mem_currentKeys {digest : Digest} (current : digest ∈ poll.currentKeys) :
    digest.origin = digest := by
  obtain ⟨finding, _, isKey⟩ := HealthPoll.mem_currentKeys.mp current
  rw [← isKey]
  rfl

/-- A poll resolves only what is gone exactly if it does not count as complete, or the
open items are accounted for. -/
theorem resolvesGone_iff :
    world.ResolvesGone poll ↔ (poll.isComplete → world.Accounted poll) := by
  constructor
  · intro gone complete
    have current_of_open : ∀ key, world.IsOpen poll.polled key →
        poll.Reports key.deduplicationKey.origin ∨ LeavesOut poll.payload →
          key.deduplicationKey ∈ poll.currentKeys := by
      intro key isOpen still
      by_contra absent
      have isGone := gone key (moves_iff.mpr ⟨complete, isOpen_registered isOpen, absent⟩)
      cases still with
      | inl reports => exact isGone.1 reports
      | inr leavesOut => exact isGone.2 leavesOut
    constructor
    · intro finding isMem returns
      obtain ⟨digest, registered, notOwn, health⟩ := returns
      have origin : digest.origin = deduplicationKey finding := by
        cases Backlog.digest_of_registrationKey registered with
        | inl own => exact absurd own notOwn
        | inr generation =>
            obtain ⟨_, isGeneration⟩ := generation
            rw [isGeneration]
            rfl
      have isOpen : (world.registered poll).IsOpen poll.polled ⟨finding.tenantId, digest⟩ :=
        isOpen_registered_iff.mpr (Or.inl ⟨⟨finding, isMem, rfl, registered⟩, health⟩)
      have absent : digest ∉ poll.currentKeys := fun current =>
        notOwn ((origin_of_mem_currentKeys current).symm.trans origin)
      apply (gone ⟨finding.tenantId, digest⟩ (moves_iff.mpr ⟨complete, isOpen, absent⟩)).1
      rw [origin]
      exact HealthPoll.reports_of_mem_currentKeys complete (List.mem_map_of_mem isMem)
    · intro key isOpen reports
      exact origin_of_mem_currentKeys (current_of_open key isOpen (Or.inl reports))
    · intro leavesOut key isOpen
      exact current_of_open key isOpen (Or.inr leavesOut)
  · intro accounted key moves
    obtain ⟨complete, isOpen, absent⟩ := moves_iff.mp moves
    have wasOpen : world.IsOpen poll.polled key := by
      cases isOpen_registered_iff.mp isOpen with
      | inr untouched => exact untouched.2
      | inl touched =>
          obtain ⟨⟨finding, isMem, written⟩, health⟩ := touched
          exfalso
          apply (accounted complete).noneReturns finding isMem
          refine ⟨key.deduplicationKey, written.2, ?_, ?_⟩
          · intro own
            exact absent (own ▸ List.mem_map_of_mem isMem)
          · rwa [← written.1]
    have whole : ¬ LeavesOut poll.payload :=
      fun leavesOut => absent ((accounted complete).allCurrent leavesOut key wasOpen)
    refine ⟨fun reports => ?_, whole⟩
    have own := (accounted complete).ownKeys key wasOpen reports
    exact absent (own ▸ HealthPoll.mem_currentKeys_of_reports complete whole reports)

end Resolve

end HealthWorld

/-! ## Sequences of polls -/

/-- The response lists its issues, no more of them than the limit, and says nothing of
further pages. -/
def HealthPoll.LooksComplete (poll : HealthPoll) : Prop :=
  ∃ issues, issueList poll.payload = some issues ∧
    (paginationOf poll.payload).isOpen = false ∧ (issues.length : Int) ≤ poll.issueLimit

theorem HealthPoll.isComplete_iff {poll : HealthPoll} :
    poll.isComplete ↔ poll.LooksComplete := by
  unfold isComplete prepared prepareHealthPoll LooksComplete
  cases isList : issueList poll.payload with
  | none => simp
  | some issues =>
      cases pages : (paginationOf poll.payload).isOpen with
      | true => simp
      | false =>
          simp only [Option.some.injEq, exists_eq_left', true_and, Bool.not_false,
            Bool.true_and, Bool.or_false]
          by_cases long : poll.issueLimit < issues.length
          · simp [long]
          · simp [long, isList, not_lt.mp long]

/-- A poll, or whatever else the system does to the backlog in between. -/
inductive HealthEvent
  | poll (poll : HealthPoll)
  | other (next : HealthWorld)

def healthStep (world : HealthWorld) : HealthEvent → HealthWorld
  | .poll poll => world.enqueueSuccess poll
  | .other next => next

/-- The items that are open when a poll looks complete are accounted for. -/
def HealthWorld.AccountedFor (world : HealthWorld) : HealthEvent → Prop
  | .poll poll => poll.LooksComplete → world.Accounted poll
  | .other _ => True

/-- In every sequence of polls each poll resolves only what is really gone, exactly if at
each that looks complete no finding returns as a new generation, no open item is an older
generation of what is reported, and all open items are read where something is left out. -/
theorem resolvesGone_iff_accountedFor (start : HealthWorld) (events : List HealthEvent) :
    (∀ before poll after, events = before ++ .poll poll :: after →
        (runAll healthStep start before).ResolvesGone poll) ↔
      Along healthStep HealthWorld.AccountedFor start events := by
  rw [along_iff_forall]
  constructor
  · intro gone before event after split
    cases event with
    | other next => trivial
    | poll poll =>
        intro complete
        exact HealthWorld.resolvesGone_iff.mp (gone before poll after split)
          (HealthPoll.isComplete_iff.mpr complete)
  · intro accounted before poll after split
    rw [HealthWorld.resolvesGone_iff]
    intro complete
    exact accounted before (.poll poll) after split (HealthPoll.isComplete_iff.mp complete)

/-- Two polls of one target: the first reports a negative valuation of a fund, and the
second reports it as a mere text. -/
def fundPoll (entry : Json) : HealthPoll where
  polled := { tenantId := "tenant", targetId := "target", now := 0 }
  payload := [("issues", .array [entry])]

def fundIssue : JsonObject := [("code", .string "NEGATIVE_VALUATION"), ("assetId", .string "fund")]

def fundText : Json := .string "NEGATIVE_VALUATION of fund"

/-- The second poll looks complete and resolves the item. -/
theorem fundText_resolves :
    ¬ ∀ before poll after,
      [HealthEvent.poll (fundPoll (.object fundIssue)), .poll (fundPoll fundText)] =
        before ++ .poll poll :: after →
      (runAll healthStep {} before).ResolvesGone poll := by
  intro gone
  have resolved := gone [.poll (fundPoll (.object fundIssue))] (fundPoll fundText) [] rfl
  have moves : (runAll healthStep {} [.poll (fundPoll (.object fundIssue))]).Moves
      (fundPoll fundText)
      ⟨"tenant", deduplicationKey ((fundPoll fundText).polled.finding fundIssue
        (.string "fund"))⟩ := by
    rw [HealthWorld.moves_iff, HealthWorld.IsOpen, ← Option.any_eq_true]
    decide +kernel
  apply (resolved _ moves).2
  exact ⟨[fundText], rfl, Or.inr ⟨fundText, List.mem_singleton.mpr rfl,
    fun raw isObject => absurd isObject (by simp [fundText, Json.asDict])⟩⟩

end FinanceSync.Remediation
