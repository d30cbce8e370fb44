import FinanceSync.Remediation.Backlog

/-!
# Open items of one issue

An issue that comes back after its item was resolved gets a second item, under a
key of its own.  No step looks whether another item of the issue is still open.
-/

namespace FinanceSync.Remediation

open Lib

namespace Backlog

variable {backlog : Backlog} {key : Key} {item : DataQualityRemediationItem}

/-- There is an item under the key, and it is not in a terminal status. -/
def isOpen (backlog : Backlog) (key : Key) : Bool :=
  (backlog.items key).any fun item => !item.status.isTerminal

/-- At most one item of each issue is open. -/
def AtMostOneOpen (backlog : Backlog) : Prop :=
  ∀ key other, key.SameIssue other → backlog.isOpen key → backlog.isOpen other → other = key

/-- The step writes an open status to the item of the key. -/
def opens (backlog : Backlog) (key : Key) : Step → Bool
  | .upsert session =>
      (backlog.registrations session).any fun registration =>
        registration.key = key && !registration.issue.isCoverageBoundary
  | .execute tenantId itemId claimToken outcome _ =>
      (outcome = .retryWait || outcome = .deferred) &&
        (backlog.items key).any (transitionRows tenantId itemId (some claimToken) none key)
  | .requeue tenantId itemId _ =>
      (backlog.items key).any (transitionRows tenantId itemId none (some requeueFrom) key)
  | .bulkRequeue tenantId itemIds _ => (backlog.items key).any (bulkRows tenantId itemIds key)
  | .patch tenantId itemId _ status =>
      status = some .pending && (backlog.items key).any (isRow tenantId itemId key)
  | _ => false

/-- An item to which the step writes an open status is the only one of its issue
that is open before the step or to which the step writes such a status. -/
def OpensAlone (backlog : Backlog) (input : Step) : Prop :=
  ∀ key other, key.SameIssue other → backlog.opens key input →
    (backlog.isOpen other ∨ backlog.opens other input) → other = key

/-! ## What a step opens -/

/-- The step closes nothing that it does not open again. -/
def OnlyOpens (backlog : Backlog) (input : Step) : Prop :=
  ∀ key, (step backlog input).isOpen key ↔ backlog.isOpen key ∨ backlog.opens key input

/-- The step opens nothing. -/
def OpensNone (backlog : Backlog) (input : Step) : Prop :=
  ∀ key, backlog.opens key input = false ∧
    ((step backlog input).isOpen key → backlog.isOpen key)

/-- An update that writes an open status. -/
theorem isOpen_update_iff {condition : Key → DataQualityRemediationItem → Bool}
    {edit : DataQualityRemediationItem → DataQualityRemediationItem}
    (opened : ∀ item, (edit item).status.isTerminal = false) (key : Key) :
    (backlog.update condition edit).isOpen key ↔
      backlog.isOpen key ∨ (backlog.items key).any (condition key) := by
  cases row : backlog.items key with
  | none => simp [isOpen, row]
  | some item => cases hit : condition key item <;> simp [isOpen, row, hit, opened]

/-- An update that opens no item that was closed. -/
theorem isOpen_of_update {condition : Key → DataQualityRemediationItem → Bool}
    {edit : DataQualityRemediationItem → DataQualityRemediationItem}
    (stays : ∀ item, backlog.items key = some item → condition key item →
      item.status.isTerminal → (edit item).status.isTerminal)
    (isOpen : (backlog.update condition edit).isOpen key) : backlog.isOpen key := by
  cases row : backlog.items key with
  | none => simp [Backlog.isOpen, row] at isOpen
  | some item =>
      by_contra closed
      have terminal : item.status.isTerminal := by simpa [Backlog.isOpen, row] using closed
      cases hit : condition key item with
      | true => simp [Backlog.isOpen, row, hit, stays item row hit terminal] at isOpen
      | false => simp [Backlog.isOpen, row, hit, terminal] at isOpen

theorem isOpen_select (session : Nat) (issue : DetectedIssue) (key : Key) :
    (backlog.select session issue).isOpen key = backlog.isOpen key := by
  rcases select_items session issue key with ⟨seen, rows⟩
  rw [isOpen, rows]
  cases row : backlog.items key with
  | none => simp [isOpen, row]
  | some item => simp [isOpen, row]

theorem isOpen_claim (now : Instant) (limit leaseSeconds : Int) (tenantId : Option String)
    (candidates : List Key) (key : Key)
    (isOpen : (backlog.claim now limit leaseSeconds tenantId candidates).isOpen key) :
    backlog.isOpen key := by
  have updated : (backlog.update
      (fun key _ => key ∈ backlog.claimed now limit tenantId candidates)
      (·.claim now leaseSeconds backlog.claims)).isOpen key := isOpen
  apply isOpen_of_update _ updated
  intro item row chosen terminal
  have due := due_of_mem_claimed (of_decide_eq_true chosen) row
  cases status : item.status <;>
    simp [status, DataQualityRemediationItem.due, RemediationStatus.isActive,
      RemediationStatus.isTerminal] at due terminal

theorem upsert_opens (session : Nat) :
    backlog.OnlyOpens (.upsert session) ∨ backlog.OpensNone (.upsert session) := by
  cases underWay : backlog.registrations session with
  | none =>
      right
      intro key
      simp [opens, step, upsert, underWay]
  | some registration =>
      have other : ∀ key, registration.key ≠ key →
          (backlog.upsert session).items key = backlog.items key := by
        intro key ne
        exact upsert_items_other (by simpa [underWay] using ne)
      have status := backlog.registered_status registration
      cases boundary : registration.issue.isCoverageBoundary with
      | false =>
          left
          intro key
          by_cases own : registration.key = key
          · rw [← own]
            simp [isOpen, opens, step, upsert_items_own underWay, underWay, boundary, status,
              DetectedIssue.registeredStatus, RemediationStatus.isTerminal]
          · simp [isOpen, opens, step, other key own, underWay, own]
      | true =>
          right
          intro key
          by_cases own : registration.key = key
          · rw [← own]
            simp [isOpen, opens, step, upsert_items_own underWay, underWay, boundary, status,
              DetectedIssue.registeredStatus, RemediationStatus.isTerminal]
          · simp [isOpen, opens, step, other key own, underWay, own]

theorem execute_opens (tenantId : String) (itemId : Uuid) (claimToken : ClaimToken)
    (outcome : Outcome) (report : Report) :
    backlog.OnlyOpens (.execute tenantId itemId claimToken outcome report) ∨
      backlog.OpensNone (.execute tenantId itemId claimToken outcome report) := by
  by_cases opening : outcome = .retryWait ∨ outcome = .deferred
  · left
    intro key
    have written : (decide (outcome = .retryWait) || decide (outcome = .deferred)) = true := by
      simpa using opening
    simp only [opens, written, Bool.true_and]
    apply isOpen_update_iff
    intro item
    rcases opening with retry | deferred
    · rw [retry]; rfl
    · rw [deferred]; rfl
  · right
    intro key
    apply And.intro
    · simp [opens, opening]
    · apply isOpen_of_update
      intro item _ _ _
      cases outcome <;> first | rfl | simp at opening

theorem patch_opens (tenantId : String) (itemId : Uuid) (priority : Option Int)
    (status : Option PatchStatus) :
    backlog.OnlyOpens (.patch tenantId itemId priority status) ∨
      backlog.OpensNone (.patch tenantId itemId priority status) := by
  by_cases pending : status = some .pending
  · left
    intro key
    simp only [opens, pending, decide_true, Bool.true_and]
    exact isOpen_update_iff (by exact fun _ => rfl) key
  · right
    intro key
    apply And.intro
    · simp [opens, pending]
    · apply isOpen_of_update
      intro item _ _ terminal
      cases status with
      | none => exact terminal
      | some status => cases status <;> first | rfl | simp at pending

theorem isOpen_cleanup (old : List Key) (key : Key)
    (isOpen : (step backlog (.cleanupTerminal old)).isOpen key) : backlog.isOpen key := by
  simp only [Backlog.isOpen, step, Option.any_filter] at isOpen ⊢
  cases row : backlog.items key with
  | none => simp [row] at isOpen
  | some item =>
      simp only [row, Option.any_some, Bool.and_eq_true] at isOpen ⊢
      exact isOpen.2

theorem step_opens (backlog : Backlog) (input : Step) :
    backlog.OnlyOpens input ∨ backlog.OpensNone input := by
  cases input with
  | select session issue =>
      right
      intro key
      exact ⟨rfl, fun isOpen => by rwa [step, isOpen_select] at isOpen⟩
  | upsert session => exact upsert_opens session
  | claim now limit leaseSeconds tenantId candidates =>
      right
      intro key
      exact ⟨rfl, isOpen_claim now limit leaseSeconds tenantId candidates key⟩
  | execute tenantId itemId claimToken outcome report =>
      exact execute_opens tenantId itemId claimToken outcome report
  | requeue tenantId itemId now =>
      left
      exact isOpen_update_iff (by exact fun _ => rfl)
  | bulkRequeue tenantId itemIds now =>
      left
      exact isOpen_update_iff (by exact fun _ => rfl)
  | ignore tenantId itemId reason now =>
      right
      intro key
      exact ⟨rfl, isOpen_of_update (by exact fun _ _ _ _ => rfl)⟩
  | patch tenantId itemId priority status => exact patch_opens tenantId itemId priority status
  | cleanupTerminal old =>
      right
      intro key
      exact ⟨rfl, isOpen_cleanup old key⟩

/-! ## At most one open item -/

theorem step_atMostOneOpen_iff (atMostOne : backlog.AtMostOneOpen) (input : Step) :
    (step backlog input).AtMostOneOpen ↔ backlog.OpensAlone input := by
  rcases step_opens backlog input with onlyOpens | opensNone
  · constructor
    · intro after key other same opened present
      apply after key other same
      · exact (onlyOpens key).mpr (.inr opened)
      · exact (onlyOpens other).mpr present
    · intro alone key other same keyOpen otherOpen
      rcases (onlyOpens key).mp keyOpen with wasOpen | opened
      · rcases (onlyOpens other).mp otherOpen with otherWasOpen | otherOpened
        · exact atMostOne key other same wasOpen otherWasOpen
        · exact (alone other key same.symm otherOpened (.inl wasOpen)).symm
      · exact alone key other same opened ((onlyOpens other).mp otherOpen)
  · constructor
    · intro _ key other _ opened _
      simp [(opensNone key).1] at opened
    · intro _ key other same keyOpen otherOpen
      exact atMostOne key other same ((opensNone key).2 keyOpen) ((opensNone other).2 otherOpen)

/-- In every state of a run at most one item of each issue is open, exactly if
each step that puts an item to work finds no other item of the issue open. -/
theorem atMostOneOpen_iff_opensAlone (steps : List Step) :
    (∀ before after, steps = before ++ after → (runAll step start before).AtMostOneOpen) ↔
      Along step OpensAlone start steps := by
  have keeps : ∀ backlog input, True → AtMostOneOpen backlog →
      (AtMostOneOpen (step backlog input) ↔ OpensAlone backlog input) :=
    fun _ input _ atMostOne => step_atMostOneOpen_iff atMostOne input
  have empty : start.AtMostOneOpen := fun _ _ _ isOpen => by cases isOpen
  exact reached_iff_kept (fun _ _ _ => trivial) keeps steps trivial empty

/-- The key of an issue that is seen again after the grace period. -/
theorem registrationKey_of_resolved {issue : DetectedIssue}
    (isKey : ⟨issue.tenantId, deduplicationKey issue⟩ = key) (row : backlog.items key = some item)
    (resolved : item.status = .resolved) {resolvedAt : Instant}
    (isAt : item.resolvedAt = some resolvedAt)
    (late : resolvedGrace < issue.detectedAt - resolvedAt) :
    backlog.registrationKey issue =
      some (.generation (deduplicationKey issue) (issue.detectedAt.fdiv 1000000)) := by
  simpa [registrationKey, isKey, row, resolved, isAt] using Int.add_lt_of_lt_sub_right late

theorem isOpen_register {issue : DetectedIssue} {digest : Digest}
    (isDigest : backlog.registrationKey issue = some digest)
    (needsWork : issue.isCoverageBoundary = false) :
    (runAll step backlog (register issue)).isOpen key ↔
      key = ⟨issue.tenantId, digest⟩ ∨ backlog.isOpen key := by
  rw [isOpen, items_register isDigest]
  by_cases own : key = ⟨issue.tenantId, digest⟩
  · simp [own, registered_status, DetectedIssue.registeredStatus, needsWork,
      RemediationStatus.isTerminal]
  · simp [own, isOpen]

/-- The item of the issue is resolved, and the issue is seen twice after the grace
period. -/
def missingSeenAgain : List Step :=
  register (missingSeen 0) ++
    [.claim 0 20 300 none [missingKey],
      .execute "tenant" 0 ⟨0, 0⟩ .resolved { now := 1000000 }] ++
    register (missingSeen 90000) ++ register (missingSeen 180000)

/-- Both times it gets an item of its own, and both items are open. -/
theorem two_items_open :
    ¬ ∀ steps before after, steps = before ++ after →
      (runAll step start before).AtMostOneOpen := by
  intro always
  have atMostOne := always missingSeenAgain _ [] (List.append_nil _).symm
  rw [missingSeenAgain, runAll_append, runAll_append, runAll_append] at atMostOne
  have row : (runAll step (runAll step start (register (missingSeen 0)))
      [.claim 0 20 300 none [missingKey],
        .execute "tenant" 0 ⟨0, 0⟩ .resolved { now := 1000000 }]).items missingKey =
      some ((((missingSeen 0).values 0).claim 0 300 0).transition
        { status := .resolved, now := 1000000 }) :=
    update_row missing_claimed.2 (by decide)
  generalize runAll step (runAll step start (register (missingSeen 0)))
    [.claim 0 20 300 none [missingKey],
      .execute "tenant" 0 ⟨0, 0⟩ .resolved { now := 1000000 }] = backlog at row atMostOne
  have first : backlog.registrationKey (missingSeen 90000) =
      some (.generation missingKey.deduplicationKey 90000) :=
    registrationKey_of_resolved (key_missingSeen 90000) row rfl rfl (by decide)
  have rowAfter := congrFun (items_register first) missingKey
  rw [Function.update_of_ne (by simp [missingKey, deduplicationKey]), row] at rowAfter
  have second : (runAll step backlog (register (missingSeen 90000))).registrationKey
      (missingSeen 180000) = some (.generation missingKey.deduplicationKey 180000) :=
    registrationKey_of_resolved (key_missingSeen 180000) rowAfter rfl rfl (by decide)
  have same := atMostOne ⟨"tenant", .generation missingKey.deduplicationKey 90000⟩
    ⟨"tenant", .generation missingKey.deduplicationKey 180000⟩ ⟨rfl, rfl⟩
    ((isOpen_register second (by decide)).mpr
      (.inr ((isOpen_register first (by decide)).mpr (.inl rfl))))
    ((isOpen_register second (by decide)).mpr (.inl rfl))
  simp at same

end Backlog

end FinanceSync.Remediation
