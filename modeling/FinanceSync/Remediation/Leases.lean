import FinanceSync.Remediation.Backlog

/-!
# Leases

A claim gives the worker an item for some seconds.  Until then only the worker or
an operator should give the item back; registering its issue again does, too.
-/

namespace FinanceSync.Remediation

open Lib

namespace Backlog

variable {backlog : Backlog} {key : Key} {claimedAt expiry : Instant}

/-- No claim before the instant returns the item of the key. -/
def LeasedUntil (key : Key) (expiry : Instant) (backlog : Backlog) : Prop :=
  ∀ now limit tenantId candidates, now < expiry →
    key ∉ backlog.claimed now limit tenantId candidates

/-- The item is under its lease, or put aside as a coverage note. -/
def Held (key : Key) (claimedAt expiry : Instant) (backlog : Backlog) : Prop :=
  ∃ item, backlog.items key = some item ∧ item.nextAttemptAt ≤ claimedAt ∧
    (item.status = .ignored ∨ (item.status = .processing ∧ item.leaseExpiresAt = some expiry))

/-- The step is within the lease, and neither the worker's transition nor an
operator's decision about the item. -/
def withinLease (key : Key) (expiry : Instant) (backlog : Backlog) : Step → Bool
  | .claim now _ _ _ _ => now < expiry
  | .execute tenantId itemId claimToken _ _ =>
      !(backlog.items key).any (transitionRows tenantId itemId (some claimToken) none key)
  | .ignore tenantId itemId _ _ => !(backlog.items key).any (isRow tenantId itemId key)
  | .patch tenantId itemId _ _ => !(backlog.items key).any (isRow tenantId itemId key)
  | .cleanupTerminal old => key ∉ old
  | _ => true

/-- The step does not write a registration of the item's issue, other than of a
coverage note. -/
def leavesLease (key : Key) (backlog : Backlog) : Step → Bool
  | .upsert session =>
      (backlog.registrations session).all fun registration =>
        registration.key ≠ key || registration.issue.isCoverageBoundary
  | _ => true

theorem Held.leasedUntil (held : backlog.Held key claimedAt expiry) :
    backlog.LeasedUntil key expiry := by
  intro now limit tenantId candidates before isMem
  rcases held with ⟨item, row, _, ignored | leased⟩
  · have due := due_of_mem_claimed isMem row
    simp [DataQualityRemediationItem.due, ignored, RemediationStatus.isActive] at due
  · have due := due_of_mem_claimed isMem row
    simp [DataQualityRemediationItem.due, leased.1, leased.2, RemediationStatus.isActive,
      before.not_gt] at due

/-! ## The steps -/

/-- The row stays as it is. -/
theorem Held.of_items {next : Backlog} (held : backlog.Held key claimedAt expiry)
    (same : next.items key = backlog.items key) : next.Held key claimedAt expiry := by
  rw [Held, same]
  exact held

/-- A requeue skips the item. -/
theorem Held.not_requeued (held : backlog.Held key claimedAt expiry) :
    (backlog.items key).any (·.status ∈ requeueFrom) = false := by
  rcases held with ⟨item, row, _, ignored | leased⟩
  · simp [row, ignored, requeueFrom]
  · simp [row, leased.1, requeueFrom]

theorem Held.after_upsert (held : backlog.Held key claimedAt expiry) (session : Nat)
    (leaves : leavesLease key backlog (.upsert session)) :
    (backlog.upsert session).Held key claimedAt expiry := by
  cases underWay : backlog.registrations session with
  | none =>
      apply held.of_items
      exact upsert_items_other (by simp [underWay])
  | some registration =>
      by_cases own : registration.key = key
      · have boundary : registration.issue.isCoverageBoundary := by
          simpa [leavesLease, underWay, own] using leaves
        rcases held with ⟨item, row, attempt, _⟩
        have after := upsert_items_own underWay
        rw [own] at after
        refine ⟨_, after, ?_, .inl ?_⟩
        · rw [registered_nextAttemptAt (by rw [own, row])]
          exact attempt
        · simp [registered_status, DetectedIssue.registeredStatus, boundary]
      · apply held.of_items
        apply upsert_items_other
        simpa [underWay] using own

theorem Held.after_select (held : backlog.Held key claimedAt expiry) (session : Nat)
    (issue : DetectedIssue) : (backlog.select session issue).Held key claimedAt expiry := by
  rcases held with ⟨item, row, attempt, state⟩
  rcases select_row row session issue with ⟨seen, after⟩
  exact ⟨_, after, attempt, state⟩

theorem Held.after_step (held : backlog.Held key claimedAt expiry) {input : Step}
    (within : withinLease key expiry backlog input) (leaves : leavesLease key backlog input) :
    (step backlog input).Held key claimedAt expiry := by
  have notRequeued := held.not_requeued
  cases input with
  | select session issue => exact held.after_select session issue
  | upsert session => exact held.after_upsert session leaves
  | claim now limit leaseSeconds tenantId candidates =>
      have before : now < expiry := of_decide_eq_true within
      apply held.of_items
      have notClaimed := held.leasedUntil now limit tenantId candidates before
      simp [step, notClaimed]
  | execute tenantId itemId claimToken outcome report =>
      apply held.of_items
      exact update_missed (by simpa [withinLease] using within)
  | requeue tenantId itemId now =>
      apply held.of_items
      apply update_missed
      cases row : backlog.items key with
      | none => rfl
      | some item =>
          rw [row, Option.any_some] at notRequeued
          simp [transitionRows, notRequeued]
  | bulkRequeue tenantId itemIds now =>
      apply held.of_items
      apply update_missed
      cases row : backlog.items key with
      | none => rfl
      | some item =>
          rw [row, Option.any_some] at notRequeued
          simp [bulkRows, notRequeued]
  | ignore tenantId itemId reason now =>
      apply held.of_items
      apply update_missed
      exact transitionRows_missed (by simpa [withinLease] using within)
  | patch tenantId itemId priority status =>
      apply held.of_items
      exact update_missed (by simpa [withinLease] using within)
  | cleanupTerminal old =>
      apply held.of_items
      have kept : key ∉ old := of_decide_eq_true within
      cases row : backlog.items key with
      | none => simp [step, row]
      | some item => simp [step, row, kept]

/-- A registration of the issue makes the item claimable at once. -/
theorem Held.not_leasedUntil (held : backlog.Held key claimedAt expiry) {session : Nat}
    (before : claimedAt < expiry) (takes : ¬ leavesLease key backlog (.upsert session)) :
    ¬ (backlog.upsert session).LeasedUntil key expiry := by
  intro leased
  cases underWay : backlog.registrations session with
  | none => simp [leavesLease, underWay] at takes
  | some registration =>
      have both : registration.key = key ∧ registration.issue.isCoverageBoundary = false := by
        simpa [leavesLease, underWay] using takes
      rcases held with ⟨item, row, attempt, _⟩
      have after := upsert_items_own underWay
      rw [both.1] at after
      have due : (backlog.registered registration).due claimedAt := by
        have pending := backlog.registered_status registration
        simp [DataQualityRemediationItem.due, pending, DetectedIssue.registeredStatus, both.2,
          RemediationStatus.isActive]
        rw [registered_nextAttemptAt (by rw [both.1, row])]
        exact attempt
      apply leased claimedAt 1 none [key] before
      simp [claimed, after, due]

theorem Held.step_leasedUntil_iff (held : backlog.Held key claimedAt expiry)
    (before : claimedAt < expiry) {input : Step}
    (within : withinLease key expiry backlog input) :
    (step backlog input).LeasedUntil key expiry ↔ leavesLease key backlog input := by
  constructor
  · intro leased
    by_contra takes
    cases input with
    | upsert session => exact held.not_leasedUntil before takes leased
    | _ => exact takes rfl
  · intro leaves
    exact (held.after_step within leaves).leasedUntil

theorem claim_held {now : Instant} {limit leaseSeconds : Int} {tenantId : Option String}
    {candidates : List Key} (claims : key ∈ backlog.claimed now limit tenantId candidates) :
    (backlog.claim now limit leaseSeconds tenantId candidates).Held key now
      (now + leaseSeconds * 1000000) := by
  have present : ∃ item, backlog.items key = some item := by
    have filtered := List.mem_of_mem_take claims
    cases row : backlog.items key with
    | none => simp [row] at filtered
    | some item => exact ⟨item, rfl⟩
  rcases present with ⟨item, row⟩
  have due := due_of_mem_claimed claims row
  simp only [DataQualityRemediationItem.due, Bool.and_eq_true, decide_eq_true_eq] at due
  exact ⟨item.claim now leaseSeconds backlog.claims, by simp [row, claims], due.2,
    .inr ⟨rfl, rfl⟩⟩

/-- After a claim, as long as neither the worker nor an operator gives the item
back, no claim before the end of the lease returns it if no registration of its
issue is written to it, and, where the lease is of positive length, only if. -/
theorem lease_exclusive_iff {now : Instant} {limit leaseSeconds : Int}
    {tenantId : Option String} {candidates : List Key}
    (claims : key ∈ backlog.claimed now limit tenantId candidates) (steps : List Step)
    (within : Along step
      (fun state input => withinLease key (now + leaseSeconds * 1000000) state input)
      (step backlog (.claim now limit leaseSeconds tenantId candidates)) steps) :
    (Along step (fun state input => leavesLease key state input)
        (step backlog (.claim now limit leaseSeconds tenantId candidates)) steps →
      ∀ before after, steps = before ++ after →
        (runAll step (step backlog (.claim now limit leaseSeconds tenantId candidates))
          before).LeasedUntil key (now + leaseSeconds * 1000000)) ∧
    (0 < leaseSeconds →
      (∀ before after, steps = before ++ after →
        (runAll step (step backlog (.claim now limit leaseSeconds tenantId candidates))
          before).LeasedUntil key (now + leaseSeconds * 1000000)) →
      Along step (fun state input => leavesLease key state input)
        (step backlog (.claim now limit leaseSeconds tenantId candidates)) steps) := by
  have held : (step backlog (.claim now limit leaseSeconds tenantId candidates)).Held key now
      (now + leaseSeconds * 1000000) := claim_held claims
  constructor
  · intro leaves before after split
    have both := along_and steps within leaves
    rw [split] at both
    have preserved : ∀ state input, Held key now (now + leaseSeconds * 1000000) state →
        (withinLease key (now + leaseSeconds * 1000000) state input ∧
          leavesLease key state input) →
        Held key now (now + leaseSeconds * 1000000) (step state input) :=
      fun _ _ stateHeld kept => stateHeld.after_step kept.1 kept.2
    exact (reached_invariant preserved held both).1.leasedUntil
  · intro positive leased
    have before : now < now + leaseSeconds * 1000000 :=
      Int.lt_add_of_pos_right now (Int.mul_pos positive (by decide))
    have preserved : ∀ state input, Held key now (now + leaseSeconds * 1000000) state →
        withinLease key (now + leaseSeconds * 1000000) state input →
        LeasedUntil key (now + leaseSeconds * 1000000) state → leavesLease key state input →
        Held key now (now + leaseSeconds * 1000000) (step state input) :=
      fun _ _ stateHeld kept _ leaves => stateHeld.after_step kept leaves
    have keeps : ∀ state input, Held key now (now + leaseSeconds * 1000000) state →
        withinLease key (now + leaseSeconds * 1000000) state input →
        LeasedUntil key (now + leaseSeconds * 1000000) state →
        (LeasedUntil key (now + leaseSeconds * 1000000) (step state input) ↔
          leavesLease key state input) :=
      fun _ _ stateHeld kept _ => stateHeld.step_leasedUntil_iff before kept
    exact (reached_iff_along preserved keeps steps held within held.leasedUntil).mp leased

/-- A second worker does not get the item. -/
theorem second_worker_waits :
    (runAll step
      (step (runAll step start (register (missingSeen 0))) (.claim 0 20 300 none [missingKey]))
      [.claim 1000000 20 300 none [missingKey]]).LeasedUntil missingKey (0 + 300 * 1000000) :=
  (lease_exclusive_iff missing_claimed.1 [.claim 1000000 20 300 none [missingKey]]
    ⟨by decide, trivial⟩).1 ⟨rfl, trivial⟩ _ [] rfl

/-- It does once the issue is registered again. -/
theorem registered_lease_lost :
    ¬ ∀ (backlog : Backlog) key now limit leaseSeconds tenantId candidates steps,
      key ∈ backlog.claimed now limit tenantId candidates →
      Along step (fun state input => withinLease key (now + leaseSeconds * 1000000) state input)
        (step backlog (.claim now limit leaseSeconds tenantId candidates)) steps →
      ∀ before after, steps = before ++ after →
        (runAll step (step backlog (.claim now limit leaseSeconds tenantId candidates))
          before).LeasedUntil key (now + leaseSeconds * 1000000) := by
  intro exclusive
  have leased := exclusive (runAll step start (register (missingSeen 0))) missingKey 0 20 300 none
    [missingKey] (register (missingSeen 1)) missing_claimed.1 ⟨rfl, rfl, trivial⟩ _ []
    (List.append_nil _).symm
  have again := row_register (missingSeen 1) (key_missingSeen 1) missing_claimed.2 (by decide)
  have claimsAgain := mem_claimed_singleton 20 again
    (due_of_isActive rfl (show (0 : Instant) ≤ 2000000 by decide))
  exact leased 2000000 20 none [missingKey] (by decide) claimsAgain

end Backlog

end FinanceSync.Remediation
