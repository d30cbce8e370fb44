import FinanceSync.Remediation.Backlog

/-!
# Decisions about an item

An operator who ignores an item, and the executor that leaves it to a manual
review, take it off the queue.  A later registration of its issue overwrites the
status.
-/

namespace FinanceSync.Remediation

open Lib

namespace Backlog

variable {backlog : Backlog} {key : Key} {status : RemediationStatus}

/-- The decision that the step takes about the item of the key. -/
def decides (backlog : Backlog) (key : Key) : Step → Option RemediationStatus
  | .ignore tenantId itemId _ _ =>
      if (backlog.items key).any (transitionRows tenantId itemId none (some ignoreFrom) key) then
        some .ignored
      else none
  | .execute tenantId itemId claimToken .manualReview _ =>
      if (backlog.items key).any (transitionRows tenantId itemId (some claimToken) none key) then
        some .manualReview
      else none
  | _ => none

/-- The item has the status, and no claim returns it. -/
def StaysDecided (key : Key) (status : RemediationStatus) (backlog : Backlog) : Prop :=
  (∃ item, backlog.items key = some item ∧ item.status = status) ∧
    ∀ now limit tenantId candidates, key ∉ backlog.claimed now limit tenantId candidates

/-- No operator changes the item, and it is not deleted. -/
def leftAlone (key : Key) (backlog : Backlog) : Step → Bool
  | .requeue tenantId itemId _ => !(backlog.items key).any (isRow tenantId itemId key)
  | .bulkRequeue tenantId itemIds _ => !(backlog.items key).any (bulkRows tenantId itemIds key)
  | .ignore tenantId itemId _ _ => !(backlog.items key).any (isRow tenantId itemId key)
  | .patch tenantId itemId _ _ => !(backlog.items key).any (isRow tenantId itemId key)
  | .cleanupTerminal old => key ∉ old
  | _ => true

/-- A registration that the step writes to the item writes the status that it has. -/
def keepsDecision (key : Key) (status : RemediationStatus) (backlog : Backlog) : Step → Bool
  | .upsert session =>
      (backlog.registrations session).all fun registration =>
        registration.key ≠ key || registration.issue.registeredStatus = status
  | _ => true

/-! ## The steps -/

/-- The item was decided about, and nobody holds a claim on it. -/
def Decided (key : Key) (status : RemediationStatus) (backlog : Backlog) : Prop :=
  (status = .ignored ∨ status = .manualReview) ∧
    ∃ item, backlog.items key = some item ∧ item.status = status ∧ item.claimToken = none

theorem Decided.staysDecided (decided : backlog.Decided key status) :
    backlog.StaysDecided key status := by
  rcases decided with ⟨which, item, row, itemStatus, _⟩
  refine ⟨⟨item, row, itemStatus⟩, ?_⟩
  intro now limit tenantId candidates isMem
  have due := due_of_mem_claimed isMem row
  rcases which with ignored | manualReview
  · simp [DataQualityRemediationItem.due, itemStatus, ignored, RemediationStatus.isActive] at due
  · simp [DataQualityRemediationItem.due, itemStatus, manualReview,
      RemediationStatus.isActive] at due

theorem Decided.of_items {next : Backlog} (decided : backlog.Decided key status)
    (same : next.items key = backlog.items key) : next.Decided key status := by
  rw [Decided, same]
  exact decided

theorem Decided.after_step (decided : backlog.Decided key status) {input : Step}
    (alone : leftAlone key backlog input) (keeps : keepsDecision key status backlog input) :
    (step backlog input).Decided key status := by
  rcases decided with ⟨which, item, row, itemStatus, noClaim⟩
  have decided : backlog.Decided key status := ⟨which, item, row, itemStatus, noClaim⟩
  cases input with
  | select session issue =>
      rcases select_row row session issue with ⟨seen, after⟩
      exact ⟨which, _, after, itemStatus, noClaim⟩
  | upsert session =>
      cases underWay : backlog.registrations session with
      | none =>
          apply decided.of_items
          exact upsert_items_other (by simp [underWay])
      | some registration =>
          by_cases own : registration.key = key
          · have after := upsert_items_own underWay
            rw [own] at after
            refine ⟨which, _, after, ?_, ?_⟩
            · rw [registered_status]
              simpa [keepsDecision, underWay, own] using keeps
            · rw [registered_claimToken (by rw [own, row])]
              exact noClaim
          · apply decided.of_items
            apply upsert_items_other
            simpa [underWay] using own
  | claim now limit leaseSeconds tenantId candidates =>
      apply decided.of_items
      have notClaimed := decided.staysDecided.2 now limit tenantId candidates
      simp [step, notClaimed]
  | execute tenantId itemId claimToken outcome report =>
      apply decided.of_items
      apply update_missed
      simp [row, transitionRows, noClaim]
  | requeue tenantId itemId now =>
      apply decided.of_items
      apply update_missed
      exact transitionRows_missed (by simpa [leftAlone] using alone)
  | bulkRequeue tenantId itemIds now =>
      apply decided.of_items
      exact update_missed (by simpa [leftAlone] using alone)
  | ignore tenantId itemId reason now =>
      apply decided.of_items
      apply update_missed
      exact transitionRows_missed (by simpa [leftAlone] using alone)
  | patch tenantId itemId priority patchStatus =>
      apply decided.of_items
      exact update_missed (by simpa [leftAlone] using alone)
  | cleanupTerminal old =>
      apply decided.of_items
      have kept : key ∉ old := of_decide_eq_true alone
      simp [step, row, kept]

theorem Decided.step_staysDecided_iff (decided : backlog.Decided key status) {input : Step}
    (alone : leftAlone key backlog input) :
    (step backlog input).StaysDecided key status ↔ keepsDecision key status backlog input := by
  constructor
  · intro stays
    cases input with
    | upsert session =>
        simp only [keepsDecision, Option.all_eq_true]
        intro registration underWay
        by_cases own : registration.key = key
        · rcases stays.1 with ⟨item, row, itemStatus⟩
          rw [step, ← own, upsert_items_own underWay, Option.some_inj] at row
          rw [← row, registered_status] at itemStatus
          simp [itemStatus]
        · simp [own]
    | _ => rfl
  · intro keeps
    exact (decided.after_step alone keeps).staysDecided

theorem keepsDecision_select {issue : DetectedIssue} {digest : Digest}
    {status : RemediationStatus} (isDigest : backlog.registrationKey issue = some digest)
    (same : issue.registeredStatus = status) (session : Nat) :
    keepsDecision key status (backlog.select session issue) (.upsert session) := by
  simp [keepsDecision, select, isDigest, same]

/-- A decision takes the item off the queue and ends the claim on it. -/
theorem decided_of_decides {decision : Step}
    (decided : backlog.decides key decision = some status) :
    (step backlog decision).Decided key status := by
  cases decision with
  | ignore tenantId itemId reason now =>
      cases row : backlog.items key with
      | none => simp [decides, row] at decided
      | some item =>
          simp only [decides, row, Option.any_some, Option.ite_none_right_eq_some,
            Option.some_inj] at decided
          exact ⟨.inl decided.2.symm, _, update_row row decided.1, decided.2, rfl⟩
  | execute tenantId itemId claimToken outcome report =>
      cases outcome with
      | manualReview =>
          cases row : backlog.items key with
          | none => simp [decides, row] at decided
          | some item =>
              simp only [decides, row, Option.any_some, Option.ite_none_right_eq_some,
                Option.some_inj] at decided
              exact ⟨.inr decided.2.symm, _, update_row row decided.1, decided.2, rfl⟩
      | _ => cases decided
  | _ => cases decided

/-- After an operator ignored the item, or the executor left it to a manual
review, it keeps that status and stays off the queue in every state of a run
without operators exactly if every registration that is written to it writes the
status that it has. -/
theorem decision_sticky_iff {decision : Step}
    (decided : backlog.decides key decision = some status) (steps : List Step)
    (alone : Along step (fun state input => leftAlone key state input) (step backlog decision)
      steps) :
    (∀ before after, steps = before ++ after →
        (runAll step (step backlog decision) before).StaysDecided key status) ↔
      Along step (fun state input => keepsDecision key status state input)
        (step backlog decision) steps := by
  have start : (step backlog decision).Decided key status := decided_of_decides decided
  have preserved : ∀ state input, Decided key status state → leftAlone key state input →
      StaysDecided key status state → keepsDecision key status state input →
      Decided key status (step state input) :=
    fun _ _ stateDecided stateAlone _ keeps => stateDecided.after_step stateAlone keeps
  have keeps : ∀ state input, Decided key status state → leftAlone key state input →
      StaysDecided key status state →
      (StaysDecided key status (step state input) ↔ keepsDecision key status state input) :=
    fun _ _ stateDecided stateAlone _ => stateDecided.step_staysDecided_iff stateAlone
  exact reached_iff_along preserved keeps steps start alone start.staysDecided

theorem missing_decided :
    (runAll step start (register (missingSeen 0))).decides missingKey
      (.ignore "tenant" 0 "known" 0) = some .ignored := by
  rw [decides, missing_registered]
  decide

theorem missing_ignored :
    (step (runAll step start (register (missingSeen 0)))
      (.ignore "tenant" 0 "known" 0)).items missingKey =
        some (((missingSeen 0).values 0).transition
          { status := .ignored, error := some "known", errorCategory := some "operator",
            now := 0 }) :=
  update_row missing_registered (by decide)

/-- The finding is ignored by an operator and seen again as a coverage note. -/
theorem ignored_coverage_note :
    (runAll step
      (step (runAll step start (register (missingSeen 0))) (.ignore "tenant" 0 "known" 0))
      (register { missingSeen 1 with remediationStrategy := "coverage_boundary" })).StaysDecided
        missingKey .ignored := by
  have isDigest := registrationKey_of_row
    { missingSeen 1 with remediationStrategy := "coverage_boundary" } rfl missing_ignored
    (by decide)
  exact (decision_sticky_iff missing_decided
    (register { missingSeen 1 with remediationStrategy := "coverage_boundary" })
    ⟨rfl, rfl, trivial⟩).mpr ⟨rfl, keepsDecision_select isDigest (by decide) 0, trivial⟩ _ []
    (List.append_nil _).symm

/-- Seen again as it was, it is back on the queue. -/
theorem ignored_registered_again :
    ¬ ∀ (backlog : Backlog) key decision status steps,
      backlog.decides key decision = some status →
      Along step (fun state input => leftAlone key state input) (step backlog decision) steps →
      ∀ before after, steps = before ++ after →
        (runAll step (step backlog decision) before).StaysDecided key status := by
  intro sticky
  have stays := sticky (runAll step start (register (missingSeen 0))) missingKey
    (.ignore "tenant" 0 "known" 0) .ignored (register (missingSeen 1)) missing_decided
    ⟨rfl, rfl, trivial⟩ _ [] (List.append_nil _).symm
  have again := row_register (missingSeen 1) (key_missingSeen 1) missing_ignored (by decide)
  have claims := mem_claimed_singleton 20 again
    (due_of_isActive rfl (show (0 : Instant) ≤ 2000000 by decide))
  exact stays.2 2000000 20 none [missingKey] claims

end Backlog

end FinanceSync.Remediation
