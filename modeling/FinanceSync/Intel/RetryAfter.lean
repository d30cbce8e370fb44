import FinanceSync.Data.Values
import Mathlib.Algebra.Order.Ring.Int
import Mathlib.Data.List.Chain

/-!
# Retry-After

The requests that the scheduler sends to one provider of market intelligence, over all its
runs.  The retry loop of a fetch waits out the window that a rate limit names.  The error
that it ends with is another matter: the next capability and the next run know nothing of
the window.
-/

namespace FinanceSync.Intel

inductive IntelCapability
  | news | corporateEvents | earnings | analystEstimates | earningsCall
deriving DecidableEq, Repr

/-! ## Exchanges -/

/-- What `fetch_page` comes to. -/
inductive Response
  /-- Whether there are items, and a cursor of the next page. -/
  | page (items nextCursor : Bool)
  /-- `IntelProviderRateLimitError` with its `retry_after`, in microseconds. -/
  | rateLimited (retryAfter : Option Int)
  /-- `IntelProviderTimeoutError` -/
  | timedOut
  /-- `IntelProviderAuthError` -/
  | authError
  /-- `IntelProviderUnavailableError` -/
  | unavailable
  /-- Any other `IntelProviderError`. -/
  | providerError
  /-- Any other exception. -/
  | failure
deriving DecidableEq, Repr

namespace Response

/-- The retry loop tries again after it. -/
def IsTransient : Response → Prop
  | rateLimited _ | timedOut | failure => True
  | _ => False

instance : DecidablePred IsTransient := fun response => by
  cases response <;> simp only [IsTransient] <;> infer_instance

/-- The loop over the capabilities goes on after it. -/
def IsIsolated : Response → Prop
  | authError | rateLimited _ | unavailable => True
  | _ => False

instance : DecidablePred IsIsolated := fun response => by
  cases response <;> simp only [IsIsolated] <;> infer_instance

end Response

/-- A request as the world sees it. -/
structure Exchange where
  /-- The time until it is sent, in the rate limiter and elsewhere. -/
  wait : Nat
  duration : Nat
  response : Response
  /-- The jitter of the backoff that may follow. -/
  jitter : Nat
  /-- The page is ingested and committed. -/
  ingested : Bool := true

/-- A request that was sent. -/
structure Request where
  sentAt : Instant
  /-- When it was answered, or cancelled with the run. -/
  doneAt : Instant
  answer : Option Response
  /-- The retry loop waits and sends another one. -/
  retried : Bool
deriving DecidableEq, Repr

/-- The end of the window that the answer names. -/
def Request.windowEnd (request : Request) : Option Instant :=
  match request.answer with
  | some (.rateLimited (some retryAfter)) => some (request.doneAt + retryAfter)
  | _ => none

/-- A later request is not inside the window of an earlier one. -/
def KeepsWindow (earlier later : Request) : Prop :=
  ∀ windowEnd ∈ earlier.windowEnd, windowEnd ≤ later.sentAt

instance : DecidableRel KeepsWindow := fun earlier later =>
  inferInstanceAs (Decidable (∀ windowEnd ∈ earlier.windowEnd, windowEnd ≤ later.sentAt))

/-- The clock, how many requests were sent, and the requests, the latest first. -/
structure Wire where
  clock : Instant
  exchanges : Nat := 0
  log : List Request := []

/-- What the adapter declares. -/
structure IntelProvider where
  retryMaxAttempts : Nat := 3
  retryBaseDelay : Nat := 1000000
  maxAge : Nat := 6 * 3600 * 1000000
  minInterval : Nat := 15 * 60 * 1000000
  runTimeout : Nat := 60 * 1000000

/-! ## `fetch_with_retry` -/

/-- `_backoff` without its jitter. -/
def IntelProvider.delay (provider : IntelProvider) (attempt : Nat) (response : Response) : Int :=
  let delay : Int := max 100000 provider.retryBaseDelay * 2 ^ (attempt - 1)
  match response with
  | .rateLimited (some retryAfter) => if 0 < retryAfter then max delay retryAfter else delay
  | _ => delay

/-- How `fetch_with_retry` ends. -/
inductive Fetched
  | page (items nextCursor ingested : Bool)
  | raised (error : Response)
  /-- The timeout of the run comes in between. -/
  | cancelled

section Provider

variable (provider : IntelProvider) (script : Nat → Exchange)

/-- `fetch_with_retry`, with the attempts that are left and the number of the next one. -/
def fetchWithRetry (deadline : Instant) : Nat → Nat → Wire → Fetched × Wire
  | 0, _, wire => (.page false false true, wire)
  | remaining + 1, attempt, wire =>
      let exchange := script wire.exchanges
      let sentAt := wire.clock + exchange.wait
      let doneAt := sentAt + exchange.duration
      let resumesAt := doneAt + provider.delay attempt exchange.response + exchange.jitter
      let exchanges := wire.exchanges + 1
      if deadline < sentAt then (.cancelled, { wire with clock := deadline })
      else if deadline < doneAt then
        (.cancelled, ⟨deadline, exchanges, ⟨sentAt, deadline, none, false⟩ :: wire.log⟩)
      else
        let answered (retried : Bool) : List Request :=
          ⟨sentAt, doneAt, some exchange.response, retried⟩ :: wire.log
        match exchange.response with
        | .page items nextCursor =>
            (.page items nextCursor exchange.ingested, ⟨doneAt, exchanges, answered false⟩)
        | error =>
            if ¬ error.IsTransient ∨ remaining = 0 then
              (.raised error, ⟨doneAt, exchanges, answered false⟩)
            else if deadline < resumesAt then
              (.cancelled, ⟨deadline, exchanges, answered false⟩)
            else
              fetchWithRetry deadline remaining (attempt + 1) ⟨resumesAt, exchanges, answered true⟩

/-- How the fetches of a capability end, or those of a run. -/
inductive Ended
  | done
  | raised (error : Response)
  | cancelled

/-- `_refresh_capability`, with the number of pages that are left. -/
def refreshCapability (deadline : Instant) : Nat → Wire → Ended × Wire
  | 0, wire => (.done, wire)
  | pages + 1, wire =>
      match fetchWithRetry provider script deadline (max 1 provider.retryMaxAttempts) 1 wire with
      | (.cancelled, wire) => (.cancelled, wire)
      | (.raised error, wire) => (.raised error, wire)
      | (.page items nextCursor ingested, wire) =>
          if ¬ items then (.done, wire)
          else if ¬ ingested then (.raised .failure, wire)
          else if ¬ nextCursor then (.done, wire)
          else refreshCapability deadline pages wire

/-- The loop over the capabilities, which counts those that fail; `none` where the run ends
with an exception. -/
def refreshCapabilities (deadline : Instant) :
    List IntelCapability → Nat → Wire → Option Nat × Wire
  | [], failures, wire => (some failures, wire)
  | _ :: rest, failures, wire =>
      match refreshCapability provider script deadline 5 wire with
      | (.done, wire) => refreshCapabilities deadline rest failures wire
      | (.raised error, wire) =>
          if error.IsIsolated then refreshCapabilities deadline rest (failures + 1) wire
          else (none, wire)
      | (.cancelled, wire) => (none, wire)

/-! ## Runs -/

/-- `status` of a run. -/
inductive RunStatus
  | ok | degraded | unavailable
deriving DecidableEq, Repr

/-- The columns of the provider state that the scheduler reads. -/
structure ProviderState where
  lastRunAt : Option Instant
  status : RunStatus
  freshnessMaxAgeSeconds : Option Nat
  freshnessMinIntervalSeconds : Option Nat

/-- `state.seconds or provider.seconds`, in microseconds. -/
def stateOr (seconds : Option Nat) (declared : Nat) : Int :=
  match seconds with
  | some (seconds + 1) => (seconds + 1) * 1000000
  | _ => declared

/-- `_is_due` -/
def isDue (state : Option ProviderState) (now : Instant) : Bool :=
  match state with
  | none => true
  | some state =>
      let maxAge := stateOr state.freshnessMaxAgeSeconds provider.maxAge
      let minInterval := stateOr state.freshnessMinIntervalSeconds provider.minInterval
      match state.lastRunAt, state.status with
      | none, _ => true
      | some lastRun, .unavailable => maxAge ≤ now - lastRun
      | some lastRun, _ => minInterval ≤ now - lastRun ∨ maxAge ≤ now - lastRun

/-- A refresh of the provider for one tenant. -/
structure Refresh where
  tenantId : Uuid
  /-- The time since the refresh before it. -/
  wait : Nat
  force : Bool := false
  /-- The capabilities of the run; `none` where their discovery fails. -/
  capabilities : Option (List IntelCapability)
  /-- The time of the discovery and of loading the credentials. -/
  preparation : Nat := 0
  /-- The state of the run is committed. -/
  recorded : Bool := true

/-- The requests and the provider state of each tenant. -/
structure World where
  wire : Wire
  states : Uuid → Option ProviderState

/-- `_record_run` -/
def World.recordRun (world : World) (refresh : Refresh) (status : RunStatus)
    (startedAt : Instant) : World :=
  if refresh.recorded then
    let state := ProviderState.mk (some startedAt) status (some (provider.maxAge / 1000000))
      (some (provider.minInterval / 1000000))
    { world with
      states := fun tenantId =>
        if tenantId = refresh.tenantId then some state else world.states tenantId }
  else world

/-- `status` of a run over so many capabilities. -/
def statusOf (capabilities : Nat) : Option Nat → RunStatus
  | some 0 => .ok
  | some failures => if failures = capabilities then .unavailable else .degraded
  | none => .unavailable

/-- `_refresh_provider` -/
def refreshProvider (runTimeout : Nat) (world : World) (refresh : Refresh) : World :=
  let startedAt := world.wire.clock + refresh.wait
  let started : World := { world with wire := { world.wire with clock := startedAt } }
  if ¬ refresh.force ∧ ¬ isDue provider (world.states refresh.tenantId) startedAt then started
  else
    match refresh.capabilities.getD [] with
    | [] => started.recordRun provider refresh .unavailable startedAt
    | capabilities =>
        let begunAt := startedAt + refresh.preparation
        let ended := refreshCapabilities provider script (begunAt + runTimeout) capabilities 0
          { world.wire with clock := begunAt }
        { world with wire := ended.2 }.recordRun provider refresh
          (statusOf capabilities.length ended.1) startedAt

end Provider

/-- The world after refreshes, where no request was sent before them. -/
def refreshAll (provider : IntelProvider) (script : Nat → Exchange) (runTimeout : Nat)
    (states : Uuid → Option ProviderState) (start : Instant) (refreshes : List Refresh) : World :=
  refreshes.foldl (refreshProvider provider script runTimeout) ⟨{ clock := start }, states⟩

/-- No request is sent inside the window of an earlier one. -/
def KeepsWindows (log : List Request) : Prop :=
  log.Pairwise fun later earlier => KeepsWindow earlier later

/-! ## What a request leaves behind -/

/-- The next request does not come before this one is done, and if the retry loop goes on
after it, not inside its window. -/
def Follows (later earlier : Request) : Prop :=
  earlier.doneAt ≤ later.sentAt ∧ (earlier.retried → KeepsWindow earlier later)

/-- The requests follow one another, and the next one may be sent now. -/
structure Wire.Sound (wire : Wire) : Prop where
  spans : ∀ request ∈ wire.log, request.sentAt ≤ request.doneAt
  follow : wire.log.IsChain Follows
  ready : ∀ request ∈ wire.log.head?, request.doneAt ≤ wire.clock ∧
    (request.retried → ∀ windowEnd ∈ request.windowEnd, windowEnd ≤ wire.clock)

namespace Wire.Sound

theorem later {wire : Wire} (sound : wire.Sound) {clock : Instant} (exchanges : Nat)
    (isLater : wire.clock ≤ clock) : Wire.Sound ⟨clock, exchanges, wire.log⟩ where
  spans := sound.spans
  follow := sound.follow
  ready request isLast := by
    obtain ⟨done, waited⟩ := sound.ready request isLast
    exact ⟨done.trans isLater, fun retried windowEnd isEnd =>
      (waited retried windowEnd isEnd).trans isLater⟩

/-- A request is sent, and the clock goes on. -/
theorem send {wire : Wire} (sound : wire.Sound) {request : Request} {clock : Instant}
    (exchanges : Nat) (afterwards : wire.clock ≤ request.sentAt)
    (spans : request.sentAt ≤ request.doneAt) (done : request.doneAt ≤ clock)
    (waited : request.retried → ∀ windowEnd ∈ request.windowEnd, windowEnd ≤ clock) :
    Wire.Sound ⟨clock, exchanges, request :: wire.log⟩ where
  spans := by
    rw [List.forall_mem_cons]
    exact ⟨spans, sound.spans⟩
  follow := by
    rw [List.isChain_cons]
    constructor
    · intro earlier isLast
      obtain ⟨earlierDone, earlierWaited⟩ := sound.ready earlier isLast
      exact ⟨earlierDone.trans afterwards, fun retried windowEnd isEnd =>
        (earlierWaited retried windowEnd isEnd).trans afterwards⟩
    · exact sound.follow
  ready last isLast := by
    cases isLast
    exact ⟨done, waited⟩

end Wire.Sound

section Provider

variable (provider : IntelProvider) (script : Nat → Exchange) (deadline : Instant)

theorem IntelProvider.delay_nonneg (attempt : Nat) (response : Response) :
    0 ≤ provider.delay attempt response := by
  have base : (0 : Int) ≤ max 100000 provider.retryBaseDelay * 2 ^ (attempt - 1) :=
    mul_nonneg (Int.natCast_nonneg _) (pow_nonneg (show (0 : Int) ≤ 2 by decide) _)
  fun_cases IntelProvider.delay provider attempt response with
  | case1 delay retryAfter positive => exact le_max_of_le_left base
  | case2 delay retryAfter notPositive => exact base
  | case3 delay other notLimited => exact base

theorem IntelProvider.retryAfter_le_delay (attempt : Nat) (retryAfter : Int) :
    retryAfter ≤ provider.delay attempt (.rateLimited (some retryAfter)) := by
  by_cases positive : 0 < retryAfter
  · simp [IntelProvider.delay, positive]
  · exact (not_lt.mp positive).trans (provider.delay_nonneg _ _)

/-- A retry comes after the window that a rate limit names. -/
theorem windowEnd_le_resume (attempt : Nat) (exchange : Exchange) (sentAt doneAt : Instant)
    (retried : Bool) :
    doneAt ≤ doneAt + provider.delay attempt exchange.response + exchange.jitter ∧
      ∀ windowEnd ∈ (Request.mk sentAt doneAt (some exchange.response) retried).windowEnd,
        windowEnd ≤ doneAt + provider.delay attempt exchange.response + exchange.jitter := by
  have jitter := Int.natCast_nonneg exchange.jitter
  have delay := provider.delay_nonneg attempt exchange.response
  constructor
  · exact (le_add_of_nonneg_right delay).trans (le_add_of_nonneg_right jitter)
  · intro windowEnd isEnd
    rw [Request.windowEnd] at isEnd
    split at isEnd
    · next retryAfter isLimited =>
        have window := provider.retryAfter_le_delay attempt retryAfter
        have answer : exchange.response = .rateLimited (some retryAfter) :=
          Option.some.inj isLimited
        rw [← answer] at window
        cases isEnd
        exact (Int.add_le_add_left window _).trans (le_add_of_nonneg_right jitter)
    · cases isEnd

/-- Every fetch leaves the next request free to be sent. -/
theorem fetchWithRetry_sound (remaining : Nat) : ∀ (attempt : Nat) (wire : Wire), wire.Sound →
    wire.clock ≤ deadline →
      (fetchWithRetry provider script deadline remaining attempt wire).2.Sound ∧
        (fetchWithRetry provider script deadline remaining attempt wire).2.clock ≤ deadline := by
  induction remaining with
  | zero =>
      intro attempt wire sound inTime
      exact ⟨sound, inTime⟩
  | succ remaining ih =>
      intro attempt wire sound inTime
      rw [fetchWithRetry]
      simp only
      have afterwards : wire.clock ≤ wire.clock + (script wire.exchanges).wait :=
        le_add_of_nonneg_right (Int.natCast_nonneg _)
      have spans : wire.clock + (script wire.exchanges).wait ≤
          wire.clock + (script wire.exchanges).wait + (script wire.exchanges).duration :=
        le_add_of_nonneg_right (Int.natCast_nonneg _)
      split
      · exact ⟨sound.later _ inTime, le_refl _⟩
      · next sentInTime =>
          split
          · exact ⟨sound.send _ afterwards (not_lt.mp sentInTime) (le_refl _) (by simp), le_refl _⟩
          · next doneInTime =>
              have resumes := windowEnd_le_resume provider attempt (script wire.exchanges)
                (wire.clock + (script wire.exchanges).wait)
                (wire.clock + (script wire.exchanges).wait + (script wire.exchanges).duration) true
              split
              · exact ⟨sound.send _ afterwards spans (le_refl _) (by simp), not_lt.mp doneInTime⟩
              · split
                · exact ⟨sound.send _ afterwards spans (le_refl _) (by simp),
                    not_lt.mp doneInTime⟩
                · split
                  · exact ⟨sound.send _ afterwards spans (not_lt.mp doneInTime) (by simp),
                      le_refl _⟩
                  · next resumesInTime =>
                      apply ih
                      · exact sound.send _ afterwards spans resumes.1 fun _ => resumes.2
                      · exact not_lt.mp resumesInTime

theorem refreshCapability_sound (pages : Nat) : ∀ wire : Wire, wire.Sound →
    wire.clock ≤ deadline →
      (refreshCapability provider script deadline pages wire).2.Sound ∧
        (refreshCapability provider script deadline pages wire).2.clock ≤ deadline := by
  induction pages with
  | zero =>
      intro wire sound inTime
      exact ⟨sound, inTime⟩
  | succ pages ih =>
      intro wire sound inTime
      have fetched := fetchWithRetry_sound provider script deadline
        (max 1 provider.retryMaxAttempts) 1 wire sound inTime
      rw [refreshCapability]
      split
      · next equal => rwa [equal] at fetched
      · next equal => rwa [equal] at fetched
      · next equal =>
          rw [equal] at fetched
          split
          · exact fetched
          · split
            · exact fetched
            · split
              · exact fetched
              · exact ih _ fetched.1 fetched.2

theorem refreshCapabilities_sound (capabilities : List IntelCapability) :
    ∀ (failures : Nat) (wire : Wire), wire.Sound → wire.clock ≤ deadline →
      (refreshCapabilities provider script deadline capabilities failures wire).2.Sound := by
  induction capabilities with
  | nil =>
      intro failures wire sound inTime
      exact sound
  | cons capability rest ih =>
      intro failures wire sound inTime
      have refreshed := refreshCapability_sound provider script deadline 5 wire sound inTime
      rw [refreshCapabilities]
      split
      · next equal =>
          rw [equal] at refreshed
          exact ih _ _ refreshed.1 refreshed.2
      · next equal =>
          rw [equal] at refreshed
          split
          · exact ih _ _ refreshed.1 refreshed.2
          · exact refreshed.1
      · next equal =>
          rw [equal] at refreshed
          exact refreshed.1

@[simp] theorem World.recordRun_wire (world : World) (refresh : Refresh) (status : RunStatus)
    (startedAt : Instant) :
    (world.recordRun provider refresh status startedAt).wire = world.wire := by
  rw [World.recordRun]
  split <;> rfl

/-- One step: a refresh leaves the next request free to be sent. -/
theorem refreshProvider_sound (runTimeout : Nat) (world : World) (refresh : Refresh)
    (sound : world.wire.Sound) :
    (refreshProvider provider script runTimeout world refresh).wire.Sound := by
  have waited : world.wire.clock ≤ world.wire.clock + refresh.wait :=
    le_add_of_nonneg_right (Int.natCast_nonneg _)
  have prepared : world.wire.clock ≤
      world.wire.clock + refresh.wait + refresh.preparation :=
    waited.trans (le_add_of_nonneg_right (Int.natCast_nonneg _))
  rw [refreshProvider]
  simp only
  split
  · exact sound.later _ waited
  · split
    · rw [World.recordRun_wire]
      exact sound.later _ waited
    · rw [World.recordRun_wire]
      exact refreshCapabilities_sound provider script _ _ _ _ (sound.later _ prepared)
        (le_add_of_nonneg_right (Int.natCast_nonneg _))

end Provider

/-- Runs: the requests of all refreshes follow one another. -/
theorem refreshAll_sound (provider : IntelProvider) (script : Nat → Exchange) (runTimeout : Nat)
    (states : Uuid → Option ProviderState) (start : Instant) (refreshes : List Refresh) :
    (refreshAll provider script runTimeout states start refreshes).wire.Sound := by
  have run (refreshes : List Refresh) : ∀ world : World, world.wire.Sound →
      (refreshes.foldl (refreshProvider provider script runTimeout) world).wire.Sound := by
    induction refreshes with
    | nil => exact fun _ sound => sound
    | cons refresh rest ih =>
        intro world sound
        exact ih _
          (refreshProvider_sound provider script runTimeout world refresh sound)
  apply run
  exact ⟨by simp, List.isChain_nil, by simp⟩

/-- A request between two others carries the order and the window on. -/
def KeepsOrder (later earlier : Request) : Prop :=
  later.sentAt ≤ later.doneAt ∧ earlier.doneAt ≤ later.sentAt ∧ KeepsWindow earlier later

instance : Trans KeepsOrder KeepsOrder KeepsOrder where
  trans := by
    intro last middle first lastKeeps middleKeeps
    obtain ⟨lastSpans, order, _⟩ := lastKeeps
    obtain ⟨middleSpans, firstOrder, window⟩ := middleKeeps
    have between := middleSpans.trans order
    exact ⟨lastSpans, firstOrder.trans between, fun windowEnd isEnd =>
      (window windowEnd isEnd).trans between⟩

theorem isChain_and {α : Type} {related other : α → α → Prop} {list : List α}
    (isChain : list.IsChain related) (isOther : list.IsChain other) :
    list.IsChain fun next item => related next item ∧ other next item := by
  induction list with
  | nil => exact List.isChain_nil
  | cons head tail ih =>
      rw [List.isChain_cons] at isChain isOther ⊢
      exact ⟨fun item isHead => ⟨isChain.1 item isHead, isOther.1 item isHead⟩,
        ih isChain.2 isOther.2⟩

/-- Where requests follow one another, it is enough to look at the one after each request
that the retry loop does not go on after. -/
theorem Wire.Sound.keepsWindows_iff {wire : Wire} (sound : wire.Sound) :
    KeepsWindows wire.log ↔
      wire.log.IsChain fun later earlier => ¬ earlier.retried → KeepsWindow earlier later := by
  constructor
  · intro keeps
    exact keeps.isChain.imp fun _ _ window _ => window
  · intro unretried
    have ordered : wire.log.IsChain KeepsOrder := by
      apply (isChain_and sound.follow unretried).imp_of_mem_imp
      intro later earlier isLater _ both
      obtain ⟨⟨order, retried⟩, notRetried⟩ := both
      refine ⟨sound.spans later isLater, order, ?_⟩
      by_cases isRetried : earlier.retried
      · exact retried isRetried
      · exact notRetried isRetried
    exact ordered.pairwise.imp fun keeps => keeps.2.2

/-- An exchange that takes a second and comes to a rate limit of two seconds. -/
def limitedExchange : Exchange := ⟨0, 1000000, .rateLimited (some 2000000), 0, true⟩

end FinanceSync.Intel
