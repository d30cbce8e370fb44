import FinanceSync.Sync.RateLimiter

/-!
# Retries under the limiter

The log of a call in its retry loop: each attempt follows a grant, there is one more at most
than the policy has retries, and after a rate-limit response none comes before the provider
allows it.
-/

namespace FinanceSync.Sync

open Lib Lib.SlidingWindow

/-! ## Logs of a call -/

namespace Entry

def attemptTime : Entry → Option ℚ
  | attempted time => some time
  | _ => none

/-- The time before which a rate-limit response allows no attempt. -/
def allowedAt : Entry → Option ℚ
  | answered time (.rateLimit (some retryAfter)) => some (time + retryAfter)
  | _ => none

end Entry

def attempts (log : List Entry) : Nat := log.countP fun entry => entry.attemptTime.isSome

/-- Directly before an attempt the call got a slot. -/
def AttemptsGranted (log : List Entry) : Prop :=
  ∀ before time after, log = before ++ .attempted time :: after →
    ∃ granted ≤ time, before.getLast? = some (.granted granted)

/-- No attempt comes before an earlier response allows it. -/
def Waits (log : List Entry) : Prop :=
  log.Pairwise fun earlier later =>
    ∀ allowed ∈ earlier.allowedAt, ∀ time ∈ later.attemptTime, allowed ≤ time

/-- By a time all responses allow an attempt. -/
def AllowedBy (time : ℚ) (log : List Entry) : Prop :=
  ∀ entry ∈ log, ∀ allowed ∈ entry.allowedAt, allowed ≤ time

/-- What the log of a call says of its phase. -/
def PhaseSound (policy : RateLimitPolicy) (clock : ℚ) (log : List Entry) : Phase → Prop
  | .idle => log = []
  | .acquiring attempt =>
      attempts log = attempt ∧ attempt ≤ policy.maxRetries ∧ AllowedBy clock log
  | .granted attempt =>
      attempts log = attempt ∧ attempt ≤ policy.maxRetries ∧ AllowedBy clock log ∧
        ∃ granted ≤ clock, log.getLast? = some (.granted granted)
  | .attempting attempt =>
      attempts log = attempt + 1 ∧ attempt ≤ policy.maxRetries ∧ AllowedBy clock log
  | .backingOff attempt wakeAt =>
      attempts log = attempt + 1 ∧ attempt < policy.maxRetries ∧
        AllowedBy (max clock wakeAt) log
  | .finished => attempts log ≤ policy.maxRetries + 1

/-- The log of a call is that of a retry loop that has come to a phase. -/
structure CallSound (policy : RateLimitPolicy) (clock : ℚ) (phase : Phase) (log : List Entry) :
    Prop where
  granted : AttemptsGranted log
  waits : Waits log
  phase : PhaseSound policy clock log phase

variable {policy : RateLimitPolicy} {clock now : ℚ} {phase : Phase} {log : List Entry}
  {attempt : Nat} {entry : Entry}

theorem attempts_append (log : List Entry) (entry : Entry) :
    attempts (log ++ [entry]) = attempts log + if entry.attemptTime.isSome then 1 else 0 := by
  rw [attempts, List.countP_append, List.countP_singleton]
  rfl

theorem AttemptsGranted.append (granted : AttemptsGranted log)
    (last : ∀ time, entry = .attempted time →
      ∃ granted ≤ time, log.getLast? = some (.granted granted)) :
    AttemptsGranted (log ++ [entry]) := by
  intro before time after split
  rcases List.eq_nil_or_concat after with isLast | ⟨rest, final, notLast⟩
  · rw [isLast] at split
    obtain ⟨sameLog, sameEntry⟩ := List.append_inj' split rfl
    rw [← sameLog]
    exact last time (List.head_eq_of_cons_eq sameEntry)
  · rw [notLast, List.concat_eq_append, ← List.cons_append, ← List.append_assoc] at split
    exact granted before time rest (List.append_inj' split rfl).1

theorem Waits.append (waits : Waits log)
    (allowed : ∀ time ∈ entry.attemptTime, AllowedBy time log) : Waits (log ++ [entry]) := by
  rw [Waits, List.pairwise_append]
  refine ⟨waits, List.pairwise_singleton _ _, ?_⟩
  intro earlier member later isLater allowedAt isAllowed time isTime
  rw [List.mem_singleton.mp isLater] at isTime
  exact allowed time isTime earlier member allowedAt isAllowed

theorem AllowedBy.append (allowed : AllowedBy now log)
    (own : ∀ allowedAt ∈ entry.allowedAt, allowedAt ≤ now) : AllowedBy now (log ++ [entry]) := by
  rw [AllowedBy, List.forall_mem_append, List.forall_mem_singleton]
  exact ⟨allowed, own⟩

theorem AllowedBy.mono (allowed : AllowedBy clock log) (passes : clock ≤ now) :
    AllowedBy now log :=
  fun entry member allowedAt isAllowed =>
    (allowed entry member allowedAt isAllowed).trans passes

namespace CallSound

theorem idle (policy : RateLimitPolicy) (clock : ℚ) : CallSound policy clock .idle [] where
  granted before time after split := by
    have absurdity := congrArg List.length split
    simp at absurdity
  waits := List.Pairwise.nil
  phase := rfl

theorem few (sound : CallSound policy clock phase log) :
    attempts log ≤ policy.maxRetries + 1 := by
  have isSound := sound.phase
  cases phase with
  | idle => rw [show log = [] from isSound]; exact Nat.zero_le _
  | acquiring attempt => exact isSound.1.trans_le (isSound.2.1.trans (Nat.le_succ _))
  | granted attempt => exact isSound.1.trans_le (isSound.2.1.trans (Nat.le_succ _))
  | attempting attempt => exact isSound.1.trans_le (Nat.succ_le_succ isSound.2.1)
  | backingOff attempt wakeAt => exact isSound.1.trans_le (Nat.succ_le_succ isSound.2.1.le)
  | finished => exact isSound

/-- Time passes. -/
theorem mono (sound : CallSound policy clock phase log) (passes : clock ≤ now) :
    CallSound policy now phase log where
  granted := sound.granted
  waits := sound.waits
  phase := by
    have isSound := sound.phase
    cases phase with
    | idle => exact isSound
    | acquiring attempt => exact ⟨isSound.1, isSound.2.1, isSound.2.2.mono passes⟩
    | granted attempt =>
        obtain ⟨counted, few, allowed, time, past, last⟩ := isSound
        exact ⟨counted, few, allowed.mono passes, time, past.trans passes, last⟩
    | attempting attempt => exact ⟨isSound.1, isSound.2.1, isSound.2.2.mono passes⟩
    | backingOff attempt wakeAt =>
        exact ⟨isSound.1, isSound.2.1, isSound.2.2.mono (max_le_max_right wakeAt passes)⟩
    | finished => exact isSound

theorem start (sound : CallSound policy clock .idle log) :
    CallSound policy clock (.acquiring 0) log := by
  have empty : log = [] := sound.phase
  refine ⟨sound.granted, sound.waits, ?_⟩
  rw [empty]
  exact ⟨rfl, Nat.zero_le _, fun _ member => absurd member List.not_mem_nil⟩

theorem grant (sound : CallSound policy clock (.acquiring attempt) log) (passes : clock ≤ now) :
    CallSound policy now (.granted attempt) (log ++ [.granted now]) := by
  obtain ⟨counted, few, allowed⟩ := sound.phase
  refine ⟨sound.granted.append nofun, sound.waits.append nofun, ?_, few, ?_, now, le_rfl, ?_⟩
  · rw [attempts_append, counted]
    rfl
  · exact (allowed.mono passes).append nofun
  · exact List.getLast?_concat

theorem request (sound : CallSound policy clock (.granted attempt) log) (passes : clock ≤ now) :
    CallSound policy now (.attempting attempt) (log ++ [.attempted now]) := by
  obtain ⟨counted, few, allowed, granted, past, last⟩ := sound.phase
  refine ⟨sound.granted.append ?_, sound.waits.append ?_, ?_, few, ?_⟩
  · intro time isAttempt
    obtain rfl := Entry.attempted.inj isAttempt
    exact ⟨granted, past.trans passes, last⟩
  · intro time isTime
    obtain rfl := Option.some_inj.mp isTime
    exact allowed.mono passes
  · rw [attempts_append, counted]
    rfl
  · exact (allowed.mono passes).append nofun

/-- The delay after a response is never shorter than the provider asks for. -/
theorem allowedAt_le_delay {response : Response} {factor : ℚ} :
    ∀ allowed ∈ (Entry.answered now response).allowedAt,
      allowed ≤ now + policy.delayAfter attempt factor response := by
  intro allowed isAllowed
  cases response with
  | rateLimit retryAfter =>
      cases retryAfter with
      | none => cases isAllowed
      | some retryAfter =>
          obtain rfl := Option.some_inj.mp isAllowed
          exact add_le_add_right (le_max_right _ _) now
  | _ => cases isAllowed

/-- An answer is logged, and a retry that follows waits for what it allows. -/
theorem answered (sound : CallSound policy clock (.attempting attempt) log) (passes : clock ≤ now)
    (response : Response) (factor : ℚ) :
    CallSound policy now (LimiterState.phaseAfter policy attempt response factor now)
      (log ++ [.answered now response]) := by
  obtain ⟨counted, few, allowed⟩ := sound.phase
  have sameAttempts : attempts (log ++ [.answered now response]) = attempt + 1 := by
    rw [attempts_append, counted]
    rfl
  have ends : PhaseSound policy now (log ++ [.answered now response]) .finished :=
    sameAttempts.trans_le (Nat.succ_le_succ few)
  have delays : attempt < policy.maxRetries →
      PhaseSound policy now (log ++ [.answered now response])
        (.backingOff attempt (now + policy.delayAfter attempt factor response)) := by
    intro retries
    refine ⟨sameAttempts, retries, ?_⟩
    apply AllowedBy.append
    · exact allowed.mono (passes.trans (le_max_left _ _))
    · intro allowedAt isAllowed
      exact (allowedAt_le_delay allowedAt isAllowed).trans (le_max_right _ _)
  refine ⟨sound.granted.append nofun, sound.waits.append nofun, ?_⟩
  cases response with
  | success => exact ends
  | permanent => exact ends
  | _ =>
      simp only [LimiterState.phaseAfter]
      split
      · next retries => exact delays retries
      · exact ends

theorem finish (sound : CallSound policy clock phase log) : CallSound policy clock .finished log :=
  ⟨sound.granted, sound.waits, sound.few⟩

theorem resume {wakeAt : ℚ} (sound : CallSound policy clock (.backingOff attempt wakeAt) log)
    (slept : wakeAt ≤ now) (passes : clock ≤ now) :
    CallSound policy now (.acquiring (attempt + 1)) log := by
  obtain ⟨counted, few, allowed⟩ := sound.phase
  exact ⟨sound.granted, sound.waits, counted, few, allowed.mono (max_le passes slept)⟩

end CallSound

/-! ## All calls -/

section Calls

variable {Call : Type} [DecidableEq Call] {state : LimiterState Call} {call : Call}
  {times : List ℚ}

theorem callLog_append (other : Call) (entries : List Entry) :
    (state.log ++ entries.map fun entry => (call, entry)).filterMap (fun entry =>
        if entry.1 = other then some entry.2 else none) =
      state.callLog other ++ if call = other then entries else [] := by
  rw [List.filterMap_append, List.filterMap_map]
  apply congrArg (state.callLog other ++ ·)
  by_cases same : call = other
  · rw [if_pos same]
    exact (List.filterMap_congr fun entry _ => if_pos same).trans List.filterMap_some
  · rw [if_neg same]
    exact List.filterMap_eq_nil_iff.mpr fun entry _ => if_neg same

/-- The logs of all calls are sound, and the call that sleeps with the lock waits for a slot. -/
structure Retrying (policy : RateLimitPolicy) (state : LimiterState Call) : Prop where
  calls : ∀ call, CallSound policy state.clock (state.phase call) (state.callLog call)
  sleeping : ∀ sleeper ∈ state.sleeper, state.phase sleeper.call = .acquiring sleeper.attempt

theorem retrying_initial (clock : ℚ) : Retrying policy ({ clock } : LimiterState Call) where
  calls _ := CallSound.idle policy clock
  sleeping _ member := nomatch member

namespace Retrying

/-- One call goes on, the others stay where they are. -/
theorem calls_move (retrying : Retrying policy state) (passes : state.clock ≤ now) {phase : Phase}
    {entries : List Entry} (sound : CallSound policy now phase (state.callLog call ++ entries))
    (other : Call) :
    CallSound policy now ((state.move call phase now entries).phase other)
      ((state.move call phase now entries).callLog other) := by
  have sameLog : (state.move call phase now entries).callLog other =
      state.callLog other ++ if call = other then entries else [] := callLog_append other entries
  rw [sameLog]
  by_cases same : call = other
  · have ownPhase : (state.move call phase now entries).phase call = phase := by
      simp only [LimiterState.move, Function.update_self]
    rw [← same, if_pos rfl, ownPhase]
    exact sound
  · have otherPhase : (state.move call phase now entries).phase other = state.phase other := by
      simp only [LimiterState.move, Function.update_of_ne (Ne.symm same)]
    rw [if_neg same, List.append_nil, otherPhase]
    exact (retrying.calls other).mono passes

/-- A call that does not wait for a slot goes on. -/
theorem move (retrying : Retrying policy state) (passes : state.clock ≤ now) {phase : Phase}
    {entries : List Entry} (sound : CallSound policy now phase (state.callLog call ++ entries))
    (notWaiting : ∀ attempt, state.phase call ≠ .acquiring attempt) :
    Retrying policy (state.move call phase now entries) where
  calls := retrying.calls_move passes sound
  sleeping := by
    intro sleeper isSleeper
    have waits := retrying.sleeping sleeper isSleeper
    have ne : sleeper.call ≠ call := fun same => notWaiting sleeper.attempt (same ▸ waits)
    exact (Function.update_of_ne ne _ _).trans waits

/-- A call that waits for a slot gets it. -/
theorem appendTime (retrying : Retrying policy state)
    (waiting : state.phase call = .acquiring attempt) (passes : state.clock ≤ now) :
    Retrying policy (state.appendTime call attempt times now) where
  calls := by
    have sound := retrying.calls call
    rw [waiting] at sound
    exact retrying.calls_move passes (sound.grant passes)
  sleeping _ member := nomatch member

theorem enter (retrying : Retrying policy state) (waiting : state.phase call = .acquiring attempt)
    {ticks : Nat → ℚ} (free : state.sleeper = none) (shows : Shows state.clock ticks) :
    Retrying policy (state.enter policy call attempt ticks) := by
  have later : ∀ index, state.clock ≤ ticks index :=
    fun index => shows.starts.trans (shows.ordered (Nat.zero_le index))
  simp only [LimiterState.enter]
  split
  · have granted : Retrying policy (state.appendTime call attempt [] (ticks 0)) :=
      retrying.appendTime waiting shows.starts
    refine ⟨granted.calls, ?_⟩
    intro sleeper isSleeper
    have held : sleeper ∈ state.sleeper := isSleeper
    rw [free] at held
    cases held
  · split
    · split
      · refine ⟨fun other => (retrying.calls other).mono shows.starts, ?_⟩
        intro sleeper isSleeper
        obtain rfl := Option.some_inj.mp isSleeper
        exact waiting
      · exact retrying.appendTime waiting (later _)
    · exact retrying.appendTime waiting (later 1)

/-- Every step leaves the logs sound. -/
theorem step (retrying : Retrying policy state) {event : LimiterEvent Call}
    (enabled : Enabled policy state event) : Retrying policy (limiterStep policy state event) := by
  cases event with
  | start call =>
      have idle : state.phase call = .idle := enabled
      have sound := retrying.calls call
      rw [idle] at sound
      apply retrying.move le_rfl
      · rw [List.append_nil]
        exact sound.start
      · intro attempt
        rw [idle]
        exact Phase.noConfusion
  | enter call ticks =>
      rw [limiterStep]
      split
      · next attempt waiting => exact retrying.enter waiting enabled.1 enabled.2
      · exact retrying
  | wake ticks =>
      rw [limiterStep]
      split
      · next sleeper isSleeper =>
          apply retrying.appendTime (retrying.sleeping sleeper isSleeper)
          exact enabled.2.starts.trans (enabled.2.ordered (Nat.zero_le _))
      · exact retrying
  | attempt call now =>
      rw [limiterStep]
      split
      · next attempt granted =>
          have sound := retrying.calls call
          rw [granted] at sound
          apply retrying.move enabled (sound.request enabled)
          intro other
          rw [granted]
          exact Phase.noConfusion
      · exact retrying
  | answer call response factor now =>
      rw [limiterStep]
      split
      · next attempt attempting =>
          have sound := retrying.calls call
          rw [attempting] at sound
          apply retrying.move enabled.2
          · exact sound.answered enabled.2 response factor
          · intro other
            rw [attempting]
            exact Phase.noConfusion
      · exact retrying
  | resume call now =>
      rw [limiterStep]
      split
      · next attempt wakeAt backingOff =>
          have sound := retrying.calls call
          rw [backingOff] at sound
          apply retrying.move enabled.2
          · rw [List.append_nil]
            exact sound.resume (enabled.1 attempt wakeAt backingOff) enabled.2
          · intro other
            rw [backingOff]
            exact Phase.noConfusion
      · exact retrying
  | stop call now =>
      have passes : state.clock ≤ now := enabled
      have sound := ((retrying.calls call).mono passes).finish
      rw [← List.append_nil (state.callLog call)] at sound
      refine ⟨retrying.calls_move passes sound, ?_⟩
      intro sleeper isSleeper
      obtain ⟨held, ne⟩ := Option.mem_filter_iff.mp isSleeper
      rw [decide_eq_true_eq] at ne
      exact (Function.update_of_ne ne _ _).trans (retrying.sleeping sleeper held)

end Retrying

end Calls

/-! ## Runs -/

section Runs

variable {Call : Type} [DecidableEq Call]

/-- No window has more grants than the policy allows, a call sleeps only after a full window,
and each call's attempts are few, granted and late enough. -/
structure KeepsLimits (policy : RateLimitPolicy) (state : LimiterState Call) : Prop where
  window : ∀ start,
    (within start policy.windowSeconds state.grants).length ≤ policy.maxRequests
  sleeps : ∀ sleeper ∈ state.sleeper,
    policy.maxRequests ≤ (preceding policy.windowSeconds sleeper.since state.grants).length
  few : ∀ call, attempts (state.callLog call) ≤ policy.maxRetries + 1
  granted : ∀ call, AttemptsGranted (state.callLog call)
  waits : ∀ call, Waits (state.callLog call)

/-- In every run of any number of calls the limiter keeps its window and the retries their
bounds. -/
theorem rate_limiter_keepsLimits (policy : RateLimitPolicy) (positive : 1 ≤ policy.maxRequests)
    (clock : ℚ) (events : List (LimiterEvent Call))
    (enabled : Along (limiterStep policy) (Enabled policy) { clock } events) :
    KeepsLimits policy (runAll (limiterStep policy) { clock } events) := by
  have limited : Limited policy (runAll (limiterStep policy) { clock } events) :=
    runAll_invariant (fun _ _ limited isEnabled => limited.step positive isEnabled) events
      (limited_initial clock) enabled
  have retrying : Retrying policy (runAll (limiterStep policy) { clock } events) :=
    runAll_invariant (fun _ _ retrying isEnabled => retrying.step isEnabled) events
      (retrying_initial clock) enabled
  exact {
    window := limited.bounded
    sleeps := fun sleeper isSleeper => (limited.sleeping sleeper isSleeper).full
    few := fun call => (retrying.calls call).few
    granted := fun call => (retrying.calls call).granted
    waits := fun call => (retrying.calls call).waits }

/-- With one request a minute, the second of two calls sleeps until the first is a minute ago. -/
theorem second_call_keepsLimits :
    KeepsLimits { maxRequests := 1 } (runAll (limiterStep { maxRequests := 1 })
      ({ clock := 0 } : LimiterState Bool)
      [.start false, .enter false fun _ => 0, .start true, .enter true fun _ => 1,
        .wake fun _ => 60]) := by
  apply rate_limiter_keepsLimits _ le_rfl
  refine ⟨rfl, ⟨rfl, ?_, monotone_const⟩, rfl, ⟨rfl, ?_, monotone_const⟩,
    ⟨?_, ?_, monotone_const⟩, trivial⟩
  all_goals decide +kernel

end Runs

end FinanceSync.Sync
