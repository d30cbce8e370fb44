import FinanceSync.Lib.Run
import FinanceSync.Lib.SlidingWindow
import Mathlib.Algebra.Order.Field.Rat
import Mathlib.Logic.Function.Basic
import Mathlib.Tactic.Linarith

/-!
# Rate limiter

Any number of calls acquire slots of one limiter under a lock, once or in a retry loop, and
read a clock that never goes back.  A call with the lock that finds the window full sleeps with
it until the oldest time falls out.
-/

namespace FinanceSync.Sync

open Lib Lib.SlidingWindow

/-! ## Policy -/

/-- Declarative rate-limit policy for a connector. -/
structure RateLimitPolicy where
  maxRequests : Nat := 60
  windowSeconds : ℚ := 60
  backoffBase : ℚ := 1
  backoffCap : ℚ := 120
  maxRetries : Nat := 5
  jitter : ℚ := 1 / 10

/-- What an attempt ends with. -/
inductive Response
  | success
  | rateLimit (retryAfter : Option ℚ)
  | transient
  | permanent
  | unknown

namespace RateLimitPolicy

variable (policy : RateLimitPolicy)

/-- The delay for a retry attempt, with a factor for the jitter. -/
def backoffDelay (attempt : Nat) (factor : ℚ) : ℚ :=
  min (policy.backoffBase * 2 ^ attempt) policy.backoffCap * factor

/-- `Retry-After` is never shortened. -/
def delayAfter (attempt : Nat) (factor : ℚ) : Response → ℚ
  | .rateLimit (some retryAfter) => max (policy.backoffDelay attempt factor) retryAfter
  | _ => policy.backoffDelay attempt factor

end RateLimitPolicy

/-! ## State -/

/-- What is logged of a call, with its time. -/
inductive Entry
  | granted (time : ℚ)
  | attempted (time : ℚ)
  | answered (time : ℚ) (response : Response)

/-- The time of a grant. -/
def Entry.grantTime : Entry → Option ℚ
  | .granted time => some time
  | _ => none

/-- Where a call is: it waits for a slot or sleeps with the lock, has one, runs its request, or
sleeps until its next attempt.  The number is that of the attempt. -/
inductive Phase
  | idle
  | acquiring (attempt : Nat)
  | granted (attempt : Nat)
  | attempting (attempt : Nat)
  | backingOff (attempt : Nat) (wakeAt : ℚ)
  | finished

/-- The call that sleeps with the lock. -/
structure Sleeper (Call : Type) where
  call : Call
  attempt : Nat
  since : ℚ
  sleepFor : ℚ

/-- The limiter and its calls, with the last reading of the clock and a log. -/
structure LimiterState (Call : Type) where
  requestTimes : List ℚ := []
  sleeper : Option (Sleeper Call) := none
  clock : ℚ
  phase : Call → Phase := fun _ => .idle
  log : List (Call × Entry) := []

namespace LimiterState

variable {Call : Type} [DecidableEq Call]

/-- The times of all grants. -/
def grants (state : LimiterState Call) : List ℚ :=
  state.log.filterMap fun entry => entry.2.grantTime

/-- What is logged of one call. -/
def callLog (state : LimiterState Call) (call : Call) : List Entry :=
  state.log.filterMap fun entry => if entry.1 = call then some entry.2 else none

/-- A call goes on to a phase at a time. -/
def move (state : LimiterState Call) (call : Call) (phase : Phase) (now : ℚ)
    (entries : List Entry) : LimiterState Call :=
  { state with
    clock := now
    phase := Function.update state.phase call phase
    log := state.log ++ entries.map fun entry => (call, entry) }

/-! ## Acquiring -/

/-- The pruning after a sleep reads the clock for each time. -/
def reprune (window : ℚ) (ticks : Nat → ℚ) (times : List ℚ) : List ℚ :=
  (times.zipIdx.filter fun entry => ticks entry.2 - window < entry.1).map Prod.fst

/-- `self._request_times.append(_monotonic())`, and the lock is free. -/
def appendTime (state : LimiterState Call) (call : Call) (attempt : Nat) (times : List ℚ)
    (now : ℚ) : LimiterState Call :=
  { state.move call (.granted attempt) now [.granted now] with
    requestTimes := times ++ [now]
    sleeper := none }

variable (policy : RateLimitPolicy)

/-- `acquire` up to its sleep or its end, with the readings of the clock. -/
def enter (state : LimiterState Call) (call : Call) (attempt : Nat) (ticks : Nat → ℚ) :
    LimiterState Call :=
  if policy.maxRequests = 0 then
    state.move call (.granted attempt) (ticks 0) [.granted (ticks 0)]
  else
    let now := ticks 0
    let recent := newerThan (now - policy.windowSeconds) state.requestTimes
    if policy.maxRequests ≤ recent.length then
      let sleepFor := recent.headD 0 + policy.windowSeconds - now
      if 0 < sleepFor then
        { state with
          clock := now
          requestTimes := recent
          sleeper := some { call, attempt, since := now, sleepFor } }
      else
        state.appendTime call attempt
          (reprune policy.windowSeconds (fun index => ticks (index + 1)) recent)
          (ticks (recent.length + 1))
    else state.appendTime call attempt recent (ticks 1)

/-- `acquire` after its sleep. -/
def wake (state : LimiterState Call) (sleeper : Sleeper Call) (ticks : Nat → ℚ) :
    LimiterState Call :=
  state.appendTime sleeper.call sleeper.attempt
    (reprune policy.windowSeconds ticks state.requestTimes) (ticks state.requestTimes.length)

/-! ## Retrying -/

/-- An answer ends the call, or a delay begins. -/
def phaseAfter (attempt : Nat) (response : Response) (factor now : ℚ) : Phase :=
  match response with
  | .success | .permanent => .finished
  | _ =>
      if attempt < policy.maxRetries then
        .backingOff attempt (now + policy.delayAfter attempt factor response)
      else .finished

def answer (state : LimiterState Call) (call : Call) (attempt : Nat) (response : Response)
    (factor now : ℚ) : LimiterState Call :=
  state.move call (phaseAfter policy attempt response factor now) now [.answered now response]

/-- A call is cancelled, or one that only acquires goes on with its slot.  A lock that it holds
is released. -/
def stop (state : LimiterState Call) (call : Call) (now : ℚ) : LimiterState Call :=
  { state.move call .finished now [] with
    sleeper := state.sleeper.filter fun sleeper => sleeper.call ≠ call }

end LimiterState

/-! ## Steps -/

/-- What happens next, with what the clock shows. -/
inductive LimiterEvent (Call : Type)
  | start (call : Call)
  | enter (call : Call) (ticks : Nat → ℚ)
  | wake (ticks : Nat → ℚ)
  | attempt (call : Call) (now : ℚ)
  | answer (call : Call) (response : Response) (factor now : ℚ)
  | resume (call : Call) (now : ℚ)
  | stop (call : Call) (now : ℚ)

section Steps

variable {Call : Type} [DecidableEq Call] (policy : RateLimitPolicy)

open LimiterState

def limiterStep (state : LimiterState Call) : LimiterEvent Call → LimiterState Call
  | .start call => state.move call (.acquiring 0) state.clock []
  | .enter call ticks =>
      match state.phase call with
      | .acquiring attempt => state.enter policy call attempt ticks
      | _ => state
  | .wake ticks =>
      match state.sleeper with
      | some sleeper => state.wake policy sleeper ticks
      | none => state
  | .attempt call now =>
      match state.phase call with
      | .granted attempt => state.move call (.attempting attempt) now [.attempted now]
      | _ => state
  | .answer call response factor now =>
      match state.phase call with
      | .attempting attempt => state.answer policy call attempt response factor now
      | _ => state
  | .resume call now =>
      match state.phase call with
      | .backingOff attempt _ => state.move call (.acquiring (attempt + 1)) now []
      | _ => state
  | .stop call now => state.stop call now

/-- The clock shows these readings one after another. -/
structure Shows (clock : ℚ) (ticks : Nat → ℚ) : Prop where
  starts : clock ≤ ticks 0
  ordered : Monotone ticks

/-- What can happen: the lock is taken when it is free, the clock never goes back, and a sleep
takes at least as long as requested. -/
def Enabled (state : LimiterState Call) : LimiterEvent Call → Prop
  | .start call => state.phase call = .idle
  | .enter _ ticks => state.sleeper = none ∧ Shows state.clock ticks
  | .wake ticks => (∀ sleeper ∈ state.sleeper, sleeper.since + sleeper.sleepFor ≤ ticks 0) ∧
      Shows state.clock ticks
  | .attempt _ now => state.clock ≤ now
  | .answer _ _ factor now => |factor - 1| ≤ |policy.jitter| ∧ state.clock ≤ now
  | .resume call now => (∀ attempt wakeAt, state.phase call = .backingOff attempt wakeAt →
      wakeAt ≤ now) ∧ state.clock ≤ now
  | .stop _ now => state.clock ≤ now

end Steps

/-! ## Pruning -/

section Pruning

variable {window : ℚ} {ticks : Nat → ℚ} {times : List ℚ}

theorem reprune_sublist : (LimiterState.reprune window ticks times).Sublist times := by
  have sublist := (List.filter_sublist (p := fun entry : ℚ × Nat =>
    ticks entry.2 - window < entry.1) (l := times.zipIdx)).map Prod.fst
  rwa [List.zipIdx_map_fst] at sublist

/-- The pruning keeps the times that are in the window at its last reading. -/
theorem newerThan_sublist_reprune (ordered : Monotone ticks) :
    (newerThan (ticks times.length - window) times).Sublist
      (LimiterState.reprune window ticks times) := by
  have indexed : newerThan (ticks times.length - window) times =
      (times.zipIdx.filter fun entry => ticks times.length - window < entry.1).map Prod.fst := by
    have mapped := List.filter_map (f := Prod.fst) (p := fun time : ℚ =>
      decide (ticks times.length - window < time)) (l := times.zipIdx)
    rw [List.zipIdx_map_fst] at mapped
    exact mapped
  have kept : (times.zipIdx.filter fun entry => ticks times.length - window < entry.1) =
      (times.zipIdx.filter fun entry => ticks entry.2 - window < entry.1).filter fun entry =>
        ticks times.length - window < entry.1 := by
    rw [List.filter_filter]
    apply List.filter_congr
    intro entry member
    have earlier : ticks entry.2 ≤ ticks times.length :=
      ordered (List.snd_lt_of_mem_zipIdx member).le
    by_cases newer : ticks times.length - window < entry.1
    · simp [newer, (sub_le_sub_right earlier window).trans_lt newer]
    · simp [newer]
  rw [indexed, kept, LimiterState.reprune]
  exact List.filter_sublist.map Prod.fst

/-- A first time that has fallen out is dropped. -/
theorem length_reprune_lt {oldest : ℚ} (out : oldest + window ≤ ticks 0) :
    (LimiterState.reprune window ticks (oldest :: times)).length < (oldest :: times).length := by
  have dropped : ¬ ticks 0 - window < oldest := not_lt.mpr (le_sub_iff_add_le.mpr out)
  rw [LimiterState.reprune, List.zipIdx_cons, List.filter_cons_of_neg (by simpa using dropped),
    List.length_map, List.length_cons]
  exact Nat.lt_succ_of_le ((List.length_filter_le _ _).trans (List.length_zipIdx).le)

end Pruning

/-! ## The window -/

section Window

variable {Call : Type} {policy : RateLimitPolicy} {state next : LimiterState Call} {call : Call}
  {attempt : Nat} {now : ℚ} {times : List ℚ}

/-- A call that sleeps found the window full, and sleeps until the first time is out. -/
structure Asleep (policy : RateLimitPolicy) (grants times : List ℚ) (sleeper : Sleeper Call) :
    Prop where
  full : policy.maxRequests ≤ (preceding policy.windowSeconds sleeper.since grants).length
  until_out : ∃ oldest rest, times = oldest :: rest ∧
    oldest + policy.windowSeconds = sleeper.since + sleeper.sleepFor

/-- The grants are in the past, those of the window are kept, and no window has too many. -/
structure Limited (policy : RateLimitPolicy) (state : LimiterState Call) : Prop where
  past : ∀ time ∈ state.grants, time ≤ state.clock
  tracks : Tracks policy.windowSeconds state.clock state.grants state.requestTimes
  few : state.requestTimes.length ≤ policy.maxRequests
  bounded : ∀ start,
    (within start policy.windowSeconds state.grants).length ≤ policy.maxRequests
  sleeping : ∀ sleeper ∈ state.sleeper, Asleep policy state.grants state.requestTimes sleeper

theorem limited_initial (clock : ℚ) : Limited policy ({ clock } : LimiterState Call) where
  past _ member := absurd member List.not_mem_nil
  tracks := Tracks.empty _ _
  few := Nat.zero_le _
  bounded _ := Nat.zero_le _
  sleeping _ member := nomatch member

namespace Limited

/-- What grants nothing and keeps the times keeps to the limit. -/
theorem frame (limited : Limited policy state) (sameGrants : next.grants = state.grants)
    (sameTimes : next.requestTimes = state.requestTimes)
    (sleepers : ∀ sleeper ∈ next.sleeper, sleeper ∈ state.sleeper)
    (passes : state.clock ≤ next.clock) : Limited policy next where
  past := by
    intro time member
    rw [sameGrants] at member
    exact (limited.past time member).trans passes
  tracks := by
    rw [sameGrants, sameTimes]
    exact limited.tracks.mono passes
  few := by
    rw [sameTimes]
    exact limited.few
  bounded := by
    rw [sameGrants]
    exact limited.bounded
  sleeping := by
    intro sleeper member
    rw [sameGrants, sameTimes]
    exact limited.sleeping sleeper (sleepers sleeper member)

end Limited

theorem grants_append (entries : List Entry) :
    (state.log ++ entries.map fun entry => (call, entry)).filterMap (fun entry =>
        entry.2.grantTime) = state.grants ++ entries.filterMap Entry.grantTime := by
  rw [List.filterMap_append, List.filterMap_map]
  rfl

variable [DecidableEq Call]

theorem grants_move {phase : Phase} {entries : List Entry} :
    (state.move call phase now entries).grants =
      state.grants ++ entries.filterMap Entry.grantTime :=
  grants_append entries

theorem grants_appendTime :
    (state.appendTime call attempt times now).grants = state.grants ++ [now] :=
  grants_append [.granted now]

namespace Limited

theorem move (limited : Limited policy state) {phase : Phase} {entries : List Entry}
    (noGrant : entries.filterMap Entry.grantTime = []) (passes : state.clock ≤ now) :
    Limited policy (state.move call phase now entries) := by
  refine limited.frame ?_ rfl (fun _ member => member) passes
  rw [grants_move, noGrant, List.append_nil]

/-- A slot is granted while fewer times are kept than the limit. -/
theorem appendTime (limited : Limited policy state) (passes : state.clock ≤ now)
    (tracks : Tracks policy.windowSeconds now state.grants times)
    (room : times.length < policy.maxRequests) :
    Limited policy (state.appendTime call attempt times now) where
  past := by
    intro time member
    rw [grants_appendTime, List.mem_append, List.mem_singleton] at member
    rcases member with earlier | isNow
    · exact (limited.past time earlier).trans passes
    · exact isNow.le
  tracks := by
    rw [grants_appendTime]
    exact tracks.push le_rfl
  few := by
    rw [LimiterState.appendTime, List.length_append]
    exact Nat.succ_le_of_lt room
  bounded := by
    rw [grants_appendTime]
    exact tracks.within_push limited.bounded room
  sleeping _ member := nomatch member

/-- A call that takes the lock gets a slot or sleeps. -/
theorem enter (limited : Limited policy state) (positive : 1 ≤ policy.maxRequests)
    {ticks : Nat → ℚ} (shows : Shows state.clock ticks) :
    Limited policy (state.enter policy call attempt ticks) := by
  have tracks := (limited.tracks.mono shows.starts).prune
  have past : ∀ time ∈ state.grants, time ≤ ticks 0 :=
    fun time member => (limited.past time member).trans shows.starts
  simp only [LimiterState.enter, if_neg (Nat.one_le_iff_ne_zero.mp positive)]
  split
  · next full =>
      -- The first of the recent times is in the window, so that the call sleeps.
      cases recent : newerThan (ticks 0 - policy.windowSeconds) state.requestTimes with
      | nil =>
          rw [recent, List.length_nil] at full
          omega
      | cons oldest rest =>
          have isRecent : oldest ∈ newerThan (ticks 0 - policy.windowSeconds)
              state.requestTimes := recent ▸ List.mem_cons_self
          have inWindow : ticks 0 - policy.windowSeconds < oldest := by
            simpa using List.of_mem_filter isRecent
          have sleeps : 0 < (oldest :: rest).headD 0 + policy.windowSeconds - ticks 0 := by
            rw [List.headD_cons]
            linarith
          rw [if_pos sleeps]
          have counted := (limited.tracks.mono shows.starts).length_newerThan_le past
          rw [recent] at tracks counted full
          have fewer : (oldest :: rest).length ≤ policy.maxRequests := by
            rw [← recent]
            exact (List.length_filter_le _ _).trans limited.few
          refine ⟨past, tracks, fewer, limited.bounded, ?_⟩
          intro sleeper isSleeper
          obtain rfl := Option.some_inj.mp isSleeper
          refine ⟨full.trans counted, oldest, rest, rfl, ?_⟩
          simp
  · next room =>
      have stamped : ticks 0 ≤ ticks 1 := shows.ordered (Nat.zero_le 1)
      exact limited.appendTime (shows.starts.trans stamped) (tracks.mono stamped)
        (Nat.lt_of_not_le room)

/-- A call that has slept gets a slot, since the first time is out by then. -/
theorem wake (limited : Limited policy state) {sleeper : Sleeper Call}
    (isSleeper : sleeper ∈ state.sleeper) {ticks : Nat → ℚ}
    (slept : sleeper.since + sleeper.sleepFor ≤ ticks 0) (shows : Shows state.clock ticks) :
    Limited policy (state.wake policy sleeper ticks) := by
  obtain ⟨oldest, rest, isTimes, out⟩ := (limited.sleeping sleeper isSleeper).until_out
  have passes : state.clock ≤ ticks state.requestTimes.length :=
    shows.starts.trans (shows.ordered (Nat.zero_le _))
  apply limited.appendTime passes
  · exact (limited.tracks.mono passes).drop reprune_sublist
      (newerThan_sublist_reprune shows.ordered)
  · have fewer : (LimiterState.reprune policy.windowSeconds ticks (oldest :: rest)).length <
        (oldest :: rest).length := length_reprune_lt (out.trans_le slept)
    rw [← isTimes] at fewer
    exact fewer.trans_le limited.few

/-- Every step keeps to the limit. -/
theorem step (limited : Limited policy state) (positive : 1 ≤ policy.maxRequests)
    {event : LimiterEvent Call} (enabled : Enabled policy state event) :
    Limited policy (limiterStep policy state event) := by
  cases event with
  | start call => exact limited.move rfl le_rfl
  | enter call ticks =>
      rw [limiterStep]
      split
      · exact limited.enter positive enabled.2
      · exact limited
  | wake ticks =>
      rw [limiterStep]
      split
      · next sleeper isSleeper =>
          exact limited.wake isSleeper (enabled.1 sleeper isSleeper) enabled.2
      · exact limited
  | attempt call now =>
      rw [limiterStep]
      split
      · exact limited.move rfl enabled
      · exact limited
  | answer call response factor now =>
      rw [limiterStep]
      split
      · exact limited.move rfl enabled.2
      · exact limited
  | resume call now =>
      rw [limiterStep]
      split
      · exact limited.move rfl enabled.2
      · exact limited
  | stop call now =>
      have moved : Limited policy (state.move call .finished now []) := limited.move rfl enabled
      have sleepers : ∀ sleeper ∈ (state.stop call now).sleeper, sleeper ∈ state.sleeper := by
        intro sleeper isSleeper
        exact (Option.mem_filter_iff.mp isSleeper).1
      exact moved.frame rfl rfl sleepers le_rfl

end Limited

end Window

end FinanceSync.Sync
