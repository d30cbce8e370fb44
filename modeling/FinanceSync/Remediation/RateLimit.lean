import FinanceSync.Lib.Run

/-!
# The remediation quota

Workers reserve quota through one Redis script, which counts the granted costs
under a key that expires.  The script sets the expiry anew with every grant, so
the key lives as long as grants follow one another within the window, and what
it counts may be older than the window.

Times are milliseconds of the Redis clock.
-/

namespace FinanceSync.Remediation.RateLimit

open Lib

/-- The bounds are those of the settings it is made from. -/
structure QuotaPolicy where
  requests : Nat
  windowSeconds : Nat
  endpointFamily : String
  requestsPositive : 1 ≤ requests
  windowPositive : 1 ≤ windowSeconds

namespace QuotaPolicy

def window (policy : QuotaPolicy) : Nat := 1000 * policy.windowSeconds

end QuotaPolicy

structure Reservation where
  allowed : Bool
  retryAt : Option Nat := none
  reason : Option String := none

/-! ## Redis -/

structure RedisKey where
  value : Nat
  expiresAt : Nat

/-- The key as a command sees it: a key is gone once the clock is past its expiry. -/
def live (key : Option RedisKey) (now : Nat) : Option RedisKey :=
  match key with
  | none => none
  | some stored => if now ≤ stored.expiresAt then some stored else none

/-- `TTL key`, in rounded seconds. -/
def ttl (key : Option RedisKey) (now : Nat) : Int :=
  match live key now with
  | none => -2
  | some stored => ((stored.expiresAt - now + 500) / 1000 : Nat)

/-- The counter and the cooldown of one provider, scope and endpoint family. -/
structure QuotaKeys where
  quota : Option RedisKey := none
  cooldown : Option RedisKey := none

/-- `_SCRIPT`: whether the cost is granted, the time to live of the key that forbids it, and
why. -/
def script (keys : QuotaKeys) (now cost requests windowSeconds : Nat) :
    QuotaKeys × Bool × Int × Nat :=
  if (live keys.cooldown now).isSome then (keys, false, ttl keys.cooldown now, 2)
  else
    let count := ((live keys.quota now).map RedisKey.value).getD 0
    if requests < count + cost then (keys, false, ttl keys.quota now, 1)
    else
      ({ keys with quota := some ⟨count + cost, now + 1000 * windowSeconds⟩ }, true, 0, 0)

/-- `RemediationRateLimitCoordinator.reserve` -/
def reserve (policy : QuotaPolicy) (keys : QuotaKeys) (now cost : Nat) :
    QuotaKeys × Reservation :=
  let (keys, allowed, timeToLive, why) :=
    script keys now cost policy.requests policy.windowSeconds
  if allowed then (keys, { allowed := true })
  else
    (keys,
      { allowed := false
        retryAt := some (now + 1000 * (max timeToLive 1).toNat)
        reason := some (if why = 2 then "cooldown" else "quota_exhausted") })

/-! ## Runs -/

/-- A call of `reserve` by some worker. -/
structure Call where
  time : Nat
  cost : Nat
deriving DecidableEq

/-- The keys, and what was granted so far, the latest grant first. -/
structure State where
  keys : QuotaKeys := {}
  grants : List Call := []

def reserveStep (policy : QuotaPolicy) (state : State) (call : Call) : State :=
  let (keys, reservation) := reserve policy state.keys call.time call.cost
  { keys
    grants := if reservation.allowed then call :: state.grants else state.grants }

/-- What was granted between two times. -/
def grantedBetween (grants : List Call) (first last : Nat) : Nat :=
  ((grants.filter fun grant => first ≤ grant.time ∧ grant.time ≤ last).map Call.cost).sum

/-- What was granted during the window before a time. -/
def recentlyGranted (policy : QuotaPolicy) (grants : List Call) (now : Nat) : Nat :=
  ((grants.filter fun grant => now ≤ grant.time + policy.window).map Call.cost).sum

/-- A call is denied only if it exceeds the quota together with the window before it. -/
def DeniedForCause (policy : QuotaPolicy) (state : State) (call : Call) : Prop :=
  (reserve policy state.keys call.time call.cost).2.allowed = false →
    policy.requests < recentlyGranted policy state.grants call.time + call.cost

/-- The reservations of a run respect the window and do not restrict it further. -/
structure KeepsWindow (policy : QuotaPolicy) (calls : List Call) : Prop where
  respected : ∀ start, grantedBetween (runAll (reserveStep policy) {} calls).grants start
    (start + policy.window) ≤ policy.requests
  forCause : Along (reserveStep policy) (DeniedForCause policy) {} calls

/-- What was granted without a gap longer than the window up to a time. -/
def linkedGrants (policy : QuotaPolicy) : List Call → Nat → Nat
  | [], _ => 0
  | grant :: earlier, now =>
      if now ≤ grant.time + policy.window then
        grant.cost + linkedGrants policy earlier grant.time
      else 0

/-- The older grants that are linked to the window before a call make no difference to it. -/
def Unlinked (policy : QuotaPolicy) (state : State) (call : Call) : Prop :=
  linkedGrants policy state.grants call.time + call.cost ≤ policy.requests ∨
    policy.requests < recentlyGranted policy state.grants call.time + call.cost

/-! ## The counter -/

section Counter

variable {policy : QuotaPolicy}

/-- Every grant stayed within the quota together with those it is linked to. -/
def Bounded (policy : QuotaPolicy) : List Call → Prop
  | [] => True
  | grant :: earlier =>
      grant.cost + linkedGrants policy earlier grant.time ≤ policy.requests ∧
        Bounded policy earlier

/-- The key counts the grants that are linked to the latest one, and expires a window
after it. -/
structure Tracks (policy : QuotaPolicy) (state : State) : Prop where
  noCooldown : state.keys.cooldown = none
  counter : state.keys.quota =
    match state.grants with
    | [] => none
    | grant :: earlier =>
        some ⟨grant.cost + linkedGrants policy earlier grant.time, grant.time + policy.window⟩
  inOrder : state.grants.Pairwise fun later earlier => earlier.time ≤ later.time
  bounded : Bounded policy state.grants

theorem count_of_tracks {state : State} (tracks : Tracks policy state) (now : Nat) :
    ((live state.keys.quota now).map RedisKey.value).getD 0 =
      linkedGrants policy state.grants now := by
  rw [tracks.counter]
  cases state.grants with
  | nil => rfl
  | cons grant earlier =>
      by_cases alive : now ≤ grant.time + policy.window
      · simp [live, linkedGrants, alive]
      · simp [live, linkedGrants, alive]

/-- A reservation is granted exactly if it fits together with the linked grants. -/
theorem allowed_iff {state : State} (tracks : Tracks policy state) (call : Call) :
    (reserve policy state.keys call.time call.cost).2.allowed = true ↔
      linkedGrants policy state.grants call.time + call.cost ≤ policy.requests := by
  have noCooldown : live state.keys.cooldown call.time = none := by
    rw [tracks.noCooldown]
    rfl
  simp only [reserve, script, noCooldown, count_of_tracks tracks, Option.isSome_none]
  by_cases exceeds : policy.requests < linkedGrants policy state.grants call.time + call.cost
  · simp [exceeds]
  · simp [exceeds, not_lt.mp exceeds]

theorem deniedForCause_iff {state : State} (tracks : Tracks policy state) (call : Call) :
    DeniedForCause policy state call ↔ Unlinked policy state call := by
  rw [DeniedForCause, Unlinked, ← Bool.not_eq_true, allowed_iff tracks]
  tauto

theorem reserveStep_tracks {state : State} (tracks : Tracks policy state) {call : Call}
    (monotone : ∀ grant ∈ state.grants, grant.time ≤ call.time) :
    Tracks policy (reserveStep policy state call) := by
  have noCooldown : live state.keys.cooldown call.time = none := by
    rw [tracks.noCooldown]
    rfl
  by_cases exceeds : policy.requests < linkedGrants policy state.grants call.time + call.cost
  · have same : reserveStep policy state call = state := by
      simp [reserveStep, reserve, script, noCooldown, count_of_tracks tracks, exceeds]
    rw [same]
    exact tracks
  · have granted : reserveStep policy state call =
        { keys :=
            { state.keys with
              quota := some ⟨linkedGrants policy state.grants call.time + call.cost,
                call.time + 1000 * policy.windowSeconds⟩ }
          grants := call :: state.grants } := by
      simp [reserveStep, reserve, script, noCooldown, count_of_tracks tracks, exceeds]
    rw [granted]
    exact
      { noCooldown := tracks.noCooldown
        counter := by rw [Nat.add_comm]; rfl
        inOrder := List.Pairwise.cons monotone tracks.inOrder
        bounded := ⟨by rw [Nat.add_comm]; exact not_lt.mp exceeds, tracks.bounded⟩ }

/-! ## The window -/

/-- Grants within a window before a time are linked to it. -/
theorem grantedBetween_le_linked (start : Nat) (grants : List Call) :
    ∀ now, now ≤ start + policy.window → (∀ grant ∈ grants, grant.time ≤ now) →
      grants.Pairwise (fun later earlier => earlier.time ≤ later.time) →
      grantedBetween grants start (start + policy.window) ≤ linkedGrants policy grants now := by
  induction grants with
  | nil => intro now _ _ _; exact Nat.zero_le _
  | cons grant earlier ih =>
      intro now close before inOrder
      rw [List.pairwise_cons] at inOrder
      have grantBefore := before grant List.mem_cons_self
      by_cases inside : start ≤ grant.time
      · have linked : now ≤ grant.time + policy.window := by omega
        have counted : start ≤ grant.time ∧ grant.time ≤ start + policy.window := by omega
        have rest := ih grant.time counted.2 inOrder.1 inOrder.2
        rw [grantedBetween] at rest ⊢
        simp only [List.filter_cons, counted, and_self, decide_true, if_true, List.map_cons,
          List.sum_cons, linkedGrants, linked]
        omega
      · have nothing : grantedBetween (grant :: earlier) start (start + policy.window) = 0 := by
          rw [grantedBetween, List.filter_eq_nil_iff.mpr]
          · rfl
          · intro other otherMem
            have outside : ¬ start ≤ other.time := by
              rcases List.mem_cons.mp otherMem with rfl | later
              · exact inside
              · have := inOrder.1 other later
                omega
            simp [outside]
        rw [nothing]
        exact Nat.zero_le _

/-- Bounded grants keep to the quota in every window. -/
theorem grantedBetween_le (start : Nat) (grants : List Call) (bounded : Bounded policy grants)
    (inOrder : grants.Pairwise fun later earlier => earlier.time ≤ later.time) :
    grantedBetween grants start (start + policy.window) ≤ policy.requests := by
  induction grants with
  | nil => exact Nat.zero_le _
  | cons grant earlier ih =>
      rw [List.pairwise_cons] at inOrder
      by_cases counted : start ≤ grant.time ∧ grant.time ≤ start + policy.window
      · have rest :=
          grantedBetween_le_linked start earlier grant.time counted.2 inOrder.1 inOrder.2
        have fits := bounded.1
        rw [grantedBetween] at rest ⊢
        simp only [List.filter_cons, counted, and_self, decide_true, if_true, List.map_cons,
          List.sum_cons]
        omega
      · have rest := ih bounded.2 inOrder.2
        rw [grantedBetween] at rest ⊢
        rw [List.filter_cons_of_neg (by simpa using counted)]
        exact rest

/-- A monotone clock: no call is earlier than a grant before it. -/
theorem along_monotone (calls : List Call) :
    ∀ state : State, calls.Pairwise (fun first later => first.time ≤ later.time) →
      (∀ grant ∈ state.grants, ∀ call ∈ calls, grant.time ≤ call.time) →
      Along (reserveStep policy) (fun state call => ∀ grant ∈ state.grants,
        grant.time ≤ call.time) state calls := by
  induction calls with
  | nil => intro state _ _; trivial
  | cons call rest ih =>
      intro state monotone before
      rw [List.pairwise_cons] at monotone
      refine ⟨fun grant grantMem => before grant grantMem call List.mem_cons_self, ?_⟩
      apply ih _ monotone.2
      intro grant grantMem later laterMem
      have known : grant = call ∨ grant ∈ state.grants := by
        simp only [reserveStep] at grantMem
        split at grantMem
        · exact List.mem_cons.mp grantMem
        · exact .inr grantMem
      rcases known with rfl | old
      · exact monotone.1 later laterMem
      · exact before grant old later (List.mem_cons_of_mem _ laterMem)

theorem tracks_start : Tracks policy {} where
  noCooldown := rfl
  counter := rfl
  inOrder := List.Pairwise.nil
  bounded := trivial

/-- Over a run on a monotone clock the quota is respected, and it restricts no more than the
window exactly if no call is denied for older grants that are linked to it. -/
theorem keepsWindow_iff (policy : QuotaPolicy) (calls : List Call)
    (monotone : calls.Pairwise fun first later => first.time ≤ later.time) :
    KeepsWindow policy calls ↔ Along (reserveStep policy) (Unlinked policy) {} calls := by
  have clock : Along (reserveStep policy) (fun state call => ∀ grant ∈ state.grants,
      grant.time ≤ call.time) {} calls := along_monotone calls {} monotone (by simp)
  have preserved : ∀ state call, Tracks policy state →
      (∀ grant ∈ state.grants, grant.time ≤ call.time) →
      Tracks policy (reserveStep policy state call) :=
    fun state call holds before => reserveStep_tracks holds before
  have tracks : Tracks policy (runAll (reserveStep policy) {} calls) :=
    runAll_invariant preserved calls tracks_start clock
  have forCause : Along (reserveStep policy) (DeniedForCause policy) {} calls ↔
      Along (reserveStep policy) (Unlinked policy) {} calls :=
    along_congr preserved (fun state call holds _ => deniedForCause_iff holds call) calls
      tracks_start clock
  constructor
  · intro keeps
    exact forCause.mp keeps.forCause
  · intro unlinked
    exact
      { respected := fun start => grantedBetween_le start _ tracks.bounded tracks.inOrder
        forCause := forCause.mpr unlinked }

end Counter

/-- Two requests a minute. -/
def twoPerMinute : QuotaPolicy where
  requests := 2
  windowSeconds := 60
  endpointFamily := "history"
  requestsPositive := by decide
  windowPositive := by decide

theorem keepsWindow_of_two_calls :
    KeepsWindow twoPerMinute [⟨0, 1⟩, ⟨59000, 1⟩] ↔
      Along (reserveStep twoPerMinute) (Unlinked twoPerMinute) {} [⟨0, 1⟩, ⟨59000, 1⟩] :=
  keepsWindow_iff twoPerMinute [⟨0, 1⟩, ⟨59000, 1⟩] (by decide)

/-- After grants at 0 and at 59 seconds a call at 61 seconds is denied, with only one grant in
the minute before it. -/
theorem denied_for_expired_grant :
    ¬ KeepsWindow twoPerMinute [⟨0, 1⟩, ⟨59000, 1⟩, ⟨61000, 1⟩] := by
  intro keeps
  have denied := keeps.forCause.2.2.1 (by decide +kernel)
  exact absurd denied (by decide +kernel)

end FinanceSync.Remediation.RateLimit
