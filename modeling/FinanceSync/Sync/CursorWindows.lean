import FinanceSync.Data.Values
import FinanceSync.Lib.Run
import Mathlib.Logic.Function.Basic
import Mathlib.Tactic.Linarith

/-!
# Windows up to the cursors

A run fetches an account from its cursor, from an explicit time or from a default, and then its
cursor is the start of the run.  An explicit time, a blank one, or a backfill over a fixed number
of days, starts where it starts, so that what lies between the old cursor and the new window is
never fetched.
-/

namespace FinanceSync.Sync

open Lib

/-! ## Runs -/

/-- The `since` argument of `run_sync`. -/
inductive SinceArgument
  | missing
  | blank
  | explicit (since : Instant)
deriving DecidableEq

/-- What happens to an account in a run.  Without an id its persistence is skipped, and a failure
rolls its unit of work back and ends the run. -/
inductive AccountOutcome
  | stored
  | withoutId
  | failed
deriving DecidableEq

/-- An account in a run: the time from the start of the run to the lookback, and whether it has
a legacy transaction. -/
structure AccountFetch where
  externalAccountId : String
  waited : Nat := 0
  hasLegacy : Bool := false
  outcome : AccountOutcome := .stored

/-- A call of `run_sync`: the time since the last run, the time until the pipeline starts, and
the accounts that it comes to. -/
structure SyncCall where
  waited : Nat := 0
  prepared : Nat := 0
  since : SinceArgument := .missing
  accounts : List AccountFetch

/-- `provider_type == "trading212"` and the connector's attribute. -/
structure LookbackConnector where
  isTrading212 : Bool := false
  initialSyncLookbackDays : Option Nat := none

/-- The cursors and the windows of the successful fetches of each account, and the run that is
going on, with the cursors that it has loaded. -/
structure Watermarks where
  clock : Instant
  cursors : String → Option Instant := fun _ => none
  windows : String → List (Instant × Instant) := fun _ => []
  running : Bool := false
  since : Instant := 0
  loaded : String → Option Instant := fun _ => none

/-- The steps of the runs. -/
inductive SyncStep
  | start (waited prepared : Nat) (since : SinceArgument)
  | account (fetch : AccountFetch)

def SyncCall.steps (call : SyncCall) : List SyncStep :=
  .start call.waited call.prepared call.since :: call.accounts.map SyncStep.account

/-- `_resolve_since` -/
def resolveSince (now : Instant) : SinceArgument → Instant
  | .explicit since => since
  | _ => now - Instant.days 90

namespace Watermarks

variable (connector : LookbackConnector)

/-- The cursors are loaded without a `since` argument. -/
def startRun (state : Watermarks) (waited prepared : Nat) (since : SinceArgument) : Watermarks :=
  { state with
    clock := state.clock + waited + prepared
    running := true
    since := resolveSince (state.clock + waited) since
    loaded := if since = .missing then state.cursors else fun _ => none }

/-- Where the fetch of an account starts. -/
def acctSince (state : Watermarks) (fetch : AccountFetch) : Instant :=
  let now := state.clock + fetch.waited
  match state.loaded fetch.externalAccountId with
  | none =>
      match connector.initialSyncLookbackDays.filter (· ≠ 0) with
      | some lookbackDays =>
          if connector.isTrading212 then min state.since (now - Instant.days lookbackDays)
          else state.since
      | none => state.since
  | some cursor =>
      if connector.isTrading212 ∧ fetch.hasLegacy then
        now - Instant.days (connector.initialSyncLookbackDays.getD 3650)
      else cursor

/-- One turn of the loop over the accounts. -/
def syncAccount (state : Watermarks) (fetch : AccountFetch) : Watermarks :=
  if state.running then
    match fetch.outcome with
    | .stored =>
        { state with
          cursors := Function.update state.cursors fetch.externalAccountId (some state.clock)
          windows := Function.update state.windows fetch.externalAccountId
            (state.windows fetch.externalAccountId ++ [(state.acctSince connector fetch,
              state.clock)]) }
    | .withoutId => state
    | .failed => { state with running := false }
  else state

def step (state : Watermarks) : SyncStep → Watermarks
  | .start waited prepared since => state.startRun waited prepared since
  | .account fetch => state.syncAccount connector fetch

/-! ## Coverage -/

/-- A time of the windows. -/
def Fetched (windows : List (Instant × Instant)) (time : Instant) : Prop :=
  ∃ window ∈ windows, window.1 ≤ time ∧ time ≤ window.2

instance (windows : List (Instant × Instant)) (time : Instant) :
    Decidable (Fetched windows time) :=
  inferInstanceAs (Decidable (∃ window ∈ windows, _))

/-- Every time from the start of the first fetch of an account to its cursor was fetched. -/
def Covered (state : Watermarks) (account : String) : Prop :=
  ∀ cursor ∈ state.cursors account, ∀ first ∈ (state.windows account).head?,
    ∀ time, first.1 ≤ time → time ≤ cursor → Fetched (state.windows account) time

def HidesNothing (state : Watermarks) : Prop := ∀ account, state.Covered account

/-- A fetch that is stored leaves no time out between the cursor, or the start of the first
fetch where that is later, and the start of the run. -/
def Joins (state : Watermarks) (fetch : AccountFetch) : Prop :=
  state.running = true → fetch.outcome = .stored →
    ∀ cursor ∈ state.cursors fetch.externalAccountId,
      ∀ first ∈ (state.windows fetch.externalAccountId).head?,
        state.acctSince connector fetch ≤ max first.1 (cursor + 1) ∨
          state.clock < max first.1 (cursor + 1)

/-- Steps that hide nothing. -/
def JoinsStep (state : Watermarks) : SyncStep → Prop
  | .start _ _ _ => True
  | .account fetch => state.Joins connector fetch

/-- The cursor of an account is the end of its windows, and not after the clock. -/
structure Sound (state : Watermarks) : Prop where
  none_iff : ∀ account, state.cursors account = none ↔ state.windows account = []
  ends : ∀ account, ∀ cursor ∈ state.cursors account, ∀ window ∈ state.windows account,
    window.2 ≤ cursor
  past : ∀ account, ∀ cursor ∈ state.cursors account, cursor ≤ state.clock

variable {connector} {state : Watermarks} {fetch : AccountFetch}

theorem sound_start (clock : Instant) : Sound { clock } where
  none_iff _ := iff_of_true rfl rfl
  ends _ _ isCursor := nomatch isCursor
  past _ _ isCursor := nomatch isCursor

theorem hidesNothing_start (clock : Instant) : HidesNothing { clock } :=
  fun _ _ isCursor => nomatch isCursor

namespace Sound

theorem startRun (sound : state.Sound) (waited prepared : Nat) (since : SinceArgument) :
    (state.startRun waited prepared since).Sound where
  none_iff := sound.none_iff
  ends := sound.ends
  past account cursor isCursor :=
    calc
      cursor ≤ state.clock := sound.past account cursor isCursor
      _ ≤ state.clock + waited := Int.le_add_of_nonneg_right (Int.natCast_nonneg waited)
      _ ≤ state.clock + waited + prepared :=
        Int.le_add_of_nonneg_right (Int.natCast_nonneg prepared)

theorem syncAccount (sound : state.Sound) : (state.syncAccount connector fetch).Sound := by
  rw [Watermarks.syncAccount]
  split
  · split
    · refine ⟨?_, ?_, ?_⟩
      · intro account
        by_cases own : account = fetch.externalAccountId
        · simp [own]
        · simpa [own] using sound.none_iff account
      · intro account cursor isCursor window member
        by_cases own : account = fetch.externalAccountId
        · rw [own] at isCursor member
          simp only [Function.update_self, Option.mem_some_iff, List.mem_append,
            List.mem_singleton] at isCursor member
          rw [← isCursor]
          rcases member with earlier | isNew
          · cases isStored : state.cursors fetch.externalAccountId with
            | none =>
                rw [(sound.none_iff _).mp isStored] at earlier
                cases earlier
            | some stored =>
                exact (sound.ends _ stored isStored window earlier).trans
                  (sound.past _ stored isStored)
          · rw [isNew]
        · simp only [Function.update_of_ne own] at isCursor member
          exact sound.ends account cursor isCursor window member
      · intro account cursor isCursor
        by_cases own : account = fetch.externalAccountId
        · rw [own] at isCursor
          simp only [Function.update_self, Option.mem_some_iff] at isCursor
          exact isCursor.symm.le
        · simp only [Function.update_of_ne own] at isCursor
          exact sound.past account cursor isCursor
    · exact sound
    · exact ⟨sound.none_iff, sound.ends, sound.past⟩
  · exact sound

end Sound

theorem fetched_append {windows : List (Instant × Instant)} {window : Instant × Instant}
    {time : Instant} :
    Fetched (windows ++ [window]) time ↔
      Fetched windows time ∨ window.1 ≤ time ∧ time ≤ window.2 := by
  simp [Fetched, or_and_right, exists_or]

/-- A window that ends later joins the earlier ones exactly if no time is left out. -/
theorem fetched_to_end_iff {windows : List (Instant × Instant)} {first cursor since last : Instant}
    (ends : ∀ window ∈ windows, window.2 ≤ cursor)
    (covered : ∀ time, first ≤ time → time ≤ cursor → Fetched windows time) :
    (∀ time, first ≤ time → time ≤ last → Fetched (windows ++ [(since, last)]) time) ↔
      since ≤ max first (cursor + 1) ∨ last < max first (cursor + 1) := by
  constructor
  · intro all
    by_cases later : max first (cursor + 1) ≤ last
    · left
      rcases fetched_append.mp (all _ (le_max_left _ _) later) with earlier | inside
      · obtain ⟨window, member, -, before⟩ := earlier
        have after : cursor + 1 ≤ cursor :=
          (le_max_right first _).trans (before.trans (ends window member))
        exact absurd after (not_le.mpr (Int.lt_succ cursor))
      · exact inside.1
    · exact .inr (not_le.mp later)
  · intro joins time fromFirst toLast
    rw [fetched_append]
    by_cases old : time ≤ cursor
    · exact .inl (covered time fromFirst old)
    · have new : max first (cursor + 1) ≤ time :=
        max_le fromFirst (Int.add_one_le_of_lt (not_le.mp old))
      right
      rcases joins with starts | ends
      · exact ⟨starts.trans new, toLast⟩
      · exact absurd ends (not_lt.mpr (new.trans toLast))

/-- A stored fetch keeps its account covered exactly if it joins the windows. -/
theorem covered_stored_iff (sound : state.Sound) (covered : state.Covered fetch.externalAccountId)
    (running : state.running = true) (stored : fetch.outcome = .stored) :
    (state.syncAccount connector fetch).Covered fetch.externalAccountId ↔
      state.Joins connector fetch := by
  have next : state.syncAccount connector fetch = { state with
      cursors := Function.update state.cursors fetch.externalAccountId (some state.clock)
      windows := Function.update state.windows fetch.externalAccountId
        (state.windows fetch.externalAccountId ++ [(state.acctSince connector fetch,
          state.clock)]) } := by
    rw [syncAccount, if_pos running, stored]
  simp only [Covered, Joins, next, running, stored, Function.update_self, Option.mem_some_iff,
    forall_eq', forall_true_left]
  cases isCursor : state.cursors fetch.externalAccountId with
  | none =>
      rw [(sound.none_iff _).mp isCursor]
      apply iff_of_true
      · intro first isFirst time fromFirst toLast
        obtain rfl := Option.some_inj.mp isFirst
        exact ⟨_, List.mem_singleton_self _, fromFirst, toLast⟩
      · intro cursor absurdity
        cases absurdity
  | some cursor =>
      cases isWindows : state.windows fetch.externalAccountId with
      | nil =>
          have noCursor := (sound.none_iff _).mpr isWindows
          rw [isCursor] at noCursor
          cases noCursor
      | cons first rest =>
          have ends := sound.ends _ cursor isCursor
          have old := covered cursor isCursor first (by rw [isWindows]; rfl)
          rw [isWindows] at ends old
          simp only [List.cons_append, List.head?_cons, Option.mem_some_iff, forall_eq']
          exact fetched_to_end_iff ends old

/-- A step hides nothing exactly if the fetch joins the windows. -/
theorem hidesNothing_step_iff (sound : state.Sound) (hides : state.HidesNothing)
    (next : SyncStep) :
    (state.step connector next).HidesNothing ↔ state.JoinsStep connector next := by
  cases next with
  | start waited prepared since => exact iff_of_true hides trivial
  | account fetch =>
      have kept : ¬ (state.running = true ∧ fetch.outcome = .stored) →
          (state.syncAccount connector fetch).HidesNothing := by
        intro notStored
        rw [syncAccount]
        split
        · next running =>
            split
            · next stored => exact absurd ⟨running, stored⟩ notStored
            · exact hides
            · exact hides
        · exact hides
      by_cases both : state.running = true ∧ fetch.outcome = .stored
      · have own : (state.syncAccount connector fetch).Covered fetch.externalAccountId ↔
            state.Joins connector fetch :=
          covered_stored_iff sound (hides fetch.externalAccountId) both.1 both.2
        constructor
        · intro all
          exact own.mp (all fetch.externalAccountId)
        · intro joins account
          by_cases same : account = fetch.externalAccountId
          · rw [same]
            exact own.mpr joins
          · have others : (state.syncAccount connector fetch).cursors account =
                state.cursors account ∧ (state.syncAccount connector fetch).windows account =
                  state.windows account := by
              rw [syncAccount, if_pos both.1, both.2]
              exact ⟨Function.update_of_ne same _ _, Function.update_of_ne same _ _⟩
            rw [step, Covered, others.1, others.2]
            exact hides account
      · apply iff_of_true (kept both)
        intro running stored
        exact absurd ⟨running, stored⟩ both

theorem sound_step (sound : state.Sound) (next : SyncStep) :
    (state.step connector next).Sound := by
  cases next with
  | start waited prepared since => exact sound.startRun waited prepared since
  | account fetch => exact sound.syncAccount

/-- Over the calls of `run_sync` for a connection every time up to a cursor was fetched, in
every state, exactly if each stored fetch joins the windows of its account; and a failed account
leaves the cursors as they are. -/
theorem cursor_windows_iff (connector : LookbackConnector) (clock : Instant)
    (calls : List SyncCall) :
    ((∀ before after, calls.flatMap SyncCall.steps = before ++ after →
          (runAll (step connector) { clock } before).HidesNothing) ↔
        Along (step connector) (JoinsStep connector) { clock } (calls.flatMap SyncCall.steps)) ∧
      ∀ (state : Watermarks) (fetch : AccountFetch),
        (state.syncAccount connector { fetch with outcome := .failed }).cursors =
          state.cursors := by
  have preserved : ∀ (state : Watermarks) (next : SyncStep), state.Sound →
      (state.step connector next).Sound := fun _ next sound => sound_step sound next
  have keeps : ∀ (state : Watermarks) (next : SyncStep), state.Sound → state.HidesNothing →
      ((state.step connector next).HidesNothing ↔ state.JoinsStep connector next) :=
    fun _ next sound hides => hidesNothing_step_iff sound hides next
  constructor
  · exact reached_iff_kept preserved keeps _ (sound_start clock) (hidesNothing_start clock)
  · intro state fetch
    rw [syncAccount]
    split <;> rfl

/-- An account is fetched at the first day's start, and ten days later from the fifth day on. -/
theorem explicit_since_hides_days :
    ¬ ∀ (connector : LookbackConnector) (clock : Instant) (calls : List SyncCall),
      (runAll (step connector) { clock } (calls.flatMap SyncCall.steps)).HidesNothing := by
  intro hides
  have covered := hides {} 0 [{ accounts := [{ externalAccountId := "account" }] },
    { waited := 864000000000, since := .explicit (Instant.days 5),
      accounts := [{ externalAccountId := "account" }] }] "account" _ rfl _ rfl (Instant.days 1)
  revert covered
  decide +kernel

/-! ## Scheduled runs -/

/-- In a run without a `since` argument each account was loaded with an earlier cursor, or it
had none and was first fetched in this run. -/
structure Scheduled (state : Watermarks) : Prop where
  sound : state.Sound
  since : state.running = true → state.since ≤ state.clock
  past : ∀ account, ∀ cursor ∈ state.loaded account, cursor ≤ state.clock
  known : state.running = true → ∀ account, ∀ cursor ∈ state.cursors account,
    (∃ loaded ∈ state.loaded account, loaded ≤ cursor) ∨
      state.loaded account = none ∧ cursor = state.clock

namespace Scheduled

theorem initial (clock : Instant) : Scheduled { clock } where
  sound := sound_start clock
  since running := nomatch running
  past _ _ isLoaded := nomatch isLoaded
  known running := nomatch running

theorem startRun (scheduled : state.Scheduled) (waited prepared : Nat) :
    (state.startRun waited prepared .missing).Scheduled where
  sound := scheduled.sound.startRun waited prepared .missing
  since _ :=
    calc
      state.clock + waited - Instant.days 90 ≤ state.clock + waited :=
        Int.sub_le_self _ (by decide)
      _ ≤ state.clock + waited + prepared :=
        Int.le_add_of_nonneg_right (Int.natCast_nonneg prepared)
  past account cursor isCursor :=
    (scheduled.sound.startRun waited prepared .missing).past account cursor isCursor
  known _ _ cursor isCursor := .inl ⟨cursor, isCursor, le_rfl⟩

theorem syncAccount (scheduled : state.Scheduled) :
    (state.syncAccount connector fetch).Scheduled := by
  have sound : (state.syncAccount connector fetch).Sound := scheduled.sound.syncAccount
  revert sound
  rw [Watermarks.syncAccount]
  split
  · split
    · intro sound
      refine ⟨sound, scheduled.since, scheduled.past, ?_⟩
      intro running account cursor isCursor
      by_cases own : account = fetch.externalAccountId
      · rw [own] at isCursor ⊢
        simp only [Function.update_self, Option.mem_some_iff] at isCursor
        cases isLoaded : state.loaded fetch.externalAccountId with
        | none => exact .inr ⟨rfl, isCursor.symm⟩
        | some loaded =>
            have past := scheduled.past fetch.externalAccountId loaded isLoaded
            exact .inl ⟨loaded, rfl, past.trans_eq isCursor⟩
      · simp only [Function.update_of_ne own] at isCursor
        exact scheduled.known running account cursor isCursor
    · intro _
      exact scheduled
    · intro sound
      exact ⟨sound, nofun, scheduled.past, nofun⟩
  · intro _
    exact scheduled

/-- Without a backfill a fetch starts at a cursor, or before the start of the run. -/
theorem joins (scheduled : state.Scheduled)
    (noBackfill : ¬ (connector.isTrading212 = true ∧ fetch.hasLegacy = true)) :
    state.Joins connector fetch := by
  intro running _ cursor isCursor first _
  left
  refine le_trans ?_ (le_max_right first.1 (cursor + 1))
  rcases scheduled.known running _ cursor isCursor with ⟨loaded, isLoaded, earlier⟩ | ⟨new, isClock⟩
  · have starts : state.acctSince connector fetch = loaded := by
      simp only [acctSince, Option.mem_def.mp isLoaded, if_neg noBackfill]
    rw [starts]
    exact earlier.trans (Int.lt_succ cursor).le
  · have starts : state.acctSince connector fetch ≤ state.since := by
      simp only [acctSince, new]
      split
      · split
        · exact min_le_left _ _
        · exact le_rfl
      · exact le_rfl
    rw [isClock]
    exact (starts.trans (scheduled.since running)).trans (Int.lt_succ state.clock).le

end Scheduled

/-- A step of a scheduled run: without a `since` argument and without a legacy backfill. -/
def IsScheduled (connector : LookbackConnector) : SyncStep → Prop
  | .start _ _ since => since = .missing
  | .account fetch => ¬ (connector.isTrading212 = true ∧ fetch.hasLegacy = true)

theorem scheduled_step (next : SyncStep) (isScheduled : IsScheduled connector next)
    (holds : state.Scheduled ∧ state.HidesNothing) :
    (state.step connector next).Scheduled ∧ (state.step connector next).HidesNothing := by
  obtain ⟨scheduled, hides⟩ := holds
  rw [hidesNothing_step_iff scheduled.sound hides]
  cases next with
  | start waited prepared since =>
      have missing : since = .missing := isScheduled
      rw [missing]
      exact ⟨scheduled.startRun waited prepared, trivial⟩
  | account fetch => exact ⟨scheduled.syncAccount, scheduled.joins isScheduled⟩

/-- A cursor is only replaced by the start of the run, which is not before it. -/
theorem cursor_le_step (sound : state.Sound) (next : SyncStep) (account : String) :
    ∀ cursor ∈ state.cursors account,
      ∃ later ∈ (state.step connector next).cursors account, cursor ≤ later := by
  intro cursor isCursor
  cases next with
  | start waited prepared since => exact ⟨cursor, isCursor, le_rfl⟩
  | account fetch =>
      rw [step, syncAccount]
      split
      · split
        · by_cases own : account = fetch.externalAccountId
          · refine ⟨state.clock, ?_, sound.past account cursor isCursor⟩
            rw [own]
            exact Function.update_self _ _ _
          · exact ⟨cursor, (Function.update_of_ne own _ _).trans isCursor, le_rfl⟩
        · exact ⟨cursor, isCursor, le_rfl⟩
        · exact ⟨cursor, isCursor, le_rfl⟩
      · exact ⟨cursor, isCursor, le_rfl⟩

theorem cursor_le_runAll (steps : List SyncStep) (account : String) :
    ∀ {state : Watermarks}, state.Sound → ∀ cursor ∈ state.cursors account,
      ∃ later ∈ (runAll (step connector) state steps).cursors account, cursor ≤ later := by
  induction steps with
  | nil => exact fun _ cursor isCursor => ⟨cursor, isCursor, le_rfl⟩
  | cons next rest ih =>
      intro state sound cursor isCursor
      obtain ⟨later, isLater, after⟩ : ∃ later ∈ (state.step connector next).cursors account,
          cursor ≤ later := cursor_le_step sound next account cursor isCursor
      obtain ⟨last, isLast, afterLater⟩ := ih (sound_step sound next) later isLater
      exact ⟨last, isLast, after.trans afterLater⟩

/-- Runs without a `since` argument and without a backfill hide nothing, whatever fails in them,
and no cursor ever goes back. -/
theorem scheduled_runs_hide_nothing (connector : LookbackConnector) (clock : Instant)
    (calls : List SyncCall) (scheduled : ∀ call ∈ calls, call.since = .missing)
    (noBackfill : connector.isTrading212 = true →
      ∀ call ∈ calls, ∀ fetch ∈ call.accounts, fetch.hasLegacy = false)
    (before between after : List SyncStep)
    (split : calls.flatMap SyncCall.steps = before ++ between ++ after) :
    (runAll (step connector) { clock } before).HidesNothing ∧
      ∀ account, ∀ cursor ∈ (runAll (step connector) { clock } before).cursors account,
        ∃ later ∈ (runAll (step connector) { clock } (before ++ between)).cursors account,
          cursor ≤ later := by
  have all : ∀ next ∈ before, IsScheduled connector next := by
    intro next member
    have inCalls : next ∈ calls.flatMap SyncCall.steps := by
      rw [split]
      exact List.mem_append_left _ (List.mem_append_left _ member)
    obtain ⟨call, isCall, isStep⟩ := List.mem_flatMap.mp inCalls
    rcases List.mem_cons.mp isStep with isStart | isAccount
    · rw [isStart]
      exact scheduled call isCall
    · obtain ⟨fetch, isFetch, rfl⟩ := List.mem_map.mp isAccount
      rintro ⟨isTrading212, legacy⟩
      rw [noBackfill isTrading212 call isCall fetch isFetch] at legacy
      cases legacy
  have preserved : ∀ (state : Watermarks) (next : SyncStep),
      state.Scheduled ∧ state.HidesNothing → IsScheduled connector next →
        (state.step connector next).Scheduled ∧ (state.step connector next).HidesNothing :=
    fun _ next holds isScheduled => scheduled_step next isScheduled holds
  have kept : (runAll (step connector) { clock } before).Scheduled ∧
      (runAll (step connector) { clock } before).HidesNothing :=
    runAll_invariant preserved before ⟨.initial clock, hidesNothing_start clock⟩
      (along_of_forall before all)
  refine ⟨kept.2, ?_⟩
  intro account
  rw [runAll_append]
  exact cursor_le_runAll between account kept.1.sound

/-- Two runs a day apart, of which the second fails at its second account. -/
theorem two_scheduled_runs_hide_nothing :
    (runAll (step {}) { clock := 0 } [.start 0 0 .missing,
      .account { externalAccountId := "first" }, .start 86400000000 0 .missing]).HidesNothing ∧
      ∀ account, ∀ cursor ∈ (runAll (step {}) { clock := 0 } [.start 0 0 .missing,
          .account { externalAccountId := "first" },
          .start 86400000000 0 .missing]).cursors account,
        ∃ later ∈ (runAll (step {}) { clock := 0 } [.start 0 0 .missing,
          .account { externalAccountId := "first" }, .start 86400000000 0 .missing,
          .account { externalAccountId := "first" }]).cursors account, cursor ≤ later :=
  scheduled_runs_hide_nothing {} 0
    [{ accounts := [{ externalAccountId := "first" }] },
      { waited := 86400000000, accounts := [{ externalAccountId := "first" },
        { externalAccountId := "second", outcome := .failed }] }]
    (by decide) nofun _ [.account { externalAccountId := "first" }]
    [.account { externalAccountId := "second", outcome := .failed }] rfl

end Watermarks

end FinanceSync.Sync
