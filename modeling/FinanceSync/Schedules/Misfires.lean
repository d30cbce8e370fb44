import FinanceSync.Schedules.Occurrences
import FinanceSync.Schedules.SyncSchedule
import Mathlib.Data.Option.Basic

/-!
# Misfires

`run_due_schedules` on one schedule, tick after tick of the worker.  A schedule that is far
overdue is reset and goes on from now; any other goes on from the run that it missed, and
whether that is later than now depends on the recurrence.
-/

namespace FinanceSync.Schedules

/-- Claim guard: the time within which a schedule is not claimed again. -/
def claimGrace : Int := 5 * 60 * 1000000

/-- How overdue a schedule must be before the runner skips the catch-up. -/
def catchupMaxDelay : Int := Instant.days 7

/-- The result of a run, with the keys that it may have. -/
structure RunOutcome where
  status : Option String := none
  error : Option String := none
  reason : Option String := none

/-- `text[:length]` -/
def truncated (length : Nat) (text : String) : String := String.ofList (text.toList.take length)

/-- `_outcome_error` -/
def RunOutcome.errorText (outcome : RunOutcome) : Option String :=
  match outcome.error.filter (· ≠ "") with
  | some error => some (truncated 500 error)
  | none => (outcome.reason.filter (· ≠ "")).map fun reason => "skipped: " ++ truncated 480 reason

namespace SyncSchedule

/-- The condition of `_load_due_schedules`. -/
def IsDue (row : SyncSchedule) (now : Instant) : Prop :=
  row.enabled ∧ ∃ nextRunAt ∈ row.nextRunAt, nextRunAt ≤ now

instance (row : SyncSchedule) (now : Instant) : Decidable (row.IsDue now) :=
  inferInstanceAs (Decidable (_ ∧ _))

/-- `_claim_schedule`, where `none` is an `UPDATE` of no row. -/
def claim (row : SyncSchedule) (now : Instant) : Option SyncSchedule :=
  if row.enabled ∧ ∀ last ∈ row.lastScheduledAt, last < now - claimGrace then
    some { row with lastScheduledAt := some now, updatedAt := now }
  else none

/-- `due_delay` -/
def dueDelay (row : SyncSchedule) (now : Instant) : Int := now - row.nextRunAt.getD now

/-- `_reset_next_run`, written at `written`. -/
def resetNextRun (zones : ZoneDatabase) (row : SyncSchedule) (now written : Instant) :
    SyncSchedule :=
  if row.enabled then { row with nextRunAt := nextRun zones row now, updatedAt := written }
  else row

/-- Record the outcome of a run of `schedule` and recompute the next run. -/
def recordOutcome (zones : ZoneDatabase) (schedule row : SyncSchedule) (now : Instant)
    (outcome : RunOutcome) : SyncSchedule :=
  { row with
    lastRunAt := some now
    lastRunStatus := some (truncated 16 (outcome.status.getD "completed"))
    lastRunError := outcome.errorText
    nextRunAt := if row.enabled then nextRun zones row (schedule.nextRunAt.getD now) else none
    updatedAt := now }

end SyncSchedule

/-- A tick of the worker. -/
structure Tick where
  /-- The microseconds since the tick before it. -/
  wait : Nat
  /-- What a run at this tick comes to. -/
  outcome : RunOutcome := {}
  /-- The clock at the write of a reset. -/
  written : Instant

/-- `run_due_schedules` on one row, at `now`. -/
def Tick.run (tick : Tick) (zones : ZoneDatabase) (row : SyncSchedule) (now : Instant) :
    SyncSchedule :=
  if row.IsDue now then
    match row.claim now with
    | none => row
    | some claimed =>
        if catchupMaxDelay < row.dueDelay now then claimed.resetNextRun zones now tick.written
        else claimed.recordOutcome zones row now tick.outcome
  else row

/-- A tick with the time it comes at and the row that it finds. -/
structure Visit where
  now : Instant
  tick : Tick
  row : SyncSchedule

/-- The visits of ticks one after the other. -/
def visits (zones : ZoneDatabase) : List Tick → Instant → SyncSchedule → List Visit
  | [], _, _ => []
  | tick :: rest, start, row =>
      let now := start + tick.wait
      ⟨now, tick, row⟩ :: visits zones rest now (tick.run zones row now)

namespace Visit

/-- The schedule is executed or reset. -/
def Handled (visit : Visit) : Prop :=
  visit.row.IsDue visit.now ∧ (visit.row.claim visit.now).isSome

instance : DecidablePred Handled := fun _ => inferInstanceAs (Decidable (_ ∧ _))

/-- The instant that the next run is computed from: now for a schedule that is reset, and
the missed run for one that is executed. -/
def anchor (visit : Visit) : Instant :=
  if catchupMaxDelay < visit.row.dueDelay visit.now then visit.now
  else visit.row.nextRunAt.getD visit.now

/-- The next run is later than the tick. -/
def Coalesced (zones : ZoneDatabase) (visit : Visit) : Prop :=
  ∃ next ∈ (visit.tick.run zones visit.row visit.now).nextRunAt, visit.now < next

instance (zones : ZoneDatabase) : DecidablePred (Coalesced zones) := fun _ =>
  inferInstanceAs (Decidable (∃ _ ∈ _, _))

/-- A run at `later` does not catch up with what was overdue at `visit`. -/
def CatchesUpBefore (visit later : Visit) : Prop :=
  later.Handled → ∀ missed ∈ later.row.nextRunAt, visit.now < missed

end Visit

/-- After each tick that handles the schedule the next run is later than the tick, and no
later tick catches up with what was overdue at it. -/
def MisfiresCoalesced (zones : ZoneDatabase) (ticks : List Tick) (start : Instant)
    (row : SyncSchedule) : Prop :=
  (∀ visit ∈ visits zones ticks start row, visit.Handled → visit.Coalesced zones) ∧
    (visits zones ticks start row).Pairwise fun visit later =>
      visit.Handled → visit.CatchesUpBefore later

/-! ## One tick -/

theorem nextRun_of_enabled {zones : ZoneDatabase} {row : SyncSchedule} (enabled : row.enabled)
    (after : Instant) :
    nextRun zones row after =
      (zones row.timezone).bind fun zone => (row.schedule.nextRunInstants zone after 1).head? := by
  rw [nextRun, computeNextRun, if_pos enabled]
  cases zones row.timezone <;> rfl

/-- What a tick leaves of a schedule that it does not handle. -/
theorem Visit.run_of_not_handled {visit : Visit} (notHandled : ¬ visit.Handled)
    (zones : ZoneDatabase) : visit.tick.run zones visit.row visit.now = visit.row := by
  rw [Tick.run]
  split
  · next due =>
      cases claimed : visit.row.claim visit.now with
      | none => rfl
      | some row => exact absurd ⟨due, by rw [claimed]; rfl⟩ notHandled
  · rfl

/-- A schedule that a tick handles goes on from the anchor. -/
theorem Visit.nextRunAt_run {visit : Visit} (handled : visit.Handled) (zones : ZoneDatabase) :
    (visit.tick.run zones visit.row visit.now).nextRunAt =
      nextRun zones visit.row visit.anchor := by
  obtain ⟨due, isClaimed⟩ := handled
  have enabled := due.1
  rw [Tick.run, if_pos due, Visit.anchor]
  rw [SyncSchedule.claim] at isClaimed ⊢
  split at isClaimed
  · next free =>
      rw [if_pos free]
      simp only
      split
      · simp [SyncSchedule.resetNextRun, nextRun_of_enabled, enabled]
      · simp [SyncSchedule.recordOutcome, nextRun_of_enabled, enabled]
  · cases isClaimed

/-- After a tick that handles the schedule, the next run is later than the tick exactly if
the recurrence has no time from the anchor up to the tick. -/
theorem Visit.coalesced_iff {visit : Visit} (handled : visit.Handled) (zones : ZoneDatabase) :
    visit.Coalesced zones ↔ ∃ zone ∈ zones visit.row.timezone,
      visit.row.schedule.NextAfter zone visit.anchor visit.now := by
  rw [Visit.Coalesced, visit.nextRunAt_run handled, nextRun_of_enabled handled.1.1]
  cases zones visit.row.timezone with
  | none => simp
  | some zone =>
      obtain ⟨first, _, found⟩ := visit.row.schedule.nextRunInstants_first zone visit.anchor
      have later := visit.row.schedule.nextRunInstants_after_iff zone visit.anchor visit.now
      rw [found] at later
      simp [← later, found]

/-! ## Runs -/

/-- A next run that is later than a bound stays so. -/
theorem later_of_coalesced (zones : ZoneDatabase) (bound : Instant) (ticks : List Tick) :
    ∀ (start : Instant) (row : SyncSchedule), bound ≤ start →
      (∀ missed ∈ row.nextRunAt, bound < missed) →
      (∀ visit ∈ visits zones ticks start row, visit.Handled → visit.Coalesced zones) →
      ∀ visit ∈ visits zones ticks start row, ∀ missed ∈ visit.row.nextRunAt, bound < missed := by
  induction ticks with
  | nil =>
      intro start row _ _ _ visit isMem
      cases isMem
  | cons tick rest ih =>
      intro start row started later coalesced
      rw [visits, List.forall_mem_cons] at coalesced ⊢
      apply And.intro later
      have onTime : bound ≤ start + tick.wait := by
        have wait := Int.natCast_nonneg tick.wait
        exact started.trans (le_add_of_nonneg_right wait)
      apply ih _ _ onTime _ coalesced.2
      intro missed isNext
      by_cases handled : Visit.Handled ⟨start + tick.wait, tick, row⟩
      · obtain ⟨next, found, isLater⟩ := coalesced.1 handled
        rw [Option.mem_unique isNext found]
        exact onTime.trans_lt isLater
      · have unchanged := Visit.run_of_not_handled handled zones
        rw [unchanged] at isNext
        exact later missed isNext

/-- Where each tick that handles the schedule leaves a later next run, what was overdue at
one tick is not caught up with at a later one. -/
theorem pairwise_of_coalesced (zones : ZoneDatabase) (ticks : List Tick) :
    ∀ (start : Instant) (row : SyncSchedule),
      (∀ visit ∈ visits zones ticks start row, visit.Handled → visit.Coalesced zones) →
      (visits zones ticks start row).Pairwise fun visit later =>
        visit.Handled → visit.CatchesUpBefore later := by
  induction ticks with
  | nil =>
      intro start row _
      exact List.Pairwise.nil
  | cons tick rest ih =>
      intro start row coalesced
      rw [visits, List.forall_mem_cons] at coalesced
      rw [visits, List.pairwise_cons]
      constructor
      · intro later isMem handled _
        obtain ⟨next, found, isLater⟩ := coalesced.1 handled
        apply later_of_coalesced zones _ rest _ _ (le_refl _) _ coalesced.2 later isMem
        intro missed isNext
        rw [Option.mem_unique isNext found]
        exact isLater
      · exact ih _ _ coalesced.2

/-- Over every run of ticks, misfires are coalesced exactly if at each tick that handles the
schedule, the recurrence has no time from the anchor up to the tick. -/
theorem misfiresCoalesced_iff (zones : ZoneDatabase) (ticks : List Tick) (start : Instant)
    (row : SyncSchedule) :
    MisfiresCoalesced zones ticks start row ↔
      ∀ visit ∈ visits zones ticks start row, visit.Handled →
        ∃ zone ∈ zones visit.row.timezone,
          visit.row.schedule.NextAfter zone visit.anchor visit.now := by
  have each (visit : Visit) : (visit.Handled → visit.Coalesced zones) ↔
      (visit.Handled → ∃ zone ∈ zones visit.row.timezone,
        visit.row.schedule.NextAfter zone visit.anchor visit.now) :=
    forall_congr' fun handled => visit.coalesced_iff handled zones
  rw [MisfiresCoalesced, and_iff_left_of_imp (pairwise_of_coalesced zones ticks start row)]
  simp only [each]

/-- A schedule of every hour that is five hours overdue. -/
def overdueHourly : SyncSchedule where
  id := 7
  tenantId := 1
  scope := "ingestion"
  targetId := "bunq"
  schedule := .hourly ⟨1, by decide⟩
  timezone := "UTC"
  nextRunAt := some 0
  updatedAt := 0

/-- After one run four hours are still overdue. -/
theorem overdueHourly_not_coalesced :
    ¬ MisfiresCoalesced (fun _ => some (.fixed 0)) [{ wait := 0, written := 0 }]
      (LocalTime.hours 5) overdueHourly := by
  intro coalesced
  have late := coalesced.1 ⟨LocalTime.hours 5 + (0 : Nat), { wait := 0, written := 0 },
    overdueHourly⟩ (List.mem_singleton.mpr rfl)
  revert late
  decide +kernel

end FinanceSync.Schedules
