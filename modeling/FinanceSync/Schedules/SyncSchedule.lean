import FinanceSync.Schedules.Recurrence
import FinanceSync.Sync.SyncRun

/-!
# Sync schedules

The row that says when a connection is synced or a destination exported, the
computation of its next run, and `SyncScheduleService.update`, as calls from many
sessions that each read the row, check its version and write it.
-/

namespace FinanceSync.Schedules

open FinanceSync.Sync (flushed)

/-- Per-connection or per-exporter recurrence for scheduled runs. -/
structure SyncSchedule where
  id : Uuid
  tenantId : Uuid
  scope : String
  targetId : String
  enabled : Bool := true
  schedule : Recurrence
  timezone : String
  version : Int := 1
  nextRunAt : Option Instant := none
  lastScheduledAt : Option Instant := none
  lastRunAt : Option Instant := none
  lastRunStatus : Option String := none
  lastRunError : Option String := none
  updatedBy : Option String := none
  updatedAt : Instant
deriving DecidableEq

/-- The rows of `sync_schedules` that are committed. -/
abbrev ScheduleRows := Uuid → Option SyncSchedule

/-- `compute_next_run` -/
def computeNextRun (zones : ZoneDatabase) (row : SyncSchedule) (after : Instant) (count : Nat) :
    Option (List Instant) :=
  if row.enabled then
    (zones row.timezone).map fun zone => row.schedule.nextRunInstants zone after count
  else none

/-- `instants[0] if instants else None` -/
def nextRun (zones : ZoneDatabase) (row : SyncSchedule) (after : Instant) : Option Instant :=
  (computeNextRun zones row after 1).bind List.head?

/-! ## `SyncScheduleService.update` -/

/-- The keyword arguments of `update`. -/
structure ScheduleUpdate where
  schedule : Option Json := none
  timezone : Option String := none
  enabled : Option Bool := none
  version : Option Int := none
  actorUserId : Option String := none
  actorApiKeyId : Option String := none

inductive UpdateError
  /-- `ScheduleNotFoundError` -/
  | notFound (message : String)
  /-- `ScheduleConflictError`, which is answered with 409. -/
  | conflict (message : String)
  | validation (error : ScheduleError)
deriving DecidableEq

/-- The text of `ScheduleConflictError`. -/
def conflictMessage (expected current : Int) : String :=
  "Schedule was modified by another actor (expected version " ++ toString expected ++
    ", current " ++ toString current ++ ")"

/-- The recurrence after the update, normalised before the row is touched. -/
def ScheduleUpdate.newSchedule (zones : ZoneDatabase) (update : ScheduleUpdate)
    (row : SyncSchedule) : Except ScheduleError Recurrence :=
  match update.schedule with
  | some schedule =>
      validateSchedule zones schedule ((update.timezone.filter (· ≠ "")).getD row.timezone)
  | none => .ok row.schedule

def ScheduleUpdate.newTimezone (zones : ZoneDatabase) (update : ScheduleUpdate)
    (row : SyncSchedule) : Except ScheduleError String :=
  match update.timezone with
  | some timezone => (validateTimezone zones timezone).map fun _ => timezone
  | none => .ok row.timezone

/-- The row that an update asks for. -/
def ScheduleUpdate.target (zones : ZoneDatabase) (update : ScheduleUpdate) (row : SyncSchedule) :
    Except ScheduleError SyncSchedule := do
  let schedule ← update.newSchedule zones row
  let timezone ← update.newTimezone zones row
  .ok { row with schedule, timezone, enabled := update.enabled.getD row.enabled }

/-- The fields that `update` sets on a row that changes. -/
def ScheduleUpdate.stamp (zones : ZoneDatabase) (update : ScheduleUpdate) (now : Instant)
    (changed : SyncSchedule) : SyncSchedule :=
  { changed with
    version := changed.version + 1
    updatedBy := update.actorUserId.filter (· ≠ "") <|> update.actorApiKeyId
    updatedAt := now
    nextRunAt := if changed.enabled then nextRun zones changed now else none }

/-- `update` on the row that its `SELECT` found, up to the flush: the changed row, or
`none` where nothing is to change. -/
def ScheduleUpdate.apply (zones : ZoneDatabase) (update : ScheduleUpdate) (now : Instant)
    (found : Option SyncSchedule) : Except UpdateError (Option SyncSchedule) :=
  match found with
  | none => .error (.notFound "Schedule not found")
  | some row =>
      match update.version.filter (· ≠ row.version) with
      | some expected => .error (.conflict (conflictMessage expected row.version))
      | none =>
          match update.target zones row with
          | .error error => .error (.validation error)
          | .ok changed =>
              if changed = row then .ok none
              else .ok (some (update.stamp zones now changed))

/-- The row after a flush of `changed`, which was loaded as `loaded`. -/
def SyncSchedule.flush (loaded changed stored : SyncSchedule) : SyncSchedule :=
  { stored with
    enabled := flushed loaded.enabled changed.enabled stored.enabled
    schedule := flushed loaded.schedule changed.schedule stored.schedule
    timezone := flushed loaded.timezone changed.timezone stored.timezone
    version := flushed loaded.version changed.version stored.version
    nextRunAt := flushed loaded.nextRunAt changed.nextRunAt stored.nextRunAt
    updatedBy := flushed loaded.updatedBy changed.updatedBy stored.updatedBy
    updatedAt := flushed loaded.updatedAt changed.updatedAt stored.updatedAt }

/-! ## Calls from many sessions -/

/-- A call of `update` that carries the version it was based on. -/
structure UpdateCall where
  tenantId : Uuid
  scheduleId : Uuid
  version : Int
  update : ScheduleUpdate

/-- The keyword arguments of the call. -/
def UpdateCall.arguments (call : UpdateCall) : ScheduleUpdate :=
  { call.update with version := some call.version }

/-- `get_for_tenant` -/
def UpdateCall.getForTenant (call : UpdateCall) (rows : ScheduleRows) : Option SyncSchedule :=
  (rows call.scheduleId).filter fun row => row.tenantId = call.tenantId

/-- How far a call is. -/
inductive CallState
  | ready
  /-- The call raised, and its session was rolled back. -/
  | raised (error : UpdateError)
  /-- Nothing was to change. -/
  | unchanged
  /-- The row as it was loaded, and changed in the session. -/
  | changing (loaded changed : SyncSchedule)
  /-- The `UPDATE` is sent; the transaction holds the lock of the row. -/
  | written (loaded changed : SyncSchedule)
  | committed (loaded changed : SyncSchedule)
  /-- The session went away without a commit. -/
  | rolledBack
deriving DecidableEq

structure UpdateSystem where
  rows : ScheduleRows
  /-- The sessions that hold the locks of the rows. -/
  locks : Uuid → Option Nat
  states : Nat → CallState

namespace UpdateSystem

def start (rows : ScheduleRows) : UpdateSystem where
  rows
  locks := fun _ => none
  states := fun _ => .ready

/-- One statement of a session; all see what is committed. -/
inductive Step
  /-- The `SELECT` of a session, with all that `update` does before its flush. -/
  | select (session : Nat) (now : Instant)
  /-- The `UPDATE`, whose filter is the id of the row. -/
  | flush (session : Nat)
  | commit (session : Nat)
  | rollback (session : Nat)

def setState (system : UpdateSystem) (session : Nat) (state : CallState) : UpdateSystem :=
  { system with states := Function.update system.states session state }

/-- The state of a call after its `SELECT`. -/
def select (zones : ZoneDatabase) (call : UpdateCall) (rows : ScheduleRows) (now : Instant) :
    CallState :=
  let found := call.getForTenant rows
  match found, call.arguments.apply zones now found with
  | _, .error error => .raised error
  | some loaded, .ok (some changed) => .changing loaded changed
  | _, .ok _ => .unchanged

/-- One step; a session that is not in the position to take it, or that has to wait for
a lock, does nothing. -/
def step (zones : ZoneDatabase) (calls : Nat → UpdateCall) (system : UpdateSystem) :
    Step → UpdateSystem
  | .select session now =>
      match system.states session with
      | .ready => system.setState session (select zones (calls session) system.rows now)
      | _ => system
  | .flush session =>
      match system.states session with
      | .changing loaded changed =>
          let id := (calls session).scheduleId
          if (system.locks id).isSome then system
          else
            { system.setState session (.written loaded changed) with
              locks := Function.update system.locks id (some session) }
      | _ => system
  | .commit session =>
      match system.states session with
      | .written loaded changed =>
          let id := (calls session).scheduleId
          { system.setState session (.committed loaded changed) with
            rows := Function.update system.rows id
              ((system.rows id).map (SyncSchedule.flush loaded changed))
            locks := Function.update system.locks id none }
      | _ => system
  | .rollback session =>
      match system.states session with
      | .ready | .changing _ _ => system.setState session .rolledBack
      | .written _ _ =>
          { system.setState session .rolledBack with
            locks := Function.update system.locks (calls session).scheduleId none }
      | _ => system

end UpdateSystem

end FinanceSync.Schedules
