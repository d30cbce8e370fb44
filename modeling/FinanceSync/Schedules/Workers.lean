import FinanceSync.Lib.Table
import FinanceSync.Schedules.Misfires

/-!
# Worker replicas

`run_due_schedules` in many replicas at once.  Each of them loads the due schedules, and claims,
runs and records them one after the other; every statement sees what is committed.  A claim
looks at the time of the last claim only.  So a schedule is executed once for each due instant
as long as a claim finds it as it was loaded and no other execution of it is under way.
-/

namespace FinanceSync.Schedules

open Lib

/-- How far a replica is, with the `now` of its tick and the schedules as they were loaded. -/
inductive Phase
  | idle
  | loading (now : Instant)
  /-- At the head of `for schedule in due`. -/
  | looping (now : Instant) (due : List SyncSchedule)
  /-- The claim of a schedule that is far overdue is committed. -/
  | resetting (now : Instant) (schedule : SyncSchedule) (rest : List SyncSchedule)
  /-- The claim is committed, and the execution is under way. -/
  | running (now : Instant) (schedule : SyncSchedule) (rest : List SyncSchedule)

namespace Phase

/-- The schedules that are loaded. -/
def loaded : Phase → List SyncSchedule
  | idle | loading _ => []
  | looping _ due => due
  | resetting _ schedule rest | running _ schedule rest => schedule :: rest

/-- The schedule that is executed. -/
def executed : Phase → Option SyncSchedule
  | running _ schedule _ => some schedule
  | _ => none

end Phase

/-- An execution of a schedule, for the `next_run_at` that it was loaded with. -/
structure Execution where
  scheduleId : Uuid
  nextRunAt : Option Instant
deriving DecidableEq

/-- The table of schedules, the replicas, and the executions that they have started. -/
structure Workers where
  clock : Instant
  schedules : Table SyncSchedule (·.id)
  phases : Nat → Phase
  started : List Execution

/-- One statement of a replica, or a time without one. -/
inductive WorkerStep
  | wait (duration : Nat)
  | tick (replica : Nat)
  | load (replica : Nat)
  | claim (replica : Nat)
  | reset (replica : Nat)
  | record (replica : Nat) (outcome : RunOutcome)

/-- `_load_due_schedules` -/
def loadDueSchedules (order : OrderBy fun row : SyncSchedule => row.nextRunAt.getD 0)
    (rows : List SyncSchedule) (now : Instant) : List SyncSchedule :=
  (order.sort (rows.filter fun row => row.IsDue now)).take 200

namespace Workers

def start (clock : Instant) (schedules : Table SyncSchedule (·.id)) : Workers where
  clock
  schedules
  phases := fun _ => .idle
  started := []

/-- The row of an id. -/
def stored (workers : Workers) (id : Uuid) : Option SyncSchedule :=
  workers.schedules.rows.find? (·.id = id)

/-- The schedule that a replica executes. -/
def runs (workers : Workers) (replica : Nat) : Option SyncSchedule :=
  (workers.phases replica).executed

def setPhase (workers : Workers) (replica : Nat) (phase : Phase) : Workers :=
  { workers with phases := Function.update workers.phases replica phase }

def save (workers : Workers) (row : SyncSchedule) : Workers :=
  { workers with schedules := workers.schedules.save row }

/-- The row that a claim at `now` leaves, if it wins. -/
def claimed (workers : Workers) (now : Instant) (schedule : SyncSchedule) : Option SyncSchedule :=
  (workers.stored schedule.id).bind (·.claim now)

/-- The loop on one schedule, up to its execution. -/
def claim (workers : Workers) (replica : Nat) (now : Instant) (schedule : SyncSchedule)
    (rest : List SyncSchedule) : Workers :=
  match workers.claimed now schedule with
  | none => workers.setPhase replica (.looping now rest)
  | some row =>
      if catchupMaxDelay < schedule.dueDelay now then
        (workers.save row).setPhase replica (.resetting now schedule rest)
      else
        { (workers.save row).setPhase replica (.running now schedule rest) with
          started := workers.started ++ [⟨schedule.id, schedule.nextRunAt⟩] }

/-- Write the row of a schedule anew, and go on in the loop. -/
def rewrite (workers : Workers) (replica : Nat) (now : Instant) (schedule : SyncSchedule)
    (rest : List SyncSchedule) (change : SyncSchedule → SyncSchedule) : Workers :=
  match workers.stored schedule.id with
  | none => workers.setPhase replica (.looping now rest)
  | some row => (workers.save (change row)).setPhase replica (.looping now rest)

/-- One step; a replica that is not in the position to take it does nothing. -/
def step (zones : ZoneDatabase) (order : OrderBy fun row : SyncSchedule => row.nextRunAt.getD 0)
    (workers : Workers) : WorkerStep → Workers
  | .wait duration => { workers with clock := workers.clock + duration }
  | .tick replica =>
      match workers.phases replica with
      | .idle => workers.setPhase replica (.loading workers.clock)
      | _ => workers
  | .load replica =>
      match workers.phases replica with
      | .loading now =>
          workers.setPhase replica
            (.looping now (loadDueSchedules order workers.schedules.rows now))
      | _ => workers
  | .claim replica =>
      match workers.phases replica with
      | .looping _ [] => workers.setPhase replica .idle
      | .looping now (schedule :: rest) => workers.claim replica now schedule rest
      | _ => workers
  | .reset replica =>
      match workers.phases replica with
      | .resetting now schedule rest =>
          workers.rewrite replica now schedule rest fun row =>
            row.resetNextRun zones now workers.clock
      | _ => workers
  | .record replica outcome =>
      match workers.phases replica with
      | .running now schedule rest =>
          workers.rewrite replica now schedule rest fun row =>
            schedule.recordOutcome zones row now outcome
      | _ => workers

/-! ## Steps in order -/

/-- A schedule is stored with the next run that was loaded, and nobody executes it. -/
def Undisturbed (workers : Workers) (schedule : SyncSchedule) : Prop :=
  (∀ row ∈ workers.stored schedule.id, row.nextRunAt = schedule.nextRunAt) ∧
    ∀ replica, ∀ other ∈ workers.runs replica, other.id ≠ schedule.id

/-- After `after` the recurrence goes on later than what was due. -/
def GoesOn (zones : ZoneDatabase) (workers : Workers) (schedule : SyncSchedule)
    (after : Instant) : Prop :=
  ∀ row ∈ workers.stored schedule.id, ∀ zone ∈ zones row.timezone,
    ∀ due ∈ schedule.nextRunAt, row.schedule.NextAfter zone after due

/-- A schedule is executed or reset while it is undisturbed, and goes on later. -/
def InOrder (zones : ZoneDatabase) (workers : Workers) : WorkerStep → Prop
  | .claim replica =>
      match workers.phases replica with
      | .looping now (schedule :: _) =>
          (workers.claimed now schedule).isSome → ¬ catchupMaxDelay < schedule.dueDelay now →
            workers.Undisturbed schedule
      | _ => True
  | .reset replica =>
      match workers.phases replica with
      | .resetting now schedule _ =>
          workers.Undisturbed schedule ∧ workers.GoesOn zones schedule now
      | _ => True
  | .record replica _ =>
      match workers.phases replica with
      | .running now schedule _ =>
          workers.GoesOn zones schedule (schedule.nextRunAt.getD now)
      | _ => True
  | _ => True

/-! ## Rows and phases -/

theorem phases_setPhase (workers : Workers) (replica : Nat) (phase : Phase) (other : Nat) :
    (workers.setPhase replica phase).phases other =
      if other = replica then phase else workers.phases other :=
  Function.update_apply workers.phases replica phase other

theorem runs_setPhase (workers : Workers) (replica : Nat) (phase : Phase) (other : Nat) :
    (workers.setPhase replica phase).runs other =
      if other = replica then phase.executed else workers.runs other := by
  rw [runs, phases_setPhase]
  split
  · rfl
  · rfl

theorem stored_id {workers : Workers} {id : Uuid} {row : SyncSchedule}
    (isStored : workers.stored id = some row) : row.id = id := by
  have found := List.find?_some isStored
  exact of_decide_eq_true found

theorem stored_save (workers : Workers) (row : SyncSchedule) (id : Uuid) :
    (workers.save row).stored id =
      (workers.stored id).map fun old => if old.id = row.id then row else old := by
  have sameKey : ((fun other : SyncSchedule => decide (other.id = id)) ∘ fun old =>
      if old.id = row.id then row else old) = fun other => decide (other.id = id) := by
    funext old
    by_cases same : old.id = row.id
    · simp [same]
    · simp [same]
  rw [stored, save, Table.save, List.find?_map, sameKey]
  rfl

/-- Where a row is written that has the same next run, all have. -/
theorem nextRunAt_save {workers : Workers} {row old : SyncSchedule}
    (isStored : workers.stored row.id = some old) (sameNext : row.nextRunAt = old.nextRunAt)
    {id : Uuid} {new : SyncSchedule} (isNew : new ∈ (workers.save row).stored id) :
    ∃ before ∈ workers.stored id, before.nextRunAt = new.nextRunAt := by
  rw [stored_save] at isNew
  obtain ⟨before, isBefore, rfl⟩ := Option.mem_map.mp isNew
  refine ⟨before, isBefore, ?_⟩
  split
  · next sameId =>
      rw [stored_id isBefore] at sameId
      rw [sameId, isStored] at isBefore
      cases isBefore
      exact sameNext.symm
  · rfl

/-- The loaded schedules are due; a replica executes a schedule with the next run of its row,
and alone; and all that was started is executed still, or the schedule has gone on. -/
structure Exclusive (workers : Workers) : Prop where
  loaded : ∀ replica, ∀ schedule ∈ (workers.phases replica).loaded,
    ∃ due, schedule.nextRunAt = some due
  current : ∀ replica, ∀ schedule ∈ workers.runs replica,
    ∀ row ∈ workers.stored schedule.id, row.nextRunAt = schedule.nextRunAt
  alone : ∀ replica, ∀ schedule ∈ workers.runs replica,
    ∀ other, ∀ second ∈ workers.runs other, second.id = schedule.id → other = replica
  past : ∀ execution ∈ workers.started,
    (∃ replica, ∃ schedule ∈ workers.runs replica, schedule.id = execution.scheduleId ∧
      schedule.nextRunAt = execution.nextRunAt) ∨
    ∀ row ∈ workers.stored execution.scheduleId, ∀ next ∈ row.nextRunAt,
      ∀ due ∈ execution.nextRunAt, due < next
  once : workers.started.Nodup

theorem start_exclusive (clock : Instant) (schedules : Table SyncSchedule (·.id)) :
    (start clock schedules).Exclusive where
  loaded := fun _ _ isMem => absurd isMem List.not_mem_nil
  current := fun _ _ running => nomatch running
  alone := fun _ _ running => nomatch running
  past := List.forall_mem_nil _
  once := List.nodup_nil

namespace Exclusive

variable {workers : Workers} {replica : Nat} {phase : Phase} {row old schedule : SyncSchedule}

theorem loaded_setPhase (exclusive : workers.Exclusive)
    (loaded : ∀ schedule ∈ phase.loaded, ∃ due, schedule.nextRunAt = some due) (other : Nat) :
    ∀ schedule ∈ ((workers.setPhase replica phase).phases other).loaded,
      ∃ due, schedule.nextRunAt = some due := by
  rw [phases_setPhase]
  split
  · exact loaded
  · exact exclusive.loaded other

/-- A replica goes on without an execution. -/
theorem setPhase (exclusive : workers.Exclusive) (before : workers.runs replica = none)
    (after : phase.executed = none)
    (loaded : ∀ schedule ∈ phase.loaded, ∃ due, schedule.nextRunAt = some due) :
    (workers.setPhase replica phase).Exclusive := by
  have sameRuns : (workers.setPhase replica phase).runs = workers.runs := by
    funext other
    rw [runs_setPhase]
    split
    · next same => rw [same, after, before]
    · rfl
  exact
    { loaded := exclusive.loaded_setPhase loaded
      current := by
        rw [sameRuns]
        exact exclusive.current
      alone := by
        rw [sameRuns]
        exact exclusive.alone
      past := by
        rw [sameRuns]
        exact exclusive.past
      once := exclusive.once }

/-- A row is written that has the same next run. -/
theorem save (exclusive : workers.Exclusive) (isStored : workers.stored row.id = some old)
    (sameNext : row.nextRunAt = old.nextRunAt) : (workers.save row).Exclusive where
  loaded := exclusive.loaded
  current := by
    intro replica schedule running new isNew
    obtain ⟨before, isBefore, same⟩ := nextRunAt_save isStored sameNext isNew
    rw [← same]
    exact exclusive.current replica schedule running before isBefore
  alone := exclusive.alone
  past := by
    intro execution isStarted
    refine (exclusive.past execution isStarted).imp id ?_
    intro behind new isNew
    obtain ⟨before, isBefore, same⟩ := nextRunAt_save isStored sameNext isNew
    rw [← same]
    exact behind before isBefore
  once := exclusive.once

/-- An execution is started. -/
theorem execute (exclusive : workers.Exclusive) (before : workers.runs replica = none)
    (undisturbed : workers.Undisturbed schedule) (isStored : workers.stored schedule.id = some row)
    {now : Instant} {rest : List SyncSchedule}
    (loaded : ∀ other ∈ schedule :: rest, ∃ due, other.nextRunAt = some due) :
    Exclusive { workers.setPhase replica (.running now schedule rest) with
      started := workers.started ++ [⟨schedule.id, schedule.nextRunAt⟩] } := by
  set next : Workers := { workers.setPhase replica (.running now schedule rest) with
    started := workers.started ++ [⟨schedule.id, schedule.nextRunAt⟩] }
  have runs (other : Nat) :
      next.runs other = if other = replica then some schedule else workers.runs other :=
    runs_setPhase workers replica _ other
  have isCurrent := undisturbed.1 row isStored
  exact
    { loaded := exclusive.loaded_setPhase loaded
      current := by
        intro other second running
        rw [runs] at running
        split at running
        · cases running
          exact undisturbed.1
        · exact exclusive.current other second running
      alone := by
        intro first one firstRuns second other secondRuns same
        rw [runs] at firstRuns secondRuns
        split at firstRuns
        · next isFirst =>
            cases firstRuns
            split at secondRuns
            · next isSecond => exact isSecond.trans isFirst.symm
            · exact absurd same (undisturbed.2 second other secondRuns)
        · split at secondRuns
          · cases secondRuns
            exact absurd same.symm (undisturbed.2 first one firstRuns)
          · exact exclusive.alone first one firstRuns second other secondRuns same
      past := by
        intro execution isStarted
        obtain older | new := List.mem_append.mp isStarted
        · refine (exclusive.past execution older).imp ?_ id
          rintro ⟨other, second, running, isOf⟩
          refine ⟨other, second, ?_, isOf⟩
          rw [runs, if_neg]
          · exact running
          · rintro rfl
            rw [before] at running
            cases running
        · cases List.mem_singleton.mp new
          refine .inl ⟨replica, schedule, ?_, rfl, rfl⟩
          rw [runs, if_pos rfl]
          rfl
      once := by
        rw [List.nodup_append]
        refine ⟨exclusive.once, List.nodup_singleton _, ?_⟩
        rintro execution older new isNew rfl
        cases List.mem_singleton.mp isNew
        obtain ⟨other, second, running, sameId, _⟩ | behind := exclusive.past _ older
        · exact undisturbed.2 other second running sameId
        · obtain ⟨due, isDue⟩ := loaded schedule List.mem_cons_self
          exact lt_irrefl due (behind row isStored due (isCurrent.trans isDue) due isDue) }

/-- A schedule that nobody else executes goes on. -/
theorem goOn (exclusive : workers.Exclusive) {next : Workers}
    (phases : next.phases = Function.update workers.phases replica phase)
    (started : next.started = workers.started)
    (elsewhere : ∀ id, id ≠ schedule.id → next.stored id = workers.stored id)
    (here : ∀ new ∈ next.stored schedule.id,
      (∃ old ∈ workers.stored schedule.id, old.nextRunAt = schedule.nextRunAt) ∧
        ∀ later ∈ new.nextRunAt, ∀ due ∈ schedule.nextRunAt, due < later)
    (only : ∀ other, ∀ second ∈ workers.runs other, second.id = schedule.id → other = replica)
    (own : ∀ second ∈ workers.runs replica, second = schedule) (after : phase.executed = none)
    (isDue : ∃ due, schedule.nextRunAt = some due)
    (loaded : ∀ schedule ∈ phase.loaded, ∃ due, schedule.nextRunAt = some due) :
    next.Exclusive := by
  have runs (other : Nat) (second : SyncSchedule) :
      second ∈ next.runs other ↔ other ≠ replica ∧ second ∈ workers.runs other := by
    rw [Workers.runs, phases, Function.update_apply]
    split
    · next same =>
        rw [after]
        exact iff_of_false (Option.not_mem_none second) fun running => running.1 same
    · next ne => exact (and_iff_right ne).symm
  have notHere {other : Nat} {second : SyncSchedule} (running : second ∈ next.runs other) :
      second.id ≠ schedule.id := by
    intro same
    obtain ⟨ne, running⟩ := (runs other second).mp running
    exact ne (only other second running same)
  exact
    { loaded := by
        intro other
        rw [phases, Function.update_apply]
        split
        · exact loaded
        · exact exclusive.loaded other
      current := by
        intro other second running
        rw [elsewhere _ (notHere running)]
        exact exclusive.current other second ((runs other second).mp running).2
      alone := by
        intro first one firstRuns second other secondRuns
        exact exclusive.alone first one ((runs first one).mp firstRuns).2 second other
          ((runs second other).mp secondRuns).2
      past := by
        rw [started]
        intro execution isStarted
        obtain ⟨other, second, running, sameId, sameNext⟩ | behind :=
          exclusive.past execution isStarted
        · by_cases same : other = replica
          · rw [same] at running
            rw [own second running] at sameId sameNext
            rw [← sameId, ← sameNext]
            exact .inr fun new isNew => (here new isNew).2
          · exact .inl ⟨other, second, (runs other second).mpr ⟨same, running⟩, sameId, sameNext⟩
        · refine .inr ?_
          by_cases same : execution.scheduleId = schedule.id
          · rw [same] at behind ⊢
            intro new isNew later isLater handled isHandled
            obtain ⟨⟨old, isOld, isCurrent⟩, goesOn⟩ := here new isNew
            obtain ⟨due, isDue⟩ := isDue
            have earlier := behind old isOld due (isCurrent.trans isDue) handled isHandled
            exact earlier.trans (goesOn later isLater due isDue)
          · rw [elsewhere _ same]
            exact behind
      once := by
        rw [started]
        exact exclusive.once }

end Exclusive

/-! ## Steps -/

/-- The next run of a row is later than what the recurrence goes on after. -/
theorem lt_nextRun {zones : ZoneDatabase} {row : SyncSchedule} {after bound next : Instant}
    (goesOn : ∀ zone ∈ zones row.timezone, row.schedule.NextAfter zone after bound)
    (isNext : nextRun zones row after = some next) : bound < next := by
  cases enabled : row.enabled with
  | false =>
      rw [nextRun, computeNextRun, if_neg (by simp [enabled])] at isNext
      cases isNext
  | true =>
      rw [nextRun_of_enabled enabled] at isNext
      obtain ⟨zone, isZone, isFirst⟩ := Option.bind_eq_some_iff.mp isNext
      exact (row.schedule.nextRunInstants_after_iff zone after bound).mpr
        (goesOn zone isZone) next isFirst

theorem mem_loadDueSchedules {order : OrderBy fun row : SyncSchedule => row.nextRunAt.getD 0}
    {rows : List SyncSchedule} {now : Instant} {schedule : SyncSchedule}
    (isLoaded : schedule ∈ loadDueSchedules order rows now) :
    ∃ due, schedule.nextRunAt = some due := by
  have sorted := order.mem_sort.mp (List.mem_of_mem_take isLoaded)
  have isDue := of_decide_eq_true (List.mem_filter.mp sorted).2
  obtain ⟨due, isNext, _⟩ := isDue.2
  exact ⟨due, isNext⟩

/-- A claim writes neither the id nor the next run. -/
theorem claim_keeps {row claimed : SyncSchedule} {now : Instant}
    (wins : row.claim now = some claimed) :
    claimed.id = row.id ∧ claimed.nextRunAt = row.nextRunAt := by
  rw [SyncSchedule.claim] at wins
  split at wins
  · cases wins
    exact ⟨rfl, rfl⟩
  · cases wins

/-- One schedule of the loop. -/
theorem Exclusive.claim {workers : Workers} (exclusive : workers.Exclusive) {replica : Nat}
    {now : Instant} {schedule : SyncSchedule} {rest : List SyncSchedule}
    (isPhase : workers.phases replica = .looping now (schedule :: rest))
    (undisturbed : (workers.claimed now schedule).isSome →
      ¬ catchupMaxDelay < schedule.dueDelay now → workers.Undisturbed schedule) :
    (workers.claim replica now schedule rest).Exclusive := by
  have before : workers.runs replica = none := by
    rw [runs, isPhase]
    rfl
  have due : ∀ other ∈ schedule :: rest, ∃ due, other.nextRunAt = some due := by
    have loaded := exclusive.loaded replica
    rwa [isPhase] at loaded
  rw [Workers.claim]
  cases isClaimed : workers.claimed now schedule with
  | none => exact exclusive.setPhase before rfl (List.forall_mem_cons.mp due).2
  | some row =>
      obtain ⟨old, isOld, wins⟩ := Option.bind_eq_some_iff.mp isClaimed
      obtain ⟨sameId, sameNext⟩ := claim_keeps wins
      have isStored : workers.stored row.id = some old := by rwa [sameId, stored_id isOld]
      have saved := exclusive.save isStored sameNext
      dsimp only
      split
      · exact saved.setPhase before rfl due
      · next onTime =>
          obtain ⟨isCurrent, nobody⟩ := undisturbed (by rw [isClaimed]; rfl) onTime
          have isRow := stored_save workers row schedule.id
          rw [isOld, Option.map_some, if_pos sameId.symm] at isRow
          refine saved.execute before ⟨?_, nobody⟩ isRow due
          intro new isNew
          obtain ⟨first, isFirst, same⟩ := nextRunAt_save isStored sameNext isNew
          rw [← same]
          exact isCurrent first isFirst

/-- A row is written anew that has a later next run. -/
theorem Exclusive.rewrite {workers : Workers} (exclusive : workers.Exclusive) {replica : Nat}
    {now : Instant} {schedule : SyncSchedule} {rest : List SyncSchedule}
    {change : SyncSchedule → SyncSchedule}
    (loaded : ∀ other ∈ schedule :: rest, ∃ due, other.nextRunAt = some due)
    (isCurrent : ∀ row ∈ workers.stored schedule.id, row.nextRunAt = schedule.nextRunAt)
    (only : ∀ other, ∀ second ∈ workers.runs other, second.id = schedule.id → other = replica)
    (own : ∀ second ∈ workers.runs replica, second = schedule)
    (sameId : ∀ row, (change row).id = row.id)
    (goesOn : ∀ row ∈ workers.stored schedule.id, ∀ later ∈ (change row).nextRunAt,
      ∀ due ∈ schedule.nextRunAt, due < later) :
    (workers.rewrite replica now schedule rest change).Exclusive := by
  have isDue := (List.forall_mem_cons.mp loaded).1
  have dueRest : ∀ other ∈ (Phase.looping now rest).loaded, ∃ due, other.nextRunAt = some due :=
    (List.forall_mem_cons.mp loaded).2
  rw [Workers.rewrite]
  cases isStored : workers.stored schedule.id with
  | none =>
      have phases : (workers.setPhase replica (.looping now rest)).phases =
          Function.update workers.phases replica (.looping now rest) := rfl
      apply exclusive.goOn phases rfl (fun _ _ => rfl) _ only own rfl isDue dueRest
      intro new isNew
      cases isStored.symm.trans isNew
  | some row =>
      have isRow := stored_id isStored
      have phases : ((workers.save (change row)).setPhase replica (.looping now rest)).phases =
          Function.update workers.phases replica (.looping now rest) := rfl
      apply exclusive.goOn phases rfl _ _ only own rfl isDue dueRest
      · intro id ne
        refine (stored_save workers (change row) id).trans ?_
        cases other : workers.stored id with
        | none => rfl
        | some old =>
            rw [Option.map_some, if_neg]
            rwa [stored_id other, sameId, isRow]
      · intro new isNew
        have saved := (stored_save workers (change row) schedule.id).symm.trans isNew
        rw [isStored, Option.map_some, if_pos (sameId row).symm] at saved
        cases saved
        exact ⟨⟨row, isStored, isCurrent row isStored⟩, goesOn row isStored⟩

/-- A far overdue schedule goes on from now. -/
theorem Exclusive.reset {workers : Workers} (exclusive : workers.Exclusive) {zones : ZoneDatabase}
    {replica : Nat} {now : Instant} {schedule : SyncSchedule} {rest : List SyncSchedule}
    (isPhase : workers.phases replica = .resetting now schedule rest)
    (undisturbed : workers.Undisturbed schedule)
    (goesOn : workers.GoesOn zones schedule now) :
    (workers.rewrite replica now schedule rest fun row =>
      row.resetNextRun zones now workers.clock).Exclusive := by
  have before : workers.runs replica = none := by
    rw [runs, isPhase]
    rfl
  have loaded : ∀ other ∈ schedule :: rest, ∃ due, other.nextRunAt = some due := by
    have loaded := exclusive.loaded replica
    rwa [isPhase] at loaded
  obtain ⟨isCurrent, nobody⟩ := undisturbed
  by_cases enabled : ∃ row ∈ workers.stored schedule.id, row.enabled = false
  · obtain ⟨row, isStored, disabled⟩ := enabled
    have sameRow : row.resetNextRun zones now workers.clock = row := by
      rw [SyncSchedule.resetNextRun, if_neg (by simp [disabled])]
    have isRow : workers.stored row.id = some row := by rwa [stored_id isStored]
    rw [Workers.rewrite, isStored]
    dsimp only
    rw [sameRow]
    exact (exclusive.save isRow rfl).setPhase before rfl (List.forall_mem_cons.mp loaded).2
  · apply exclusive.rewrite loaded isCurrent
    · intro other second running same
      exact absurd same (nobody other second running)
    · intro second running
      cases before.symm.trans running
    · intro row
      rw [SyncSchedule.resetNextRun]
      split
      · rfl
      · rfl
    · intro row isStored later isLater due isDue
      have isEnabled : row.enabled = true := by
        by_contra disabled
        exact enabled ⟨row, isStored, Bool.eq_false_of_not_eq_true disabled⟩
      rw [SyncSchedule.resetNextRun, if_pos isEnabled] at isLater
      exact lt_nextRun (fun zone isZone => goesOn row isStored zone isZone due isDue) isLater

/-- An executed schedule goes on from the instant that it was due at. -/
theorem Exclusive.record {workers : Workers} (exclusive : workers.Exclusive)
    {zones : ZoneDatabase} {replica : Nat} {now : Instant} {schedule : SyncSchedule}
    {rest : List SyncSchedule} (isPhase : workers.phases replica = .running now schedule rest)
    (goesOn : workers.GoesOn zones schedule (schedule.nextRunAt.getD now)) (outcome : RunOutcome) :
    (workers.rewrite replica now schedule rest fun row =>
      schedule.recordOutcome zones row now outcome).Exclusive := by
  have running : workers.runs replica = some schedule := by
    rw [runs, isPhase]
    rfl
  have loaded : ∀ other ∈ schedule :: rest, ∃ due, other.nextRunAt = some due := by
    have loaded := exclusive.loaded replica
    rwa [isPhase] at loaded
  apply exclusive.rewrite loaded (exclusive.current replica schedule running)
  · exact exclusive.alone replica schedule running
  · intro second isSecond
    exact Option.some_injective _ (isSecond.symm.trans running)
  · intro row
    rfl
  · intro row isStored later isLater due isDue
    rw [SyncSchedule.recordOutcome] at isLater
    dsimp only at isLater
    split at isLater
    · exact lt_nextRun (fun zone isZone => goesOn row isStored zone isZone due isDue) isLater
    · cases isLater

/-- A step that is in order keeps executions exclusive. -/
theorem Exclusive.step {workers : Workers} (exclusive : workers.Exclusive)
    {zones : ZoneDatabase} {order : OrderBy fun row : SyncSchedule => row.nextRunAt.getD 0}
    {taken : WorkerStep} (inOrder : workers.InOrder zones taken) :
    (workers.step zones order taken).Exclusive := by
  cases taken with
  | wait duration =>
      exact ⟨exclusive.loaded, exclusive.current, exclusive.alone, exclusive.past, exclusive.once⟩
  | tick replica =>
      rw [Workers.step]
      split
      · next isPhase =>
          have idle : workers.runs replica = none := by
            rw [runs, isPhase]
            rfl
          exact exclusive.setPhase idle rfl (List.forall_mem_nil _)
      · exact exclusive
  | load replica =>
      rw [Workers.step]
      split
      · next isPhase =>
          have idle : workers.runs replica = none := by
            rw [runs, isPhase]
            rfl
          exact exclusive.setPhase idle rfl fun _ isLoaded => mem_loadDueSchedules isLoaded
      · exact exclusive
  | claim replica =>
      rw [Workers.step]
      rw [InOrder] at inOrder
      split
      · next isPhase =>
          have idle : workers.runs replica = none := by
            rw [runs, isPhase]
            rfl
          exact exclusive.setPhase idle rfl (List.forall_mem_nil _)
      · next isPhase =>
          rw [isPhase] at inOrder
          exact exclusive.claim isPhase inOrder
      · exact exclusive
  | reset replica =>
      rw [Workers.step]
      rw [InOrder] at inOrder
      split
      · next isPhase =>
          rw [isPhase] at inOrder
          exact exclusive.reset isPhase inOrder.1 inOrder.2
      · exact exclusive
  | record replica outcome =>
      rw [Workers.step]
      rw [InOrder] at inOrder
      split
      · next isPhase =>
          rw [isPhase] at inOrder
          exact exclusive.record isPhase inOrder outcome
      · exact exclusive

/-- In every state of a run whose steps are in order, no execution was started twice for one
due instant of a schedule. -/
theorem started_once (zones : ZoneDatabase)
    (order : OrderBy fun row : SyncSchedule => row.nextRunAt.getD 0) (clock : Instant)
    (schedules : Table SyncSchedule (·.id)) (before after : List WorkerStep)
    (inOrder : Along (step zones order) (InOrder zones) (start clock schedules)
      (before ++ after)) :
    (runAll (step zones order) (start clock schedules) before).started.Nodup := by
  have preserved : ∀ workers taken, Exclusive workers → workers.InOrder zones taken →
      (workers.step zones order taken).Exclusive :=
    fun _ _ exclusive inOrder => exclusive.step inOrder
  exact (reached_invariant preserved (start_exclusive clock schedules) inOrder).1.once

/-! ## A run that takes longer than the claim grace -/

/-- An hourly schedule that is due now. -/
def dueHourly : Table SyncSchedule (·.id) where
  rows := [overdueHourly]
  next := 8
  nodup := List.nodup_singleton _
  below := by decide

/-- The steps of a tick up to the execution of one schedule. -/
def upToExecution (replica : Nat) : List WorkerStep :=
  [.tick replica, .load replica, .claim replica]

/-- A replica executes and records a schedule that is due. -/
theorem started_once_single :
    (runAll (step (fun _ => some (.fixed 0)) (OrderBy.stable _)) (start 0 dueHourly)
      (upToExecution 0 ++ [.record 0 {}])).started.Nodup := by
  have claims : InOrder (fun _ => some (.fixed 0))
      (runAll (step (fun _ => some (.fixed 0)) (OrderBy.stable _)) (start 0 dueHourly)
        [.tick 0, .load 0]) (.claim 0) := by
    intro _ _
    refine ⟨by decide +kernel, fun replica other running => ?_⟩
    cases replica with
    | zero => cases running
    | succ => cases running
  have records : InOrder (fun _ => some (.fixed 0))
      (runAll (step (fun _ => some (.fixed 0)) (OrderBy.stable _)) (start 0 dueHourly)
        (upToExecution 0)) (.record 0 {}) := by
    intro row isStored zone isZone due isDue
    cases isStored
    cases isZone
    cases isDue
    exact (hourly_nextAfter_iff _ _ _ _).mpr (by decide)
  exact started_once (fun _ => some (.fixed 0)) (OrderBy.stable _) 0 dueHourly _ []
    ⟨trivial, trivial, claims, records, trivial⟩

/-- Six minutes into a run another replica starts it again. -/
theorem long_run_started_twice :
    ¬ (runAll (step (fun _ => some (.fixed 0)) (OrderBy.stable _)) (start 0 dueHourly)
      (upToExecution 0 ++ [.wait (6 * 60 * 1000000)] ++ upToExecution 1)).started.Nodup := by
  decide +kernel

end Workers

end FinanceSync.Schedules
