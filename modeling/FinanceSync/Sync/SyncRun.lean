import FinanceSync.Data.Values
import FinanceSync.Lib.Run
import Mathlib.Logic.Function.Basic

/-!
# Sync runs

The row that a pipeline keeps about its run, and who writes to it: the pipeline
in its own long transactions, the recovery of stale runs, an operator who stops
a run, and the handler of a failed pipeline, which writes in a fresh session.

A transaction that has written a version of a row holds the lock of the row
until it ends.  A statement of another transaction that needs the row waits for
that, which is modelled by a step that does nothing yet.
-/

namespace FinanceSync.Sync

/-- Lifecycle state of a connector ingestion run. -/
inductive SyncRunStatus
  | running
  | completed
  | failed
  | cancelled
deriving DecidableEq, Repr

/-- Tracks a single ingestion / sync run. -/
structure SyncRun where
  id : Uuid
  connector : String
  connectionId : Option Uuid
  status : SyncRunStatus := .running
  startedAt : Instant
  completedAt : Option Instant := none
  currentStage : Option String := none
  currentAccountId : Option String := none
  lastActivityAt : Option Instant := none
  cursor : Option Instant := none
  itemsProcessed : Option Nat := none
  errorMessage : Option String := none
  errorCategory : Option String := none
  retryAfterAt : Option Instant := none
  rateLimitAttempts : Nat := 0
  rateLimitScope : Option String := none
  lastHttpStatus : Option Nat := none
deriving DecidableEq

/-- An active run of the connection: what `start_sync_run` looks for, and what
`uq_sync_runs_active_connection` allows once. -/
def SyncRun.activeOn (connectionId : Uuid) (run : SyncRun) : Bool :=
  run.connectionId = some connectionId && run.status = .running

/-! ## What is written to one row -/

/-- The keyword arguments of `complete_sync_run`. -/
structure Completion where
  status : SyncRunStatus := .completed
  itemsProcessed : Option Nat := none
  errorMessage : Option String := none
  errorCategory : Option String := none
  cursor : Option Instant := none
  retryAfterAt : Option Instant := none
  rateLimitAttempts : Nat := 0
  rateLimitScope : Option String := none
  lastHttpStatus : Option Nat := none
deriving DecidableEq

/-- `complete_sync_run`, up to the flush. -/
def completeSyncRun (now : Instant) (completion : Completion) (run : SyncRun) : SyncRun :=
  { run with
    status := completion.status
    completedAt := some now
    currentStage := some (if completion.status = .completed then "completed" else "failed")
    lastActivityAt := some now
    itemsProcessed := completion.itemsProcessed <|> run.itemsProcessed
    errorMessage := completion.errorMessage <|> run.errorMessage
    errorCategory := completion.errorCategory <|> run.errorCategory
    cursor := completion.cursor <|> run.cursor
    retryAfterAt := completion.retryAfterAt <|> run.retryAfterAt
    rateLimitAttempts :=
      if completion.rateLimitAttempts = 0 then run.rateLimitAttempts
      else completion.rateLimitAttempts
    rateLimitScope := completion.rateLimitScope <|> run.rateLimitScope
    lastHttpStatus := completion.lastHttpStatus <|> run.lastHttpStatus }

/-- A column after a flush: the session sends it if its value is not the one that
was loaded. -/
def flushed {α : Type} [DecidableEq α] (loaded changed stored : α) : α :=
  if changed = loaded then stored else changed

/-- The row after a flush of `changed`, which was loaded as `loaded`. -/
def SyncRun.flush (loaded changed stored : SyncRun) : SyncRun :=
  { stored with
    status := flushed loaded.status changed.status stored.status
    completedAt := flushed loaded.completedAt changed.completedAt stored.completedAt
    currentStage := flushed loaded.currentStage changed.currentStage stored.currentStage
    lastActivityAt := flushed loaded.lastActivityAt changed.lastActivityAt stored.lastActivityAt
    itemsProcessed := flushed loaded.itemsProcessed changed.itemsProcessed stored.itemsProcessed
    errorMessage := flushed loaded.errorMessage changed.errorMessage stored.errorMessage
    errorCategory := flushed loaded.errorCategory changed.errorCategory stored.errorCategory
    cursor := flushed loaded.cursor changed.cursor stored.cursor
    retryAfterAt := flushed loaded.retryAfterAt changed.retryAfterAt stored.retryAfterAt
    rateLimitAttempts :=
      flushed loaded.rateLimitAttempts changed.rateLimitAttempts stored.rateLimitAttempts
    rateLimitScope := flushed loaded.rateLimitScope changed.rateLimitScope stored.rateLimitScope
    lastHttpStatus := flushed loaded.lastHttpStatus changed.lastHttpStatus stored.lastHttpStatus }

/-- The values of `update_sync_run_progress`. -/
def SyncRun.progress (now : Instant) (stage : String) (accountId : Option String)
    (run : SyncRun) : SyncRun :=
  { run with
    currentStage := some stage
    currentAccountId := accountId
    lastActivityAt := some now }

/-- The values of `recover_stale_sync_runs`. -/
def SyncRun.recovered (now : Instant) (run : SyncRun) : SyncRun :=
  { run with
    status := .failed
    completedAt := some now
    errorMessage := some "Run automatisch beëindigd: worker was niet meer actief"
    errorCategory := some "stale_run" }

/-- The filter of `recover_stale_sync_runs`. -/
def SyncRun.staleOn (connectionId : Uuid) (staleAfterMinutes : Int) (now : Instant)
    (run : SyncRun) : Bool :=
  run.activeOn connectionId && run.startedAt < now - staleAfterMinutes * 60 * 1000000

/-- The values of `stop_sync_run`. -/
def SyncRun.stopped (now : Instant) (run : SyncRun) : SyncRun :=
  { run with
    status := .cancelled
    completedAt := some now
    lastActivityAt := some now
    currentStage := some "stop_requested"
    errorMessage := some "Sync handmatig gestopt door gebruiker"
    errorCategory := some "cancelled_by_user" }

/-- What the error handlers of a pipeline tell about the error. -/
structure Failure where
  message : String
  category : String := "unknown"
  retryAfterAt : Option Instant := none
  rateLimitAttempts : Nat := 0
  rateLimitScope : Option String := none
  lastHttpStatus : Option Nat := none
deriving DecidableEq

/-- The completion that `mark_sync_run_failed` asks for. -/
def Failure.completion (failure : Failure) : Completion where
  status := .failed
  errorMessage := some (failure.message.take 2048).toString
  errorCategory := some failure.category
  retryAfterAt := failure.retryAfterAt
  rateLimitAttempts := failure.rateLimitAttempts
  rateLimitScope := failure.rateLimitScope
  lastHttpStatus := failure.lastHttpStatus

/-- `build_failed_sync_run` -/
def buildFailedSyncRun (id : Uuid) (now : Instant) (connector : Option String)
    (connectionId : Option Uuid) (failure : Failure) : SyncRun where
  id
  connector :=
    match connector with
    | some "" | none => "unknown"
    | some name => name
  connectionId
  status := .failed
  startedAt := now
  completedAt := some now
  errorMessage := some (failure.message.take 2048).toString
  errorCategory := some failure.category
  retryAfterAt := failure.retryAfterAt
  rateLimitAttempts := failure.rateLimitAttempts
  rateLimitScope := failure.rateLimitScope
  lastHttpStatus := failure.lastHttpStatus

@[simp] theorem completeSyncRun_status (now : Instant) (completion : Completion) (run : SyncRun) :
    (completeSyncRun now completion run).status = completion.status := rfl

@[simp] theorem SyncRun.flush_status (loaded changed stored : SyncRun) :
    (SyncRun.flush loaded changed stored).status =
      flushed loaded.status changed.status stored.status := rfl

@[simp] theorem SyncRun.flush_connectionId (loaded changed stored : SyncRun) :
    (SyncRun.flush loaded changed stored).connectionId = stored.connectionId := rfl

@[simp] theorem SyncRun.progress_status (now : Instant) (stage : String)
    (accountId : Option String) (run : SyncRun) :
    (run.progress now stage accountId).status = run.status := rfl

@[simp] theorem SyncRun.progress_connectionId (now : Instant) (stage : String)
    (accountId : Option String) (run : SyncRun) :
    (run.progress now stage accountId).connectionId = run.connectionId := rfl

/-- A flush leaves a column as it is or sets it. -/
theorem flushed_cases {α : Type} [DecidableEq α] (loaded changed stored : α) :
    flushed loaded changed stored = stored ∨ flushed loaded changed stored = changed := by
  by_cases same : changed = loaded
  · simp [flushed, same]
  · simp [flushed, same]

/-! ## Pipelines over one database -/

/-- How far a pipeline is. -/
inductive PipelineState
  /-- `start_sync_run` has looked for an active run and found none. -/
  | selected
  /-- The run is inserted; this is the object in the session of the pipeline. -/
  | running (run : SyncRun)
  /-- An error was raised, and the session was rolled back. -/
  | failing (runId : Uuid)
  /-- `mark_sync_run_failed` has read the row in a fresh session. -/
  | reloaded (runId : Uuid) (found : Option SyncRun)
deriving DecidableEq

structure Pipeline where
  connector : String
  connectionId : Option Uuid
  state : PipelineState
deriving DecidableEq

structure System where
  /-- The rows that are committed. -/
  rows : Uuid → Option SyncRun
  /-- The versions of rows that transactions in progress have written. -/
  uncommitted : Uuid → Option SyncRun
  pipelines : Nat → Option Pipeline
  /-- The id that the next row gets. -/
  nextId : Uuid

def System.start : System where
  rows := fun _ => none
  uncommitted := fun _ => none
  pipelines := fun _ => none
  nextId := 0

inductive Step
  /-- A pipeline looks for an active run of its connection. -/
  | select (pipeline : Nat) (connector : String) (connectionId : Option Uuid)
  /-- The pipeline inserts its run. -/
  | insert (pipeline : Nat) (now : Instant)
  | heartbeat (pipeline : Nat) (now : Instant) (stage : String) (accountId : Option String)
  /-- The pipeline commits a checkpoint. -/
  | commit (pipeline : Nat)
  /-- The pipeline marks its run as completed and flushes. -/
  | complete (pipeline : Nat) (now : Instant) (itemsProcessed : Option Nat)
      (cursor : Option Instant)
  /-- The pipeline raises an error. -/
  | fail (pipeline : Nat)
  /-- `mark_sync_run_failed` reads the row. -/
  | reload (pipeline : Nat)
  /-- `mark_sync_run_failed` writes the row or inserts one, and commits. -/
  | markFailed (pipeline : Nat) (now : Instant) (failure : Failure)
  /-- The pipeline returns, or its process dies. -/
  | exit (pipeline : Nat)
  | recover (connectionId : Uuid) (staleAfterMinutes : Int) (now : Instant)
  /-- An operator stops a run. -/
  | stop (runId : Uuid) (now : Instant)
  /-- A failure from before the pipeline has a session is recorded. -/
  | recordFailed (now : Instant) (connector : Option String) (connectionId : Option Uuid)
      (failure : Failure)

namespace System

variable (system : System)

/-- A committed run of the connection is active. -/
def HasActive (connectionId : Uuid) : Prop :=
  ∃ id < system.nextId, (system.rows id).any (SyncRun.activeOn connectionId)

instance (connectionId : Uuid) : Decidable (system.HasActive connectionId) :=
  inferInstanceAs (Decidable (∃ id < system.nextId, _))

/-- The unique index cannot tell yet whether the connection has an active run: a
transaction in progress has inserted one, or has written to the one there is. -/
def IndexBusy (connectionId : Uuid) : Prop :=
  ∃ id < system.nextId,
    (system.uncommitted id).any (fun run => run.connectionId = some connectionId) ∧
      (system.rows id).all (SyncRun.activeOn connectionId)

instance (connectionId : Uuid) : Decidable (system.IndexBusy connectionId) :=
  inferInstanceAs (Decidable (∃ id < system.nextId, _))

/-- The row as a transaction sees it that may have written it. -/
def version (id : Uuid) : Option SyncRun := system.uncommitted id <|> system.rows id

def setPipeline (pipeline : Nat) (next : Option Pipeline) : System :=
  { system with pipelines := Function.update system.pipelines pipeline next }

/-- A row that is new, committed at once. -/
def insertCommitted (run : SyncRun) : System :=
  { system with
    rows := Function.update system.rows system.nextId (some run)
    nextId := system.nextId + 1 }

/-- The insert of `start_sync_run`. -/
def insertRun (pipeline : Nat) (task : Pipeline) (now : Instant) : System :=
  let run : SyncRun :=
    { id := system.nextId, connector := task.connector, connectionId := task.connectionId
      startedAt := now }
  { system with
    uncommitted := Function.update system.uncommitted system.nextId (some run)
    pipelines := Function.update system.pipelines pipeline
      (some { task with state := .running run })
    nextId := system.nextId + 1 }

/-- A write of the pipeline to the row of its run, and the object after it. -/
def writeOwn (pipeline : Nat) (task : Pipeline) (run changed : SyncRun)
    (write : SyncRun → SyncRun) : System :=
  { system with
    uncommitted := Function.update system.uncommitted run.id ((system.version run.id).map write)
    pipelines := Function.update system.pipelines pipeline
      (some { task with state := .running changed }) }

/-- The end of the transaction of the pipeline without a commit. -/
def rollback (id : Uuid) : System :=
  { system with uncommitted := Function.update system.uncommitted id none }

/-- One step; a step that an actor is not in the position to take, or that has to
wait for a lock, does nothing. -/
def step (system : System) : Step → System
  | .select pipeline connector connectionId =>
      if (system.pipelines pipeline).isSome ∨ ∃ id ∈ connectionId, system.HasActive id then
        system
      else system.setPipeline pipeline (some ⟨connector, connectionId, .selected⟩)
  | .insert pipeline now =>
      match system.pipelines pipeline with
      | some ⟨connector, connectionId, .selected⟩ =>
          if ∃ id ∈ connectionId, system.IndexBusy id then system
          else if ∃ id ∈ connectionId, system.HasActive id then system.setPipeline pipeline none
          else system.insertRun pipeline ⟨connector, connectionId, .selected⟩ now
      | _ => system
  | .heartbeat pipeline now stage accountId =>
      match system.pipelines pipeline with
      | some ⟨connector, connectionId, .running run⟩ =>
          if (system.version run.id).any fun row => row.status = .running then
            system.writeOwn pipeline ⟨connector, connectionId, .running run⟩ run
              (run.progress now stage accountId) (SyncRun.progress now stage accountId)
          else system
      | _ => system
  | .commit pipeline =>
      match system.pipelines pipeline with
      | some ⟨_, _, .running run⟩ =>
          match system.uncommitted run.id with
          | some row =>
              { system.rollback run.id with
                rows := Function.update system.rows run.id (some row) }
          | none => system
      | _ => system
  | .complete pipeline now itemsProcessed cursor =>
      match system.pipelines pipeline with
      | some ⟨connector, connectionId, .running run⟩ =>
          let changed := completeSyncRun now
            { status := .completed, itemsProcessed, cursor } run
          system.writeOwn pipeline ⟨connector, connectionId, .running run⟩ run changed
            (SyncRun.flush run changed)
      | _ => system
  | .fail pipeline =>
      match system.pipelines pipeline with
      | some ⟨connector, connectionId, .running run⟩ =>
          (system.rollback run.id).setPipeline pipeline
            (some ⟨connector, connectionId, .failing run.id⟩)
      | _ => system
  | .reload pipeline =>
      match system.pipelines pipeline with
      | some ⟨connector, connectionId, .failing runId⟩ =>
          system.setPipeline pipeline
            (some ⟨connector, connectionId, .reloaded runId (system.rows runId)⟩)
      | _ => system
  | .markFailed pipeline now failure =>
      match system.pipelines pipeline with
      | some ⟨_, _, .reloaded runId (some found)⟩ =>
          if (system.uncommitted runId).isSome then system
          else
            { system.setPipeline pipeline none with
              rows := Function.update system.rows runId
                ((system.rows runId).map
                  (found.flush (completeSyncRun now failure.completion found))) }
      | some ⟨connector, connectionId, .reloaded _ none⟩ =>
          (system.setPipeline pipeline none).insertCommitted
            (buildFailedSyncRun system.nextId now connector connectionId failure)
      | _ => system
  | .exit pipeline =>
      match system.pipelines pipeline with
      | some ⟨_, _, .running run⟩ => (system.rollback run.id).setPipeline pipeline none
      | _ => system.setPipeline pipeline none
  | .recover connectionId staleAfterMinutes now =>
      let stale := SyncRun.staleOn connectionId staleAfterMinutes now
      if ∃ id < system.nextId, (system.rows id).any stale ∧ (system.uncommitted id).isSome then
        system
      else
        { system with
          rows := fun id => (system.rows id).map fun run =>
            if stale run then run.recovered now else run }
  | .stop runId now =>
      if (system.uncommitted runId).isSome then system
      else
        { system with
          rows := Function.update system.rows runId
            ((system.rows runId).map fun run =>
              if run.status = .running then run.stopped now else run) }
  | .recordFailed now connector connectionId failure =>
      system.insertCommitted
        (buildFailedSyncRun system.nextId now connector connectionId failure)

end System

end FinanceSync.Sync
