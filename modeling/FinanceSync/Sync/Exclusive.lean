import FinanceSync.Sync.SyncRun

/-!
# Active runs are exclusive, final states are not

The unique index keeps every connection at one active run.  Nothing keeps a run
that was closed from outside closed: the pipeline that still works on it writes
its own outcome without a look at the row.
-/

namespace FinanceSync.Sync

open Lib

namespace System

variable {system : System}

/-! ## The invariant -/

/-- The row takes the place of the connection in the unique index, now or when
the transaction that inserted it commits. -/
def Holds (system : System) (connectionId id : Uuid) : Prop :=
  match system.rows id with
  | some run => run.activeOn connectionId
  | none => ∃ run, system.uncommitted id = some run ∧ run.connectionId = some connectionId

structure Sound (system : System) : Prop where
  /-- Rows with later ids are not there yet. -/
  fresh : ∀ id, system.nextId ≤ id → system.rows id = none ∧ system.uncommitted id = none
  /-- A transaction does not set a row back to running. -/
  version : ∀ id stored written, system.rows id = some stored →
    system.uncommitted id = some written →
      written.connectionId = stored.connectionId ∧
        (written.status = .running → stored.status = .running)
  unique : ∀ connectionId first second, system.Holds connectionId first →
    system.Holds connectionId second → first = second

/-- No connection has two active runs. -/
def Exclusive (system : System) : Prop :=
  ∀ connectionId first second firstRun secondRun,
    system.rows first = some firstRun → firstRun.activeOn connectionId →
    system.rows second = some secondRun → secondRun.activeOn connectionId → first = second

theorem Sound.exclusive (sound : system.Sound) : system.Exclusive := by
  intro connectionId first second firstRun secondRun firstRow firstActive secondRow secondActive
  apply sound.unique connectionId
  · simpa [Holds, firstRow] using firstActive
  · simpa [Holds, secondRow] using secondActive

theorem start_sound : start.Sound where
  fresh := fun _ _ => ⟨rfl, rfl⟩
  version := by intro id stored written row; cases row
  unique := by
    intro connectionId first second holds
    simp [Holds, start] at holds

/-! ## What the statements do to the rows -/

/-- Rows are neither added nor reopened. -/
theorem Sound.of_rows {next : System} (sound : system.Sound) (sameId : next.nextId = system.nextId)
    (absent : ∀ id, system.rows id = none → system.uncommitted id = none →
      next.rows id = none ∧ next.uncommitted id = none)
    (version : ∀ id stored written, next.rows id = some stored →
      next.uncommitted id = some written →
        written.connectionId = stored.connectionId ∧
          (written.status = .running → stored.status = .running))
    (holds : ∀ connectionId id, next.Holds connectionId id → system.Holds connectionId id) :
    next.Sound where
  fresh := by
    intro id later
    rw [sameId] at later
    have fresh := sound.fresh id later
    exact absent id fresh.1 fresh.2
  version := version
  unique := fun connectionId first second firstHolds secondHolds =>
    sound.unique connectionId first second (holds connectionId first firstHolds)
      (holds connectionId second secondHolds)

/-- An update of one row, row by row. -/
theorem update_map_row {rows : Uuid → Option SyncRun} (id : Uuid) (write : SyncRun → SyncRun)
    (other : Uuid) :
    Function.update rows id ((rows id).map write) other =
      (rows other).map fun run => if other = id then write run else run := by
  by_cases same : other = id
  · simp [same]
  · simp [same]

/-- Pipelines alone change. -/
theorem Sound.setPipeline (sound : system.Sound) (pipeline : Nat) (next : Option Pipeline) :
    (system.setPipeline pipeline next).Sound :=
  ⟨sound.fresh, sound.version, sound.unique⟩

/-- Committed rows change that no transaction in progress has written, and none
of them becomes active. -/
theorem Sound.editRows {next : System} (sound : system.Sound)
    (sameId : next.nextId = system.nextId) (sameVersions : next.uncommitted = system.uncommitted)
    {edit : Uuid → SyncRun → SyncRun}
    (edited : ∀ id, next.rows id = (system.rows id).map (edit id))
    (connection : ∀ id run, (edit id run).connectionId = run.connectionId)
    (reopens : ∀ id run, (edit id run).status = .running → run.status = .running)
    (unlocked : ∀ id run, system.rows id = some run → edit id run ≠ run →
      system.uncommitted id = none) :
    next.Sound := by
  apply sound.of_rows sameId
  · intro id absentRow absentVersion
    simp [edited, sameVersions, absentRow, absentVersion]
  · intro id stored written row version
    rw [edited, Option.map_eq_some_iff] at row
    rw [sameVersions] at version
    rcases row with ⟨run, runRow, changed⟩
    by_cases same : edit id run = run
    · rw [← changed, same]
      exact sound.version id run written runRow version
    · rw [unlocked id run runRow same] at version
      cases version
  · intro connectionId id holds
    cases row : system.rows id with
    | none => simpa [Holds, edited, sameVersions, row] using holds
    | some run =>
        simp only [Holds, edited, row, Option.map_some, SyncRun.activeOn, connection,
          Bool.and_eq_true, decide_eq_true_eq] at holds ⊢
        exact ⟨holds.1, reopens id run holds.2⟩

/-- The end of a transaction takes its versions away. -/
theorem Sound.rollback (sound : system.Sound) (id : Uuid) : (system.rollback id).Sound := by
  have gone : (system.rollback id).uncommitted id = none := Function.update_self ..
  have kept : ∀ other, other ≠ id →
      (system.rollback id).uncommitted other = system.uncommitted other :=
    fun other ne => Function.update_of_ne ne ..
  apply sound.of_rows (by rfl)
  · intro other absentRow absentVersion
    refine ⟨absentRow, ?_⟩
    by_cases same : other = id
    · rw [same, gone]
    · rw [kept other same, absentVersion]
  · intro other stored written row version
    by_cases same : other = id
    · rw [same, gone] at version
      cases version
    · rw [kept other same] at version
      exact sound.version other stored written row version
  · intro connectionId other holds
    by_cases same : other = id
    · rw [same] at holds ⊢
      cases row : system.rows id with
      | some run => simpa [Holds, System.rollback, row] using holds
      | none =>
          have absent : (system.rollback id).rows id = none := row
          simp [Holds, absent, gone] at holds
    · simpa [Holds, System.rollback, same] using holds

/-- A version that keeps the connection, and is active only if the row was. -/
theorem Sound.writeOwn (sound : system.Sound) (pipeline : Nat) (task : Pipeline)
    (run changed : SyncRun) {write : SyncRun → SyncRun}
    (connection : ∀ row, (write row).connectionId = row.connectionId)
    (reopens : ∀ row, (write row).status = .running → row.status = .running) :
    (system.writeOwn pipeline task run changed write).Sound := by
  have kept : ∀ other, other ≠ run.id →
      (system.writeOwn pipeline task run changed write).uncommitted other =
        system.uncommitted other := fun other ne => Function.update_of_ne ne ..
  have own : (system.writeOwn pipeline task run changed write).uncommitted run.id =
      (system.version run.id).map write := Function.update_self ..
  apply sound.of_rows (by rfl)
  · intro other absentRow absentVersion
    refine ⟨absentRow, ?_⟩
    by_cases same : other = run.id
    · rw [same] at absentRow absentVersion
      simp [same, own, System.version, absentRow, absentVersion]
    · rw [kept other same, absentVersion]
  · intro other stored written row version
    by_cases same : other = run.id
    · rw [same] at row version
      rw [own, Option.map_eq_some_iff] at version
      rcases version with ⟨before, seen, rfl⟩
      have soundBefore : before.connectionId = stored.connectionId ∧
          (before.status = .running → stored.status = .running) := by
        cases earlier : system.uncommitted run.id with
        | none =>
            have seenRow : stored = before := by
              simpa [System.version, earlier, show system.rows run.id = some stored from row]
                using seen
            simp [seenRow]
        | some version =>
            have seenVersion : version = before := by simpa [System.version, earlier] using seen
            rw [← seenVersion]
            exact sound.version run.id stored version row earlier
      exact ⟨(connection before).trans soundBefore.1,
        fun active => soundBefore.2 (reopens before active)⟩
    · rw [kept other same] at version
      exact sound.version other stored written row version
  · intro connectionId other holds
    by_cases same : other = run.id
    · rw [same] at holds ⊢
      cases row : system.rows run.id with
      | some stored => simpa [Holds, System.writeOwn, row] using holds
      | none =>
          have absent : (system.writeOwn pipeline task run changed write).rows run.id = none := row
          simp only [Holds, absent, own, Option.map_eq_some_iff] at holds
          simp only [Holds, row]
          rcases holds with ⟨written, ⟨before, seen, rfl⟩, onConnection⟩
          have earlier : system.uncommitted run.id = some before := by
            simpa [System.version, row] using seen
          exact ⟨before, earlier, by rwa [connection] at onConnection⟩
    · simpa [Holds, System.writeOwn, same] using holds

/-- The versions of a row become the row. -/
theorem Sound.commit (sound : system.Sound) {id : Uuid} {written : SyncRun}
    (version : system.uncommitted id = some written) :
    ({ system.rollback id with
      rows := Function.update system.rows id (some written) } : System).Sound := by
  apply sound.of_rows (by rfl)
  · intro other absentRow absentVersion
    by_cases same : other = id
    · rw [same, version] at absentVersion
      cases absentVersion
    · simp [System.rollback, same, absentRow, absentVersion]
  · intro other stored later row laterVersion
    by_cases same : other = id
    · simp [System.rollback, same] at laterVersion
    · simp only [System.rollback, ne_eq, same, not_false_eq_true, Function.update_of_ne]
        at row laterVersion
      exact sound.version other stored later row laterVersion
  · intro connectionId other holds
    by_cases same : other = id
    · simp only [Holds, same, Function.update_self, SyncRun.activeOn, Bool.and_eq_true,
        decide_eq_true_eq] at holds
      rw [same, Holds]
      cases row : system.rows id with
      | none => exact ⟨written, version, holds.1⟩
      | some stored =>
          have before := sound.version id stored written row version
          simp only [SyncRun.activeOn, Bool.and_eq_true, decide_eq_true_eq]
          exact ⟨before.1 ▸ holds.1, before.2 holds.2⟩
    · simpa [Holds, System.rollback, same] using holds

/-- A row with a new id, which no place in the index is asked for. -/
theorem Sound.insertCommitted (sound : system.Sound) {run : SyncRun}
    (closed : run.status ≠ .running) : (system.insertCommitted run).Sound where
  fresh := by
    intro id later
    have later : system.nextId < id := later
    have ne : id ≠ system.nextId := later.ne'
    have fresh := sound.fresh id later.le
    simp [System.insertCommitted, ne, fresh.1, fresh.2]
  version := by
    intro id stored written row version
    by_cases same : id = system.nextId
    · have fresh := sound.fresh id (le_of_eq same.symm)
      have version : system.uncommitted id = some written := version
      rw [fresh.2] at version
      cases version
    · simp only [System.insertCommitted, ne_eq, same, not_false_eq_true,
        Function.update_of_ne] at row
      exact sound.version id stored written row version
  unique := by
    have holds : ∀ connectionId id, (system.insertCommitted run).Holds connectionId id →
        system.Holds connectionId id := by
      intro connectionId id holds
      by_cases same : id = system.nextId
      · simp [Holds, System.insertCommitted, same, SyncRun.activeOn, closed] at holds
      · simpa [Holds, System.insertCommitted, same] using holds
    intro connectionId first second firstHolds secondHolds
    exact sound.unique connectionId first second (holds connectionId first firstHolds)
      (holds connectionId second secondHolds)

/-- The index admits the run of a connection that holds no place yet. -/
theorem Sound.insertRun (sound : system.Sound) (pipeline : Nat) (task : Pipeline) (now : Instant)
    (free : ∀ connectionId ∈ task.connectionId, ∀ id, ¬ system.Holds connectionId id) :
    (system.insertRun pipeline task now).Sound := by
  have kept : ∀ connectionId id, id ≠ system.nextId →
      ((system.insertRun pipeline task now).Holds connectionId id ↔
        system.Holds connectionId id) := by
    intro connectionId id ne
    simp [Holds, System.insertRun, ne]
  have own : ∀ connectionId, (system.insertRun pipeline task now).Holds connectionId
      system.nextId → connectionId ∈ task.connectionId := by
    intro connectionId holds
    have fresh := sound.fresh system.nextId (le_refl _)
    simpa [Holds, System.insertRun, fresh.1] using holds
  refine ⟨?_, ?_, ?_⟩
  · intro id later
    have later : system.nextId < id := later
    have ne : id ≠ system.nextId := later.ne'
    have fresh := sound.fresh id later.le
    simp [System.insertRun, ne, fresh.1, fresh.2]
  · intro id stored written row version
    by_cases same : id = system.nextId
    · have fresh := sound.fresh id (le_of_eq same.symm)
      have row : system.rows id = some stored := row
      rw [fresh.1] at row
      cases row
    · simp only [System.insertRun, ne_eq, same, not_false_eq_true,
        Function.update_of_ne] at version
      exact sound.version id stored written row version
  · intro connectionId first second firstHolds secondHolds
    by_cases firstNew : first = system.nextId <;> by_cases secondNew : second = system.nextId
    · rw [firstNew, secondNew]
    · rw [firstNew] at firstHolds
      rw [kept connectionId second secondNew] at secondHolds
      exact absurd secondHolds (free connectionId (own connectionId firstHolds) second)
    · rw [secondNew] at secondHolds
      rw [kept connectionId first firstNew] at firstHolds
      exact absurd firstHolds (free connectionId (own connectionId secondHolds) first)
    · rw [kept connectionId first firstNew] at firstHolds
      rw [kept connectionId second secondNew] at secondHolds
      exact sound.unique connectionId first second firstHolds secondHolds

/-- With the index idle and no active run, no row holds the place. -/
theorem Sound.free (sound : system.Sound) {connectionId : Uuid}
    (idle : ¬ system.IndexBusy connectionId) (inactive : ¬ system.HasActive connectionId)
    (id : Uuid) : ¬ system.Holds connectionId id := by
  intro holds
  have early : id < system.nextId := by
    by_contra later
    have fresh := sound.fresh id (not_lt.mp later)
    simp [Holds, fresh.1, fresh.2] at holds
  cases row : system.rows id with
  | some run =>
      apply inactive
      refine ⟨id, early, ?_⟩
      simpa [Holds, row] using holds
  | none =>
      apply idle
      refine ⟨id, early, ?_⟩
      simpa [Holds, row, Option.any_eq_true] using holds

theorem step_sound (sound : system.Sound) (step : Step) : (system.step step).Sound := by
  cases step with
  | select pipeline connector connectionId =>
      simp only [System.step]
      split
      · exact sound
      · exact sound.setPipeline ..
  | insert pipeline now =>
      simp only [System.step]
      split
      · next connector connectionId _ =>
          split
          · exact sound
          · next idle =>
              split
              · exact sound.setPipeline ..
              · next inactive =>
                  apply sound.insertRun
                  intro connection given id
                  exact sound.free (fun busy => idle ⟨connection, given, busy⟩)
                    (fun active => inactive ⟨connection, given, active⟩) id
      · exact sound
  | heartbeat pipeline now stage accountId =>
      simp only [System.step]
      split
      · split
        · exact sound.writeOwn _ _ _ _ (fun _ => rfl) (fun _ active => active)
        · exact sound
      · exact sound
  | commit pipeline =>
      simp only [System.step]
      split
      · split
        · next version => exact sound.commit version
        · exact sound
      · exact sound
  | complete pipeline now itemsProcessed cursor =>
      simp only [System.step]
      split
      · next connector connectionId run _ =>
          apply sound.writeOwn
          · exact fun _ => rfl
          · intro row active
            rw [SyncRun.flush_status] at active
            rcases flushed_cases run.status SyncRunStatus.completed row.status with same | set
            · exact same ▸ active
            · rw [completeSyncRun_status, set] at active
              cases active
      · exact sound
  | fail pipeline =>
      simp only [System.step]
      split
      · exact (sound.rollback _).setPipeline ..
      · exact sound
  | reload pipeline =>
      simp only [System.step]
      split
      · exact sound.setPipeline ..
      · exact sound
  | markFailed pipeline now failure =>
      simp only [System.step]
      split
      · next runId found _ =>
          split
          · exact sound
          · next unlocked =>
              apply sound.editRows (by rfl) (by rfl) (update_map_row runId _)
              · intro id run
                split
                · rfl
                · rfl
              · intro id run active
                split at active
                · rw [SyncRun.flush_status] at active
                  rcases flushed_cases found.status SyncRunStatus.failed run.status with same | set
                  · exact same ▸ active
                  · rw [completeSyncRun_status, Failure.completion, set] at active
                    cases active
                · exact active
              · intro id run _ edited
                split at edited
                · next same => simpa [same] using unlocked
                · exact absurd rfl edited
      · exact (sound.setPipeline ..).insertCommitted (by simp [buildFailedSyncRun])
      · exact sound
  | exit pipeline =>
      simp only [System.step]
      split
      · exact (sound.rollback _).setPipeline ..
      · exact sound.setPipeline ..
  | recover connectionId staleAfterMinutes now =>
      simp only [System.step]
      split
      · exact sound
      · next unlocked =>
          apply sound.editRows (by rfl) (by rfl) (fun _ => rfl)
          · intro id run
            split
            · rfl
            · rfl
          · intro id run active
            split at active
            · cases active
            · exact active
          · intro id run row edited
            split at edited
            · next stale =>
                by_contra locked
                apply unlocked
                refine ⟨id, ?_, ?_⟩
                · by_contra later
                  rw [(sound.fresh id (not_lt.mp later)).1] at row
                  cases row
                · simp [row, stale, Option.isSome_iff_ne_none, locked]
            · exact absurd rfl edited
  | stop runId now =>
      simp only [System.step]
      split
      · exact sound
      · next unlocked =>
          apply sound.editRows (by rfl) (by rfl) (update_map_row runId _)
          · intro id run
            split
            · split
              · rfl
              · rfl
            · rfl
          · intro id run active
            split at active
            · split at active
              · cases active
              · exact active
            · exact active
          · intro id run _ edited
            split at edited
            · next same => simpa [same] using unlocked
            · exact absurd rfl edited
  | recordFailed now connector connectionId failure =>
      exact sound.insertCommitted (by simp [buildFailedSyncRun])

/-- In every state that is reached, no connection has two active runs. -/
theorem reached_exclusive (steps : List Step) : (runAll step start steps).Exclusive := by
  have always : Along step (fun _ _ => True) start steps :=
    along_of_forall steps fun _ _ => trivial
  have preserved : ∀ (system : System) (input : Step), system.Sound → True →
      (system.step input).Sound := fun _ input sound _ => step_sound sound input
  exact (runAll_invariant preserved steps start_sound always).exclusive

/-! ## Closed runs -/

/-- The status of a run that is closed is kept. -/
def StatusKept (before after : System) : Prop :=
  ∀ id run, before.rows id = some run → run.status ≠ .running →
    ∃ later, after.rows id = some later ∧ later.status = run.status

/-- No transaction in progress has written another status to a closed run. -/
def Guarded (system : System) : Prop :=
  ∀ id stored written, system.rows id = some stored → system.uncommitted id = some written →
    written.status = stored.status ∨ stored.status = .running

/-- Where a pipeline writes how its run ended, nobody has ended the run
otherwise: its row is active, or it is failed and is to be marked as failed. -/
def writesActive (system : System) : Step → Bool
  | .complete pipeline .. =>
      match system.pipelines pipeline with
      | some ⟨_, _, .running run⟩ => (system.rows run.id).all fun row => row.status = .running
      | _ => true
  | .markFailed pipeline .. =>
      match system.pipelines pipeline with
      | some ⟨_, _, .reloaded runId (some _)⟩ =>
          (system.rows runId).all fun row => row.status = .running ∨ row.status = .failed
      | _ => true
  | _ => true

theorem StatusKept.same {before after : System} (rows : after.rows = before.rows) :
    StatusKept before after := by
  intro id run row _
  exact ⟨run, by rw [rows, row], rfl⟩

theorem StatusKept.trans {first second third : System} (early : StatusKept first second)
    (late : StatusKept second third) : StatusKept first third := by
  intro id run row closed
  rcases early id run row closed with ⟨later, laterRow, sameStatus⟩
  rcases late id later laterRow (by rwa [sameStatus]) with ⟨last, lastRow, lastStatus⟩
  exact ⟨last, lastRow, lastStatus.trans sameStatus⟩

/-- Rows are edited that no transaction in progress has written, and the closed
ones keep their status. -/
theorem kept_of_edit {next : System} (guarded : system.Guarded)
    (sameVersions : next.uncommitted = system.uncommitted)
    {edit : Uuid → SyncRun → SyncRun}
    (edited : ∀ id, next.rows id = (system.rows id).map (edit id))
    (closed : ∀ id run, system.rows id = some run → run.status ≠ .running →
      (edit id run).status = run.status)
    (unlocked : ∀ id run, system.rows id = some run → edit id run ≠ run →
      system.uncommitted id = none) :
    next.Guarded ∧ StatusKept system next := by
  constructor
  · intro id stored written row version
    rw [edited, Option.map_eq_some_iff] at row
    rw [sameVersions] at version
    rcases row with ⟨run, runRow, changed⟩
    by_cases same : edit id run = run
    · rw [← changed, same]
      exact guarded id run written runRow version
    · rw [unlocked id run runRow same] at version
      cases version
  · intro id run row isClosed
    exact ⟨edit id run, by simp [edited, row], closed id run row isClosed⟩

theorem rollback_kept (guarded : system.Guarded) (id : Uuid) :
    (system.rollback id).Guarded ∧ StatusKept system (system.rollback id) := by
  refine ⟨?_, .same rfl⟩
  intro other stored written row version
  by_cases same : other = id
  · simp [System.rollback, same] at version
  · exact guarded other stored written row (by simpa [System.rollback, same] using version)

/-- A version is written over a row that is active, or with the status it has. -/
theorem writeOwn_kept (guarded : system.Guarded) (pipeline : Nat) (task : Pipeline)
    (run changed : SyncRun) {write : SyncRun → SyncRun}
    (keeps : (∀ row, (write row).status = row.status) ∨
      ∀ row, system.rows run.id = some row → row.status = .running) :
    (system.writeOwn pipeline task run changed write).Guarded ∧
      StatusKept system (system.writeOwn pipeline task run changed write) := by
  refine ⟨?_, .same rfl⟩
  intro other stored written row version
  by_cases same : other = run.id
  · rw [same] at row version
    simp only [System.writeOwn, Function.update_self, Option.map_eq_some_iff] at version
    rcases version with ⟨before, seen, rfl⟩
    rcases keeps with keeps | active
    · rw [keeps before]
      cases earlier : system.uncommitted run.id with
      | none =>
          left
          have seenRow : stored = before := by
            simpa [System.version, earlier, show system.rows run.id = some stored from row]
              using seen
          rw [seenRow]
      | some version =>
          have seenVersion : version = before := by simpa [System.version, earlier] using seen
          rw [← seenVersion]
          exact guarded run.id stored version row earlier
    · exact .inr (active stored row)
  · simp only [System.writeOwn, ne_eq, same, not_false_eq_true, Function.update_of_ne] at version
    exact guarded other stored written row version

theorem commit_kept (guarded : system.Guarded) {id : Uuid} {written : SyncRun}
    (version : system.uncommitted id = some written) :
    ({ system.rollback id with
        rows := Function.update system.rows id (some written) } : System).Guarded ∧
      StatusKept system { system.rollback id with
        rows := Function.update system.rows id (some written) } := by
  constructor
  · intro other stored later row laterVersion
    by_cases same : other = id
    · simp [System.rollback, same] at laterVersion
    · simp only [System.rollback, ne_eq, same, not_false_eq_true, Function.update_of_ne]
        at row laterVersion
      exact guarded other stored later row laterVersion
  · intro other run row closed
    by_cases same : other = id
    · rw [same] at row
      refine ⟨written, by simp [same], ?_⟩
      rcases guarded id run written row version with sameStatus | active
      · exact sameStatus
      · exact absurd active closed
    · exact ⟨run, by simp [same, row], rfl⟩

theorem insertCommitted_kept (sound : system.Sound) (guarded : system.Guarded) (run : SyncRun) :
    (system.insertCommitted run).Guarded ∧ StatusKept system (system.insertCommitted run) := by
  have fresh := sound.fresh system.nextId (le_refl _)
  constructor
  · intro id stored written row version
    by_cases same : id = system.nextId
    · have version : system.uncommitted id = some written := version
      rw [same, fresh.2] at version
      cases version
    · simp only [System.insertCommitted, ne_eq, same, not_false_eq_true,
        Function.update_of_ne] at row
      exact guarded id stored written row version
  · intro id stored row _
    have ne : id ≠ system.nextId := by
      intro same
      rw [same, fresh.1] at row
      cases row
    exact ⟨stored, by simp [System.insertCommitted, ne, row], rfl⟩

theorem insertRun_kept (sound : system.Sound) (guarded : system.Guarded) (pipeline : Nat)
    (task : Pipeline) (now : Instant) :
    (system.insertRun pipeline task now).Guarded ∧
      StatusKept system (system.insertRun pipeline task now) := by
  refine ⟨?_, .same rfl⟩
  intro id stored written row version
  by_cases same : id = system.nextId
  · have row : system.rows id = some stored := row
    rw [same, (sound.fresh system.nextId (le_refl _)).1] at row
    cases row
  · simp only [System.insertRun, ne_eq, same, not_false_eq_true, Function.update_of_ne] at version
    exact guarded id stored written row version

theorem step_kept (sound : system.Sound) (guarded : system.Guarded) (step : Step)
    (active : system.writesActive step) :
    (system.step step).Guarded ∧ StatusKept system (system.step step) := by
  have idle : system.Guarded ∧ StatusKept system system := ⟨guarded, .same rfl⟩
  cases step with
  | select pipeline connector connectionId =>
      simp only [System.step]
      split
      · exact idle
      · exact ⟨guarded, .same rfl⟩
  | insert pipeline now =>
      simp only [System.step]
      split
      · split
        · exact idle
        · split
          · exact ⟨guarded, .same rfl⟩
          · exact insertRun_kept sound guarded ..
      · exact idle
  | heartbeat pipeline now stage accountId =>
      simp only [System.step]
      split
      · split
        · exact writeOwn_kept guarded _ _ _ _ (.inl fun _ => rfl)
        · exact idle
      · exact idle
  | commit pipeline =>
      simp only [System.step]
      split
      · split
        · next version => exact commit_kept guarded version
        · exact idle
      · exact idle
  | complete pipeline now itemsProcessed cursor =>
      simp only [System.step]
      split
      · next connector connectionId run own =>
          apply writeOwn_kept guarded
          right
          intro row stored
          simpa [writesActive, own, stored] using active
      · exact idle
  | fail pipeline =>
      simp only [System.step]
      split
      · exact rollback_kept guarded _
      · exact idle
  | reload pipeline =>
      simp only [System.step]
      split
      · exact ⟨guarded, .same rfl⟩
      · exact idle
  | markFailed pipeline now failure =>
      simp only [System.step]
      split
      · next runId found own =>
          split
          · exact idle
          · next unlocked =>
              apply kept_of_edit guarded (by rfl) (update_map_row runId _)
              · intro id run row closed
                split
                · next same =>
                    have failed : run.status = .failed := by
                      rw [same] at row
                      simpa [writesActive, own, row, closed] using active
                    rw [SyncRun.flush_status]
                    rcases flushed_cases found.status SyncRunStatus.failed run.status
                      with same | set
                    · exact same
                    · rw [completeSyncRun_status, Failure.completion, set, failed]
                · rfl
              · intro id run _ edited
                split at edited
                · next same => simpa [same] using unlocked
                · exact absurd rfl edited
      · exact insertCommitted_kept (sound.setPipeline pipeline none) guarded _
      · exact idle
  | exit pipeline =>
      simp only [System.step]
      split
      · exact rollback_kept guarded _
      · exact ⟨guarded, .same rfl⟩
  | recover connectionId staleAfterMinutes now =>
      simp only [System.step]
      split
      · exact idle
      · next unlocked =>
          apply kept_of_edit guarded (by rfl) (fun _ => rfl)
          · intro id run _ closed
            simp [SyncRun.staleOn, SyncRun.activeOn, closed]
          · intro id run row edited
            split at edited
            · next stale =>
                by_contra locked
                apply unlocked
                refine ⟨id, ?_, ?_⟩
                · by_contra later
                  rw [(sound.fresh id (not_lt.mp later)).1] at row
                  cases row
                · simp [row, stale, Option.isSome_iff_ne_none, locked]
            · exact absurd rfl edited
  | stop runId now =>
      simp only [System.step]
      split
      · exact idle
      · next unlocked =>
          apply kept_of_edit guarded (by rfl) (update_map_row runId _)
          · intro id run _ closed
            simp [closed]
          · intro id run _ edited
            split at edited
            · next same => simpa [same] using unlocked
            · exact absurd rfl edited
  | recordFailed now connector connectionId failure =>
      exact insertCommitted_kept sound guarded _

/-- No connection ever has two active runs.  In a run of the system in which
pipelines end only runs that nobody has ended otherwise, the status of a closed
run never changes again. -/
theorem syncRuns_exclusive_and_final (before after : List Step) :
    (runAll step start before).Exclusive ∧
      (Along step (fun system input => system.writesActive input) start (before ++ after) →
        StatusKept (runAll step start before) (runAll step start (before ++ after))) := by
  apply And.intro (reached_exclusive before)
  intro along
  have preserved : ∀ system input, Sound system ∧ Guarded system → writesActive system input →
      Sound (step system input) ∧ Guarded (step system input) := by
    intro system input holds active
    exact ⟨step_sound holds.1 input, (step_kept holds.1 holds.2 input active).1⟩
  have guarded : Guarded start := by intro id stored written row; cases row
  have reached := reached_invariant preserved ⟨start_sound, guarded⟩ along
  have related : ∀ system input, Sound system ∧ Guarded system → writesActive system input →
      StatusKept system (step system input) := by
    intro system input holds active
    exact (step_kept holds.1 holds.2 input active).2
  have unchanged : ∀ system : System, StatusKept system system := fun _ => .same rfl
  rw [runAll_append]
  exact runAll_relates unchanged StatusKept.trans preserved related after reached.1 reached.2

/-- A sync from its start to its end, with one checkpoint. -/
def wholeSync : List Step :=
  [.select 0 "bunq" (some 7), .insert 0 0, .heartbeat 0 1 "fetch_accounts" none, .commit 0,
    .heartbeat 0 2 "persist_account" (some "1"), .complete 0 3 (some 1) (some 0), .commit 0,
    .exit 0]

theorem wholeSync_kept :
    StatusKept (runAll step start wholeSync)
      (runAll step start (wholeSync ++ [.recover 7 360 (10 ^ 12)])) :=
  (syncRuns_exclusive_and_final wholeSync [.recover 7 360 (10 ^ 12)]).2 (by decide)

/-- A sync runs for more than six hours.  The next one closes it as stale, and
then it completes. -/
theorem recovered_run_completed :
    ¬ ∀ before after,
      StatusKept (runAll step start before) (runAll step start (before ++ after)) := by
  intro always
  have kept := always
    [.select 0 "bunq" (some 7), .insert 0 0, .commit 0, .recover 7 360 (7 * 3600 * 1000000)]
    [.complete 0 (8 * 3600 * 1000000) (some 1) (some 0), .commit 0] 0
  revert kept
  decide

end System

end FinanceSync.Sync
