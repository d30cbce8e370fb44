import FinanceSync.Schedules.SyncSchedule
import FinanceSync.Lib.Fallible

/-!
# The version of a schedule

Calls that carry one version of a row are told apart where each commits on the version
it has loaded.  The `UPDATE` does not ask for that: a call that was checked before
another one committed overwrites it.
-/

namespace FinanceSync.Schedules

open Lib

/-- The changed row of a call that came past its check, as it was loaded and as it is to be. -/
def CallState.change : CallState → Option (SyncSchedule × SyncSchedule)
  | .changing loaded changed => some (loaded, changed)
  | .written loaded changed => some (loaded, changed)
  | .committed loaded changed => some (loaded, changed)
  | _ => none

/-- The call has committed its change. -/
def CallState.IsCommitted : CallState → Prop
  | .committed _ _ => True
  | _ => False

instance : (state : CallState) → Decidable state.IsCommitted
  | .committed _ _ => .isTrue trivial
  | .ready | .raised _ | .unchanged | .changing _ _ | .written _ _ | .rolledBack => .isFalse id

/-- The call has raised `ScheduleConflictError`. -/
def CallState.IsConflict : CallState → Prop
  | .raised (.conflict _) => True
  | _ => False

/-- Calls for one row of one tenant that carry one version of it. -/
structure UpdateCall.SameVersion (first second : UpdateCall) : Prop where
  tenantId : first.tenantId = second.tenantId
  scheduleId : first.scheduleId = second.scheduleId
  version : first.version = second.version

theorem UpdateCall.SameVersion.symm {first second : UpdateCall}
    (same : first.SameVersion second) : second.SameVersion first where
  tenantId := same.tenantId.symm
  scheduleId := same.scheduleId.symm
  version := same.version.symm

namespace UpdateSystem

variable (zones : ZoneDatabase) (calls : Nat → UpdateCall)

/-- Of the calls that carry one version of a row at most one has committed its change, and
one that comes after it raises the conflict and leaves the rows as they are. -/
def OptimisticallyLocked (system : UpdateSystem) : Prop :=
  ∀ first second, first ≠ second → (calls first).SameVersion (calls second) →
    (system.states first).IsCommitted →
      ¬ (system.states second).IsCommitted ∧
        (system.states second = .ready → ∀ now,
          ((step zones calls system (.select second now)).states second).IsConflict ∧
            (step zones calls system (.select second now)).rows = system.rows)

/-- A session commits on the version of the row that it has loaded. -/
def CommitsOnLoaded (system : UpdateSystem) : Step → Prop
  | .commit session =>
      match system.states session with
      | .written loaded _ =>
          (system.rows (calls session).scheduleId).map SyncSchedule.version = some loaded.version
      | _ => True
  | _ => True

/-! ## What a call has loaded -/

/-- The row that a call changes, as it was loaded and as it is to be. -/
structure Based (call : UpdateCall) (change : SyncSchedule × SyncSchedule) : Prop where
  loaded : change.1.version = call.version
  changed : change.2.version = call.version + 1

theorem target_version {update : ScheduleUpdate} {row changed : SyncSchedule}
    (found : update.target zones row = .ok changed) : changed.version = row.version := by
  rw [ScheduleUpdate.target, bind_eq_ok] at found
  obtain ⟨schedule, _, found⟩ := found
  rw [bind_eq_ok] at found
  obtain ⟨timezone, _, found⟩ := found
  cases found
  rfl

/-- What an update changes is a row in the version that the update carries. -/
theorem apply_changes {update : ScheduleUpdate} {now : Instant} {row changed : SyncSchedule}
    (found : update.apply zones now (some row) = .ok (some changed)) :
    update.version.filter (· ≠ row.version) = none ∧ changed.version = row.version + 1 := by
  simp only [ScheduleUpdate.apply] at found
  split at found
  case h_1 => cases found
  case h_2 agrees =>
      apply And.intro agrees
      split at found
      case h_1 => cases found
      case h_2 target aimed =>
          split at found
          case isTrue => cases found
          case isFalse =>
              cases found
              exact congrArg (· + 1) (target_version zones aimed)

/-- A call that comes past its check has found the version that it carries. -/
theorem select_change {call : UpdateCall} {rows : ScheduleRows} {now : Instant}
    {change : SyncSchedule × SyncSchedule}
    (found : (select zones call rows now).change = some change) :
    call.getForTenant rows = some change.1 ∧ Based call change := by
  simp only [select] at found
  split at found
  case h_1 => cases found
  case h_2 loaded changed stored applied =>
      cases found
      rw [stored] at applied
      have versions := apply_changes zones applied
      have agrees : call.version = loaded.version := by
        simpa [UpdateCall.arguments] using versions.1
      exact ⟨stored, agrees.symm, by rw [versions.2, agrees]⟩
  case h_3 => cases found

/-- A call that finds another version raises the conflict. -/
theorem select_conflict {call : UpdateCall} {rows : ScheduleRows} {row : SyncSchedule}
    (stored : call.getForTenant rows = some row) (other : call.version ≠ row.version)
    (now : Instant) : (select zones call rows now).IsConflict := by
  simp [select, stored, ScheduleUpdate.apply, UpdateCall.arguments, Option.filter, other,
    CallState.IsConflict]

theorem flush_version {call : UpdateCall} {change : SyncSchedule × SyncSchedule}
    (based : Based call change) (stored : SyncSchedule) :
    (SyncSchedule.flush change.1 change.2 stored).version = call.version + 1 := by
  have moved : change.2.version ≠ change.1.version := by
    rw [based.loaded, based.changed]
    omega
  change FinanceSync.Sync.flushed change.1.version change.2.version stored.version = _
  rw [FinanceSync.Sync.flushed, if_neg moved, based.changed]

/-- A write to a row that keeps its tenant is seen by the calls for the row. -/
theorem getForTenant_update (call : UpdateCall) (rows : ScheduleRows) (id : Uuid)
    (write : SyncSchedule → SyncSchedule) (kept : ∀ row, (write row).tenantId = row.tenantId) :
    call.getForTenant (Function.update rows id ((rows id).map write)) =
      if call.scheduleId = id then (call.getForTenant rows).map write
      else call.getForTenant rows := by
  by_cases same : call.scheduleId = id
  · cases stored : rows id with
    | none => simp [UpdateCall.getForTenant, same, stored]
    | some row =>
        by_cases tenant : row.tenantId = call.tenantId
        · simp [UpdateCall.getForTenant, same, stored, Option.filter, kept, tenant]
        · simp [UpdateCall.getForTenant, same, stored, Option.filter, kept, tenant]
  · simp [UpdateCall.getForTenant, same]

/-! ## Which versions are taken -/

/-- What holds while each change was committed on the version it was loaded in. -/
structure Sound (system : UpdateSystem) : Prop where
  based : ∀ session change, (system.states session).change = some change →
    Based (calls session) change
  /-- A row is never in an earlier version than the one that a call has loaded. -/
  stored : ∀ session change, (system.states session).change = some change →
    ∃ row, (calls session).getForTenant system.rows = some row ∧
      (calls session).version ≤ row.version
  passed : ∀ session row, (system.states session).IsCommitted →
    (calls session).getForTenant system.rows = some row → (calls session).version < row.version
  /-- A row left the version of a call by the commit of a call with that version. -/
  taken : ∀ session row, (system.states session).change.isSome →
    (calls session).getForTenant system.rows = some row →
    (calls session).version < row.version →
    ∃ other, (system.states other).IsCommitted ∧ (calls session).SameVersion (calls other)

theorem start_sound (rows : ScheduleRows) : Sound calls (start rows) where
  based _ _ change := nomatch change
  stored _ _ change := nomatch change
  passed _ _ committed := committed.elim
  taken _ _ change := nomatch change

variable {calls}

/-- A session that commits nothing goes on with the change it had, or with one of the row
that it has found. -/
theorem Sound.withState {system next : UpdateSystem} (sound : Sound calls system) {session : Nat}
    {state : CallState} (rows : next.rows = system.rows)
    (states : next.states = Function.update system.states session state)
    (goesOn : ∀ change, state.change = some change →
      (system.states session).change = some change ∨
        (calls session).getForTenant system.rows = some change.1 ∧ Based (calls session) change)
    (committed : state.IsCommitted ↔ (system.states session).IsCommitted) :
    Sound calls next := by
  have change (other : Nat) (values : SyncSchedule × SyncSchedule)
      (found : (next.states other).change = some values) :
      (system.states other).change = some values ∨
        (calls other).getForTenant system.rows = some values.1 ∧ Based (calls other) values := by
    rw [states] at found
    by_cases isSession : other = session
    · subst isSession
      rw [Function.update_self] at found
      exact goesOn values found
    · rw [Function.update_of_ne isSession] at found
      exact .inl found
  have committedEach (other : Nat) :
      (next.states other).IsCommitted ↔ (system.states other).IsCommitted := by
    rw [states]
    by_cases isSession : other = session
    · subst isSession
      rw [Function.update_self, committed]
    · rw [Function.update_of_ne isSession]
  constructor
  case based =>
      intro other values found
      cases change other values found with
      | inl known => exact sound.based other values known
      | inr fresh => exact fresh.2
  case stored =>
      intro other values found
      rw [rows]
      cases change other values found with
      | inl known => exact sound.stored other values known
      | inr fresh => exact ⟨values.1, fresh.1, fresh.2.loaded.ge⟩
  case passed =>
      intro other row isCommitted found
      rw [rows] at found
      exact sound.passed other row ((committedEach other).mp isCommitted) found
  case taken =>
      intro other row isSome found later
      rw [rows] at found
      obtain ⟨values, isChange⟩ := Option.isSome_iff_exists.mp isSome
      cases change other values isChange with
      | inl known =>
          obtain ⟨taker, takerCommitted, same⟩ :=
            sound.taken other row (Option.isSome_iff_exists.mpr ⟨values, known⟩) found later
          exact ⟨taker, (committedEach taker).mpr takerCommitted, same⟩
      | inr fresh =>
          rw [fresh.1] at found
          cases found
          rw [fresh.2.loaded] at later
          exact absurd later (lt_irrefl _)

theorem change_of_isCommitted {state : CallState} (committed : state.IsCommitted) :
    ∃ change, state.change = some change := by
  cases state with
  | committed loaded changed => exact ⟨_, rfl⟩
  | _ => exact committed.elim

/-- Two calls for one row of one tenant find the same. -/
theorem getForTenant_congr {first second : UpdateCall} (same : first.SameVersion second)
    (rows : ScheduleRows) : first.getForTenant rows = second.getForTenant rows := by
  rw [UpdateCall.getForTenant, UpdateCall.getForTenant, same.scheduleId, same.tenantId]

/-- Calls that find one row are calls of one tenant. -/
theorem tenantId_eq {first second : UpdateCall} {rows : ScheduleRows} {row own : SyncSchedule}
    (sameRow : first.scheduleId = second.scheduleId)
    (found : first.getForTenant rows = some row) (foundToo : second.getForTenant rows = some own) :
    first.tenantId = second.tenantId := by
  have firstRow := Option.filter_eq_some_iff.mp found
  have secondRow := Option.filter_eq_some_iff.mp foundToo
  rw [sameRow, secondRow.1, Option.some.injEq] at firstRow
  have firstTenant := of_decide_eq_true firstRow.2
  have secondTenant := of_decide_eq_true secondRow.2
  rw [← firstTenant, ← secondTenant, firstRow.1]

/-- A call that comes after a commit of its version raises the conflict. -/
theorem Sound.conflict_of_committed {system : UpdateSystem} (sound : Sound calls system)
    {first second : Nat} (same : (calls first).SameVersion (calls second))
    (committed : (system.states first).IsCommitted) (now : Instant) :
    (select zones (calls second) system.rows now).IsConflict := by
  obtain ⟨change, isChange⟩ := change_of_isCommitted committed
  obtain ⟨row, stored, _⟩ := sound.stored first change isChange
  have later := sound.passed first row committed stored
  rw [getForTenant_congr same] at stored
  apply select_conflict zones stored
  rw [← same.version]
  exact later.ne

/-- In a sound state only two commits of one version are against the lock. -/
theorem Sound.optimisticallyLocked_iff {system : UpdateSystem} (sound : Sound calls system) :
    system.OptimisticallyLocked zones calls ↔
      ∀ first second, first ≠ second → (calls first).SameVersion (calls second) →
        (system.states first).IsCommitted → ¬ (system.states second).IsCommitted := by
  constructor
  · intro locked first second ne same committed
    exact (locked first second ne same committed).1
  · intro atMostOne first second ne same committed
    apply And.intro (atMostOne first second ne same committed)
    intro ready now
    have next : step zones calls system (.select second now) =
        system.setState second (select zones (calls second) system.rows now) := by
      simp [step, ready]
    rw [next]
    apply And.intro _ rfl
    simp only [setState, Function.update_self]
    exact sound.conflict_of_committed zones same committed now

theorem select_not_committed (call : UpdateCall) (rows : ScheduleRows) (now : Instant) :
    ¬ (select zones call rows now).IsCommitted := by
  simp only [select]
  split
  case h_1 => exact id
  case h_2 => exact id
  case h_3 => exact id

/-- The commit of a call that finds the version it has loaded. -/
theorem Sound.commit {system : UpdateSystem} (sound : Sound calls system) {session : Nat}
    {loaded changed : SyncSchedule} (isWritten : system.states session = .written loaded changed)
    (current : (system.rows (calls session).scheduleId).map SyncSchedule.version =
      some loaded.version) :
    Sound calls (step zones calls system (.commit session)) := by
  have isChange : (system.states session).change = some (loaded, changed) := by rw [isWritten]; rfl
  have based := sound.based session _ isChange
  -- The commit changes the state of the session, and which calls find a later row.
  have change (other : Nat) :
      ((step zones calls system (.commit session)).states other).change =
        (system.states other).change := by
    by_cases isSession : other = session
    · subst isSession
      simp [step, isWritten, setState, CallState.change]
    · simp [step, isWritten, setState, isSession]
  have committed (other : Nat) :
      ((step zones calls system (.commit session)).states other).IsCommitted ↔
        other = session ∨ (system.states other).IsCommitted := by
    by_cases isSession : other = session
    · subst isSession
      simp [step, isWritten, setState, CallState.IsCommitted]
    · simp [step, isWritten, setState, isSession]
  have found (other : Nat) :
      (calls other).getForTenant (step zones calls system (.commit session)).rows =
        if (calls other).scheduleId = (calls session).scheduleId then
          ((calls other).getForTenant system.rows).map (SyncSchedule.flush loaded changed)
        else (calls other).getForTenant system.rows := by
    simp only [step, isWritten]
    exact getForTenant_update (calls other) system.rows _ _ fun _ => rfl
  -- Until now the row was in the version of the call, and then it is in the next one.
  have atVersion (other : Nat) (row : SyncSchedule)
      (sameRow : (calls other).scheduleId = (calls session).scheduleId)
      (before : (calls other).getForTenant system.rows = some row) :
      row.version = (calls session).version := by
    have stored := (Option.filter_eq_some_iff.mp before).1
    rw [← sameRow, stored, based.loaded] at current
    exact Option.some.inj current
  have after (other : Nat) (row : SyncSchedule)
      (foundAfter : (calls other).getForTenant
        (step zones calls system (.commit session)).rows = some row) :
      ((calls other).getForTenant system.rows = some row ∧
          (calls other).scheduleId ≠ (calls session).scheduleId) ∨
        row.version = (calls session).version + 1 ∧
          ∃ old, (calls other).getForTenant system.rows = some old ∧
            old.version = (calls session).version ∧
            (calls other).scheduleId = (calls session).scheduleId := by
    rw [found other] at foundAfter
    by_cases sameRow : (calls other).scheduleId = (calls session).scheduleId
    · rw [if_pos sameRow] at foundAfter
      obtain ⟨old, before, rfl⟩ := Option.map_eq_some_iff.mp foundAfter
      exact .inr ⟨flush_version based old, old, before, atVersion other old sameRow before, sameRow⟩
    · rw [if_neg sameRow] at foundAfter
      exact .inl ⟨foundAfter, sameRow⟩
  constructor
  case based =>
      intro other values isChanged
      rw [change other] at isChanged
      exact sound.based other values isChanged
  case stored =>
      intro other values isChanged
      rw [change other] at isChanged
      obtain ⟨row, before, notEarlier⟩ := sound.stored other values isChanged
      rw [found other, before]
      by_cases sameRow : (calls other).scheduleId = (calls session).scheduleId
      · rw [if_pos sameRow]
        rw [atVersion other row sameRow before] at notEarlier
        refine ⟨_, rfl, ?_⟩
        rw [flush_version based]
        exact Int.le_add_one notEarlier
      · rw [if_neg sameRow]
        exact ⟨row, rfl, notEarlier⟩
  case passed =>
      intro other row isCommitted foundAfter
      cases after other row foundAfter with
      | inl unchanged =>
          cases (committed other).mp isCommitted with
          | inl isSession => exact absurd (by rw [isSession]) unchanged.2
          | inr before => exact sound.passed other row before unchanged.1
      | inr changed =>
          obtain ⟨next, old, before, version, _⟩ := changed
          rw [next]
          cases (committed other).mp isCommitted with
          | inl isSession => rw [isSession]; exact Int.lt_succ _
          | inr committedBefore =>
              have passed := sound.passed other old committedBefore before
              omega
  case taken =>
      intro other row isSome foundAfter later
      rw [change other] at isSome
      cases after other row foundAfter with
      | inl unchanged =>
          obtain ⟨taker, isCommitted, same⟩ := sound.taken other row isSome unchanged.1 later
          exact ⟨taker, (committed taker).mpr (.inr isCommitted), same⟩
      | inr changed =>
          obtain ⟨next, old, before, version, sameRow⟩ := changed
          by_cases earlier : (calls other).version < old.version
          · obtain ⟨taker, isCommitted, same⟩ := sound.taken other old isSome before earlier
            exact ⟨taker, (committed taker).mpr (.inr isCommitted), same⟩
          · have notLater := sound.stored session _ isChange
            obtain ⟨own, ownFound, _⟩ := notLater
            have sameTenant := tenantId_eq sameRow before ownFound
            exact ⟨session, (committed session).mpr (.inl rfl), sameTenant, sameRow, by omega⟩

/-- A step that meets the condition keeps the invariant. -/
theorem step_sound (system : UpdateSystem) (input : Step) (sound : Sound calls system)
    (kept : CommitsOnLoaded calls system input) : Sound calls (step zones calls system input) := by
  cases input with
  | select session now =>
      cases state : system.states session with
      | ready =>
          have next : step zones calls system (.select session now) =
              system.setState session (select zones (calls session) system.rows now) := by
            simp [step, state]
          rw [next]
          refine sound.withState rfl rfl ?_ ?_
          · intro change found
            exact .inr (select_change zones found)
          · rw [state]
            exact iff_of_false (select_not_committed zones _ _ _) id
      | _ => simpa [step, state] using sound
  | flush session =>
      cases state : system.states session with
      | changing loaded changed =>
          by_cases locked : (system.locks (calls session).scheduleId).isSome
          · simpa [step, state, locked] using sound
          · simp only [step, state, if_neg locked]
            refine sound.withState rfl rfl ?_ ?_
            · intro change found
              rw [state]
              exact .inl found
            · rw [state]
              exact Iff.rfl
      | _ => simpa [step, state] using sound
  | commit session =>
      cases state : system.states session with
      | written loaded changed =>
          simp only [CommitsOnLoaded, state] at kept
          exact sound.commit zones state kept
      | _ => simpa [step, state] using sound
  | rollback session =>
      have dropped {next : UpdateSystem} (rows : next.rows = system.rows)
          (states : next.states = Function.update system.states session .rolledBack)
          (uncommitted : ¬ (system.states session).IsCommitted) : Sound calls next :=
        sound.withState rows states (fun _ found => nomatch found) (iff_of_false id uncommitted)
      cases state : system.states session with
      | ready =>
          simp only [step, state]
          exact dropped rfl rfl (by rw [state]; exact id)
      | changing loaded changed =>
          simp only [step, state]
          exact dropped rfl rfl (by rw [state]; exact id)
      | written loaded changed =>
          simp only [step, state]
          exact dropped rfl rfl (by rw [state]; exact id)
      | _ => simpa [step, state] using sound

@[simp] theorem setState_states (system : UpdateSystem) (session : Nat) (state : CallState) :
    (system.setState session state).states = Function.update system.states session state := rfl

/-- A session that is not at a commit stays uncommitted. -/
theorem isCommitted_update {states : Nat → CallState} {session : Nat} {state : CallState}
    (same : state.IsCommitted ↔ (states session).IsCommitted) (other : Nat) :
    (Function.update states session state other).IsCommitted ↔ (states other).IsCommitted := by
  by_cases isSession : other = session
  · subst isSession
    rw [Function.update_self, same]
  · rw [Function.update_of_ne isSession]

/-- Only the commit of a written change makes a call a committed one. -/
theorem committed_step (system : UpdateSystem) (input : Step) (other : Nat) :
    ((step zones calls system input).states other).IsCommitted ↔
      (system.states other).IsCommitted ∨
        input = .commit other ∧
          ∃ loaded changed, system.states other = .written loaded changed := by
  cases input with
  | select session now =>
      cases state : system.states session with
      | ready =>
          have same : (select zones (calls session) system.rows now).IsCommitted ↔
              (system.states session).IsCommitted := by
            rw [state]
            exact iff_of_false (select_not_committed zones _ _ _) id
          simpa [step, state] using isCommitted_update same other
      | _ => simp [step, state]
  | flush session =>
      cases state : system.states session with
      | changing loaded changed =>
          by_cases isLocked : (system.locks (calls session).scheduleId).isSome
          · simp [step, state, isLocked]
          · have same : (CallState.written loaded changed).IsCommitted ↔
                (system.states session).IsCommitted := by
              rw [state]
              exact Iff.rfl
            simpa [step, state, isLocked] using isCommitted_update same other
      | _ => simp [step, state]
  | commit session =>
      cases state : system.states session with
      | written loaded changed =>
          by_cases isSession : other = session
          · subst isSession
            simp [step, state, setState, CallState.IsCommitted]
          · simp [step, state, setState, isSession, Ne.symm isSession]
      | _ =>
          by_cases isSession : session = other
          · subst isSession
            simp [step, state]
          · simp [step, state, isSession]
  | rollback session =>
      cases state : system.states session with
      | ready | changing | written =>
          have same : CallState.rolledBack.IsCommitted ↔ (system.states session).IsCommitted := by
            rw [state]
            exact Iff.rfl
          simpa [step, state] using isCommitted_update same other
      | _ => simp [step, state]

/-- Before a call commits on the version that it has loaded, no other one with this version
has committed. -/
theorem Sound.not_committed_of_current {system : UpdateSystem} (sound : Sound calls system)
    {session other : Nat} {loaded changed : SyncSchedule}
    (isWritten : system.states session = .written loaded changed)
    (kept : CommitsOnLoaded calls system (.commit session))
    (same : (calls other).SameVersion (calls session)) :
    ¬ (system.states other).IsCommitted := by
  intro committed
  have isChange : (system.states session).change = some (loaded, changed) := by rw [isWritten]; rfl
  have based := sound.based session _ isChange
  obtain ⟨row, found, _⟩ := sound.stored session _ isChange
  simp only [CommitsOnLoaded, isWritten] at kept
  rw [(Option.filter_eq_some_iff.mp found).1, Option.map_some, Option.some.injEq,
    based.loaded] at kept
  rw [← getForTenant_congr same] at found
  have passed := sound.passed other row committed found
  rw [kept, same.version] at passed
  exact lt_irrefl _ passed

/-- A step keeps the lock exactly if it commits on the version that was loaded. -/
theorem step_optimisticallyLocked_iff (system : UpdateSystem) (input : Step)
    (sound : Sound calls system) (locked : system.OptimisticallyLocked zones calls) :
    (step zones calls system input).OptimisticallyLocked zones calls ↔
      CommitsOnLoaded calls system input := by
  have atMostOne := (sound.optimisticallyLocked_iff zones).mp locked
  constructor
  · intro lockedNext
    cases input with
    | commit session =>
        cases state : system.states session with
        | written loaded changed =>
            simp only [CommitsOnLoaded, state]
            have isChange : (system.states session).change = some (loaded, changed) := by
              rw [state]; rfl
            have based := sound.based session _ isChange
            obtain ⟨row, found, notEarlier⟩ := sound.stored session _ isChange
            rw [(Option.filter_eq_some_iff.mp found).1, Option.map_some, based.loaded]
            -- Had the row moved on, another call with the version would be committed already.
            by_contra moved
            have later : (calls session).version < row.version := by
              apply lt_of_le_of_ne notEarlier
              intro same
              exact moved (congrArg some same.symm)
            obtain ⟨other, committed, same⟩ :=
              sound.taken session row (by rw [isChange]; rfl) found later
            have ne : session ≠ other := by
              intro equal
              rw [← equal, state] at committed
              exact committed
            have sessionCommits : ((step zones calls system (.commit session)).states
                session).IsCommitted :=
              (committed_step zones system _ session).mpr (.inr ⟨rfl, loaded, changed, state⟩)
            have otherCommitted : ((step zones calls system (.commit session)).states
                other).IsCommitted :=
              (committed_step zones system _ other).mpr (.inl committed)
            exact (lockedNext session other ne same sessionCommits).1 otherCommitted
        | _ => simp [CommitsOnLoaded, state]
    | _ => trivial
  · intro kept
    have soundNext := step_sound zones system input sound kept
    apply (soundNext.optimisticallyLocked_iff zones).mpr
    intro first second ne same firstCommitted secondCommitted
    cases (committed_step zones system input first).mp firstCommitted with
    | inl firstBefore =>
        cases (committed_step zones system input second).mp secondCommitted with
        | inl secondBefore => exact atMostOne first second ne same firstBefore secondBefore
        | inr secondNow =>
            obtain ⟨rfl, loaded, changed, state⟩ := secondNow
            exact sound.not_committed_of_current state kept same firstBefore
    | inr firstNow =>
        cases (committed_step zones system input second).mp secondCommitted with
        | inl secondBefore =>
            obtain ⟨rfl, loaded, changed, state⟩ := firstNow
            exact sound.not_committed_of_current state kept same.symm secondBefore
        | inr secondNow =>
            obtain ⟨rfl, _⟩ := firstNow
            exact ne (UpdateSystem.Step.commit.inj secondNow.1)

/-- Of the calls that carry one version of a row at most one commits its change, and the
others raise the conflict, in every state of a run exactly if each call commits on the
version that it has loaded. -/
theorem updates_optimisticallyLocked_iff (calls : Nat → UpdateCall) (rows : ScheduleRows)
    (steps : List Step) :
    (∀ before after, steps = before ++ after →
        (runAll (step zones calls) (start rows) before).OptimisticallyLocked zones calls) ↔
      Along (step zones calls) (CommitsOnLoaded calls) (start rows) steps := by
  have anything : Along (step zones calls) (fun _ _ => True) (start rows) steps :=
    along_of_forall steps fun _ _ => trivial
  have startLocked : (start rows).OptimisticallyLocked zones calls :=
    fun first second _ _ committed => committed.elim
  apply reached_iff_along _ _ steps (start_sound calls rows) anything startLocked
  · intro system input sound _ _ kept
    exact step_sound zones system input sound kept
  · intro system input sound _ locked
    exact step_optimisticallyLocked_iff zones system input sound locked

/-! ## Two administrators -/

/-- The zone that every database has. -/
def utcZones : ZoneDatabase := fun name => if name = "UTC" then some (.fixed 0) else none

/-- A schedule of every twelve hours. -/
def twiceADay : SyncSchedule where
  id := 7
  tenantId := 1
  scope := "ingestion"
  targetId := "bunq-1"
  schedule := .hourly ⟨12, by decide⟩
  timezone := "UTC"
  updatedAt := 0

def everyHours (hours : String) : UpdateCall where
  tenantId := 1
  scheduleId := 7
  version := 1
  update :=
    { schedule := some (.object [("frequency", .string "hourly"),
        ("interval_hours", .number hours)]) }

/-- The first session asks for every two hours and the others for every three. -/
def twoAdministrators : Nat → UpdateCall
  | 0 => everyHours "2"
  | _ => everyHours "3"

/-- The system after both sessions have read the row before one of them writes it. -/
def afterBoth : UpdateSystem :=
  runAll (step utcZones twoAdministrators)
    (start fun id => if id = 7 then some twiceADay else none)
    [.select 0 1, .select 1 1, .flush 0, .commit 0, .flush 1, .commit 1]

/-- Both commit their change, and that of the first one is lost. -/
theorem bothAdministrators_commit :
    ¬ afterBoth.OptimisticallyLocked utcZones twoAdministrators ∧
      (afterBoth.rows 7).map (fun row => (row.schedule, row.version)) =
        some (.hourly ⟨3, by decide⟩, 2) := by
  constructor
  · intro locked
    have first : (afterBoth.states 0).IsCommitted := by decide +kernel
    have second : (afterBoth.states 1).IsCommitted := by decide +kernel
    exact (locked 0 1 (by decide) ⟨rfl, rfl, rfl⟩ first).1 second
  · decide +kernel

end UpdateSystem

end FinanceSync.Schedules
