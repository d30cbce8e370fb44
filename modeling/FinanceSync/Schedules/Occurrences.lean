import FinanceSync.Schedules.Recurrence
import Mathlib.Order.Bounds.Basic
import Mathlib.Order.WellFounded

/-!
# Occurrences

The times on the wall clock that a recurrence denotes, as a set, and that the search for
the next run finds the least of them.
-/

namespace FinanceSync.Schedules

/-- The times after another that are on one of the days and at the time of day. -/
def onDays (days : Fin 7 → Bool) (time : TimeOfDay) (after : LocalTime) : Set LocalTime :=
  { moment | after < moment ∧
      ∃ day, days (weekday day) ∧ moment = Instant.days day + time.sinceMidnight }

/-- The times on the wall clock at which a schedule runs after another time. -/
def Recurrence.occurrences (schedule : Recurrence) (after : LocalTime) : Set LocalTime :=
  match schedule with
  | .daily time => onDays (fun _ => true) time after
  | .weekdays time => onDays (fun day => day.val < 5) time after
  | .weekly time days => onDays (fun day => day ∈ days.val) time after
  | .hourly interval =>
      { moment | ∃ count : Nat, 0 < count ∧ moment = after + count * LocalTime.hours interval }

/-- The first occurrence after `after` comes later than `bound`. -/
def Recurrence.NextAfter (schedule : Recurrence) (zone : ZoneInfo) (after bound : Instant) :
    Prop :=
  ∀ moment, IsLeast (schedule.occurrences (zone.wallClock after)) moment →
    bound < zone.instantOf moment

theorem TimeOfDay.sinceMidnight_nonneg (time : TimeOfDay) : 0 ≤ time.sinceMidnight := by
  simp only [TimeOfDay.sinceMidnight, LocalTime.hours]
  omega

theorem TimeOfDay.sinceMidnight_lt (time : TimeOfDay) :
    time.sinceMidnight < Instant.microsecondsPerDay := by
  have hour := time.hour.isLt
  have minute := time.minute.isLt
  simp only [TimeOfDay.sinceMidnight, LocalTime.hours, Instant.microsecondsPerDay]
  omega

/-- Each day of the week comes within a week. -/
theorem weekday_within (day : Int) (wanted : Fin 7) :
    ∃ offset : Nat, offset < 7 ∧ weekday (day + offset) = wanted := by
  have bound := wanted.isLt
  exists ((wanted.val - (day + 3)) % 7).toNat
  constructor
  · omega
  · apply Fin.ext
    simp only [weekday]
    omega

theorem weekday_add_week (day : Int) : weekday (day + 7) = weekday day := by
  apply Fin.ext
  simp only [weekday]
  omega

section Days

variable (days : Fin 7 → Bool) (time : TimeOfDay) (zone : ZoneInfo) (localAfter : LocalTime)

/-- The run on a day, as far as there is one. -/
abbrev RunsOn (day : Int) : Prop :=
  days (weekday day) ∧ localAfter < Instant.days day + time.sinceMidnight

/-- The search stops at the first day with a run. -/
theorem instants_of_first (offset : Nat) :
    ∀ (guard : Nat) (day : Int), offset < guard →
      (∀ earlier < offset, ¬ RunsOn days time localAfter (day + earlier)) →
      RunsOn days time localAfter (day + offset) →
      nextDailyLike.instants days time zone localAfter guard 1 day =
        [zone.instantOf (Instant.days (day + offset) + time.sinceMidnight)] := by
  induction offset with
  | zero =>
      intro guard day bound _ runs
      cases guard with
      | zero => exact absurd bound (by decide)
      | succ guard =>
          rw [Nat.cast_zero, add_zero] at runs ⊢
          rw [nextDailyLike.instants, if_pos runs]
          cases guard <;> rfl
  | succ offset ih =>
      intro guard day bound none runs
      cases guard with
      | zero => exact absurd bound (Nat.not_lt_zero _)
      | succ guard =>
          have notToday := none 0 (Nat.succ_pos offset)
          rw [Nat.cast_zero, add_zero] at notToday
          have shift (count : Nat) : day + 1 + count = day + (count + 1 : Nat) := by
            omega
          rw [nextDailyLike.instants, if_neg notToday,
            ih guard (day + 1) (Nat.lt_of_succ_lt_succ bound), shift]
          · intro earlier isEarlier
            rw [shift]
            exact none (earlier + 1) (Nat.succ_lt_succ isEarlier)
          · rw [shift]
            exact runs

/-- A schedule with a day has a run within eight days. -/
theorem runsOn_within {wanted : Fin 7} (chosen : days wanted) :
    ∃ offset : Nat, offset < 14 ∧ RunsOn days time localAfter (localAfter.date + offset) := by
  obtain ⟨offset, bound, found⟩ := weekday_within localAfter.date wanted
  exists offset + 7
  have start := time.sinceMidnight_nonneg
  have today := Int.lt_ediv_add_one_mul_self localAfter
    (show (0 : Int) < Instant.microsecondsPerDay by decide)
  apply And.intro (by omega)
  constructor
  · rw [Nat.cast_add, ← add_assoc, Nat.cast_ofNat, weekday_add_week, found]
    exact chosen
  · calc
      localAfter < (localAfter.date + 1) * Instant.microsecondsPerDay := today
      _ ≤ (localAfter.date + (offset + 7 : Nat)) * Instant.microsecondsPerDay +
          time.sinceMidnight := by
        simp only [Instant.microsecondsPerDay]
        omega

/-- No run of an earlier day is after the time. -/
theorem date_le_of_runsOn {day : Int} (runs : RunsOn days time localAfter day) :
    localAfter.date ≤ day := by
  have today := Int.ediv_mul_le localAfter
    (show Instant.microsecondsPerDay ≠ 0 by decide)
  have late := time.sinceMidnight_lt
  have after : localAfter < day * Instant.microsecondsPerDay + time.sinceMidnight := runs.2
  have bound : localAfter.date * Instant.microsecondsPerDay <
      (day + 1) * Instant.microsecondsPerDay := by
    calc
      localAfter.date * Instant.microsecondsPerDay ≤ localAfter := today
      _ < day * Instant.microsecondsPerDay + time.sinceMidnight := after
      _ < (day + 1) * Instant.microsecondsPerDay := by
        rw [add_mul, one_mul]
        exact Int.add_lt_add_left late _
  exact Int.lt_add_one_iff.mp (lt_of_mul_lt_mul_right bound (by decide))

/-- The search finds the first occurrence. -/
theorem nextDailyLike_first (after : Instant) (wanted : Fin 7) (chosen : days wanted) :
    ∃ moment, IsLeast (onDays days time (zone.wallClock after)) moment ∧
      nextDailyLike days time zone after 1 = [zone.instantOf moment] := by
  obtain ⟨someOffset, within, runsThere⟩ :=
    runsOn_within days time (zone.wallClock after) chosen
  have exist : ∃ offset : Nat,
      RunsOn days time (zone.wallClock after) ((zone.wallClock after).date + offset) :=
    ⟨someOffset, runsThere⟩
  have runs := Nat.find_spec exist
  have soon : Nat.find exist < 400 :=
    calc
      Nat.find exist ≤ someOffset := Nat.find_min' exist runsThere
      _ < 14 := within
      _ < 400 := by decide
  have found := instants_of_first days time zone (zone.wallClock after) (Nat.find exist) 400 _ soon
    (fun earlier isEarlier => Nat.find_min exist isEarlier) runs
  refine ⟨_, ⟨⟨runs.2, _, runs.1, rfl⟩, ?_⟩, found⟩
  intro other isMem
  obtain ⟨isAfter, day, chosenDay, rfl⟩ := isMem
  have runsOther : RunsOn days time (zone.wallClock after) day := ⟨chosenDay, isAfter⟩
  obtain ⟨offset, rfl⟩ :=
    Int.le.dest (date_le_of_runsOn days time (zone.wallClock after) runsOther)
  have notLess := Nat.find_min' exist runsOther
  apply Int.add_le_add_right
  apply Int.mul_le_mul_of_nonneg_right _ (by decide)
  omega

end Days

/-- The interval of a schedule is some time. -/
theorem hours_pos (interval : IntervalHours) : 0 < LocalTime.hours interval := by
  have bound := interval.property.1
  simp only [minIntervalHours] at bound
  simp only [LocalTime.hours]
  omega

/-- The next run of a schedule is its first occurrence on the wall clock. -/
theorem Recurrence.nextRunInstants_first (schedule : Recurrence) (zone : ZoneInfo)
    (after : Instant) :
    ∃ moment, IsLeast (schedule.occurrences (zone.wallClock after)) moment ∧
      schedule.nextRunInstants zone after 1 = [zone.instantOf moment] := by
  cases schedule with
  | daily time => exact nextDailyLike_first (fun _ => true) time zone after 0 rfl
  | weekdays time => exact nextDailyLike_first (fun day => day.val < 5) time zone after 0 rfl
  | weekly time days =>
      obtain ⟨wanted, chosen⟩ := days.property
      exact nextDailyLike_first (fun day => day ∈ days.val) time zone after wanted
        (decide_eq_true chosen)
  | hourly interval =>
      refine ⟨zone.wallClock after + LocalTime.hours interval, ⟨⟨1, by decide, by simp⟩, ?_⟩, rfl⟩
      intro other isMem
      obtain ⟨count, positive, rfl⟩ := isMem
      apply Int.add_le_add_left
      apply le_mul_of_one_le_left (hours_pos interval).le
      exact_mod_cast positive

/-- The next run comes later than a bound exactly if the first occurrence does. -/
theorem Recurrence.nextRunInstants_after_iff (schedule : Recurrence) (zone : ZoneInfo)
    (after bound : Instant) :
    (∀ instant ∈ (schedule.nextRunInstants zone after 1).head?, bound < instant) ↔
      schedule.NextAfter zone after bound := by
  obtain ⟨first, isFirst, found⟩ := schedule.nextRunInstants_first zone after
  rw [found]
  constructor
  · intro later moment isLeast
    rw [isLeast.unique isFirst]
    exact later _ rfl
  · intro later instant isMem
    cases isMem
    exact later first isFirst

/-- On a clock that is never changed, a schedule of every so many hours runs next that
many hours later. -/
theorem hourly_nextAfter_iff (interval : IntervalHours) (utcOffset : Int)
    (after bound : Instant) :
    (Recurrence.hourly interval).NextAfter (.fixed utcOffset) after bound ↔
      bound < after + LocalTime.hours interval := by
  rw [← Recurrence.nextRunInstants_after_iff]
  have next : (Recurrence.hourly interval).nextRunInstants (.fixed utcOffset) after 1 =
      [after + LocalTime.hours interval] := by
    change [after + utcOffset + LocalTime.hours interval - utcOffset] = _
    rw [add_right_comm, add_sub_cancel_right]
  simp [next]

end FinanceSync.Schedules
