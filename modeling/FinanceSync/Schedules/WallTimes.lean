import FinanceSync.Schedules.Occurrences
import Mathlib.Data.List.Chain
import Mathlib.Data.List.TakeWhile

/-!
# Wall times

The next runs of a schedule are times on the wall clock that are read as instants one by
one.  The instants follow `after` in order as long as the clock is not put forward by as
much as the step from one time to the next, and a worker that goes on from each instant
plans the same ones as long as the clock shows there what was planned.
-/

namespace FinanceSync.Schedules

/-! ## Zones -/

/-- A change of the clocks. -/
structure Transition where
  moment : Instant
  utcOffset : Int

/-- A zone with the offset before the first transition. -/
structure PiecewiseZone where
  initial : Int
  transitions : List Transition

namespace PiecewiseZone

/-- The offset at an instant, with the one that holds before the transitions. -/
def offsetAt (instant : Instant) : Int → List Transition → Int
  | before, [] => before
  | before, transition :: rest =>
      if instant < transition.moment then before
      else offsetAt instant transition.utcOffset rest

/-- The offset of a time on the wall clock where `fold` is 0: a transition counts from the
later of the two times that the clock shows at it. -/
def offsetOf (time : LocalTime) : Int → List Transition → Int
  | before, [] => before
  | before, transition :: rest =>
      if time < transition.moment + max before transition.utcOffset then before
      else offsetOf time transition.utcOffset rest

def toZoneInfo (zone : PiecewiseZone) : ZoneInfo where
  wallClock instant := instant + offsetAt instant zone.initial zone.transitions
  instantOf time := time - offsetOf time zone.initial zone.transitions

end PiecewiseZone

/-- `utcoffset()` at an instant. -/
def ZoneInfo.offsetAt (zone : ZoneInfo) (instant : Instant) : Int :=
  zone.wallClock instant - instant

/-- `utcoffset()` of a time on the wall clock. -/
def ZoneInfo.offsetOf (zone : ZoneInfo) (time : LocalTime) : Int := time - zone.instantOf time

/-! ## The times that a schedule names -/

/-- The first of the chosen days from a day on, which is at most `fuel` days away. -/
def nextDay (days : Fin 7 → Bool) : Nat → Int → Int
  | 0, day => day
  | fuel + 1, day => if days (weekday day) then day else nextDay days fuel (day + 1)

/-- The chosen days one after the other. -/
def dayPath (days : Fin 7 → Bool) : Nat → Int → List Int
  | 0, _ => []
  | count + 1, day =>
      let next := nextDay days 6 day
      next :: dayPath days count (next + 1)

/-- The time of day on a day. -/
def TimeOfDay.onDay (time : TimeOfDay) (day : Int) : LocalTime :=
  Instant.days day + time.sinceMidnight

/-- The first day on which the time of day is still to come. -/
def TimeOfDay.firstDay (time : TimeOfDay) (after : LocalTime) : Int :=
  if after < time.onDay after.date then after.date else after.date + 1

/-- The times on chosen days after a time, within 400 days. -/
def dailyWallTimes (days : Fin 7 → Bool) (time : TimeOfDay) (after : LocalTime) (count : Nat) :
    List LocalTime :=
  ((dayPath days count (time.firstDay after)).takeWhile fun day => day < after.date + 400).map
    time.onDay

/-- The times on the wall clock that a schedule names after a time. -/
def Recurrence.wallTimes (schedule : Recurrence) (after : LocalTime) (count : Nat) :
    List LocalTime :=
  match schedule with
  | .daily time => dailyWallTimes (fun _ => true) time after count
  | .weekdays time => dailyWallTimes (fun day => day.val < 5) time after count
  | .weekly time days => dailyWallTimes (fun day => day ∈ days.val) time after count
  | .hourly interval =>
      (List.range (min count 10000)).map fun step =>
        after + (step + 1 : Nat) * LocalTime.hours interval

/-- The first time that a schedule names after a time. -/
def Recurrence.nextWallTime (schedule : Recurrence) (after : LocalTime) : LocalTime :=
  match schedule with
  | .daily time => time.onDay (nextDay (fun _ => true) 6 (time.firstDay after))
  | .weekdays time => time.onDay (nextDay (fun day => day.val < 5) 6 (time.firstDay after))
  | .weekly time days => time.onDay (nextDay (fun day => day ∈ days.val) 6 (time.firstDay after))
  | .hourly interval => after + LocalTime.hours interval

theorem TimeOfDay.onDay_mono (time : TimeOfDay) {day other : Int} (le : day ≤ other) :
    time.onDay day ≤ time.onDay other :=
  Int.add_le_add_right (Int.mul_le_mul_of_nonneg_right le (by decide)) _

section Days

variable {days : Fin 7 → Bool} {wanted : Fin 7} (chosen : days wanted)
include chosen

theorem exists_chosen (day : Int) : ∃ offset : Nat, offset < 7 ∧ days (weekday (day + offset)) := by
  obtain ⟨offset, bound, found⟩ := weekday_within day wanted
  exact ⟨offset, bound, found ▸ chosen⟩

omit chosen in
/-- The search goes at most as far as a chosen day. -/
theorem nextDay_of_offset (offset : Nat) : ∀ (fuel : Nat) (day : Int), offset ≤ fuel →
    days (weekday (day + offset)) →
    days (weekday (nextDay days fuel day)) ∧ day ≤ nextDay days fuel day ∧
      nextDay days fuel day ≤ day + offset := by
  induction offset with
  | zero =>
      intro fuel day _ here
      rw [Nat.cast_zero, add_zero] at here ⊢
      cases fuel with
      | zero => exact ⟨here, le_refl _, le_refl _⟩
      | succ fuel =>
          rw [nextDay, if_pos here]
          exact ⟨here, le_refl _, le_refl _⟩
  | succ offset ih =>
      intro fuel day bound there
      cases fuel with
      | zero => exact absurd bound (Nat.not_succ_le_zero _)
      | succ fuel =>
          rw [nextDay]
          split
          · next here => exact ⟨here, le_refl _, by omega⟩
          · have shift : day + (offset + 1 : Nat) = day + 1 + offset := by omega
            rw [shift] at there ⊢
            obtain ⟨found, later, soon⟩ :=
              ih fuel (day + 1) (Nat.le_of_succ_le_succ bound) there
            exact ⟨found, by omega, soon⟩

theorem nextDay_spec (day : Int) :
    days (weekday (nextDay days 6 day)) ∧ day ≤ nextDay days 6 day ∧
      nextDay days 6 day ≤ day + 6 := by
  obtain ⟨offset, bound, there⟩ := exists_chosen chosen day
  obtain ⟨found, later, soon⟩ := nextDay_of_offset offset 6 day (by omega) there
  exact ⟨found, later, by omega⟩

omit chosen in
theorem nextDay_stable (offset : Nat) : ∀ (fuel : Nat) (day : Int), offset ≤ fuel →
    days (weekday (day + offset)) → nextDay days (fuel + 1) day = nextDay days fuel day := by
  induction offset with
  | zero =>
      intro fuel day _ here
      rw [Nat.cast_zero, add_zero] at here
      cases fuel with
      | zero => simp [nextDay, here]
      | succ fuel => simp [nextDay, here]
  | succ offset ih =>
      intro fuel day bound there
      cases fuel with
      | zero => exact absurd bound (Nat.not_succ_le_zero _)
      | succ fuel =>
          have shift : day + (offset + 1 : Nat) = day + 1 + offset := by omega
          rw [shift] at there
          have later :=
            ih fuel (day + 1) (Nat.le_of_succ_le_succ bound) there
          conv_lhs => rw [nextDay, later]
          conv_rhs => rw [nextDay]

theorem nextDay_of_not {day : Int} (notToday : ¬ days (weekday day)) :
    nextDay days 6 day = nextDay days 6 (day + 1) := by
  obtain ⟨offset, bound, there⟩ := exists_chosen chosen day
  cases offset with
  | zero =>
      rw [Nat.cast_zero, add_zero] at there
      exact absurd there notToday
  | succ offset =>
      have shift : day + (offset + 1 : Nat) = day + 1 + offset := by omega
      rw [shift] at there
      rw [nextDay, if_neg notToday, nextDay_stable offset 5 (day + 1) (by omega) there]

theorem dayPath_of_not {day : Int} (notToday : ¬ days (weekday day)) (count : Nat) :
    dayPath days count day = dayPath days count (day + 1) := by
  cases count with
  | zero => rfl
  | succ count => rw [dayPath, dayPath, nextDay_of_not chosen notToday]

variable (zone : ZoneInfo) (time : TimeOfDay) (localAfter : LocalTime)

/-- Once the time of day is still to come, the search collects the chosen days that it
reaches. -/
theorem instants_eq_dayPath (guard : Nat) : ∀ (count : Nat) (day : Int),
    localAfter < time.onDay day →
      nextDailyLike.instants days time zone localAfter guard count day =
        (((dayPath days count day).takeWhile fun found => found < day + guard).map
          time.onDay).map zone.instantOf := by
  induction guard with
  | zero =>
      intro count day _
      cases count with
      | zero => rfl
      | succ count =>
          have later := (nextDay_spec chosen day).2.1
          rw [nextDailyLike.instants, dayPath, List.takeWhile_cons_of_neg]
          · rfl
          · simpa using later
  | succ guard ih =>
      intro count day toCome
      cases count with
      | zero => rfl
      | succ count =>
          have tomorrow : localAfter < time.onDay (day + 1) :=
            toCome.trans_le (time.onDay_mono (by omega))
          have bound : day + (guard + 1 : Nat) = day + 1 + guard := by omega
          rw [bound, nextDailyLike.instants]
          split
          · next runs =>
              have today : nextDay days 6 day = day := by rw [nextDay, if_pos runs.1]
              rw [ih count (day + 1) tomorrow, dayPath, today,
                List.takeWhile_cons_of_pos (by simp; omega)]
              rfl
          · next notToday =>
              have notChosen : ¬ days (weekday day) := fun isChosen =>
                notToday ⟨isChosen, toCome⟩
              rw [ih (count + 1) (day + 1) tomorrow,
                dayPath_of_not chosen notChosen]

/-- The search of a schedule with a time of day names its wall times. -/
theorem nextDailyLike_eq_map (after : Instant) (count : Nat) :
    nextDailyLike days time zone after count =
      (dailyWallTimes days time (zone.wallClock after) count).map zone.instantOf := by
  rw [nextDailyLike, dailyWallTimes, TimeOfDay.firstDay]
  split
  · next toCome =>
      rw [instants_eq_dayPath chosen zone time _ 400 count _ toCome]
      rfl
  · next gone =>
      have today := Int.lt_ediv_add_one_mul_self (zone.wallClock after)
        (show (0 : Int) < Instant.microsecondsPerDay by decide)
      have tomorrow : zone.wallClock after < time.onDay ((zone.wallClock after).date + 1) :=
        today.trans_le (le_add_of_nonneg_right time.sinceMidnight_nonneg)
      have notToday : ¬ (days (weekday (zone.wallClock after).date) ∧
          zone.wallClock after < Instant.days (zone.wallClock after).date + time.sinceMidnight) :=
        fun runs => gone runs.2
      have bound : (zone.wallClock after).date + 400 =
          (zone.wallClock after).date + 1 + (399 : Nat) := by omega
      rw [bound, ← instants_eq_dayPath chosen zone time _ 399 count _ tomorrow]
      cases count with
      | zero => rfl
      | succ count => rw [nextDailyLike.instants, if_neg notToday]

end Days

/-- The steps from a time on are the next one and the steps from it on. -/
theorem hours_range_succ (interval : Int) (cursor : LocalTime) (count : Nat) :
    ((List.range (count + 1)).map fun step =>
        cursor + (step + 1 : Nat) * LocalTime.hours interval) =
      (cursor + LocalTime.hours interval) ::
        (List.range count).map fun step =>
          cursor + LocalTime.hours interval + (step + 1 : Nat) * LocalTime.hours interval := by
  rw [List.range_succ_eq_map, List.map_cons, List.map_map, Nat.zero_add, Nat.cast_one, one_mul]
  apply congrArg ((cursor + LocalTime.hours interval) :: ·)
  apply List.map_congr_left
  intro step _
  rw [Function.comp_apply, Nat.succ_eq_add_one, Nat.cast_add (step + 1) 1, Nat.cast_one,
    add_mul _ 1, one_mul, add_assoc, add_comm (LocalTime.hours interval)]

theorem nextHourly_instants_eq (interval : Int) (zone : ZoneInfo) (count : Nat) :
    ∀ cursor : LocalTime, nextHourly.instants interval zone count cursor =
      ((List.range count).map fun step => cursor + (step + 1 : Nat) * LocalTime.hours interval).map
        zone.instantOf := by
  induction count with
  | zero => intro cursor; rfl
  | succ count ih =>
      intro cursor
      rw [nextHourly.instants, ih, hours_range_succ, List.map_cons]

/-- The next runs are the wall times, read as instants. -/
theorem Recurrence.nextRunInstants_eq_map (schedule : Recurrence) (zone : ZoneInfo)
    (after : Instant) (count : Nat) :
    schedule.nextRunInstants zone after count =
      (schedule.wallTimes (zone.wallClock after) count).map zone.instantOf := by
  cases schedule with
  | daily time =>
      have monday : (fun _ => true) (0 : Fin 7) = true := rfl
      exact @nextDailyLike_eq_map _ 0 monday zone time after count
  | weekdays time =>
      have monday : (fun day : Fin 7 => decide (day.val < 5)) 0 = true := rfl
      exact @nextDailyLike_eq_map _ 0 monday zone time after count
  | weekly time days =>
      obtain ⟨wanted, chosen⟩ := days.property
      exact nextDailyLike_eq_map (decide_eq_true chosen) zone time after count
  | hourly interval => exact nextHourly_instants_eq interval zone _ _

/-! ## The instants follow in order -/

/-- The times that a search compares, with the offset that each of them is read with: the
one at `after`, and then those that the schedule names. -/
def Recurrence.readings (schedule : Recurrence) (zone : PiecewiseZone) (after : Instant)
    (count : Nat) : List (LocalTime × Int) :=
  let localAfter := zone.toZoneInfo.wallClock after
  (localAfter, PiecewiseZone.offsetAt after zone.initial zone.transitions) ::
    (schedule.wallTimes localAfter count).map fun time =>
      (time, PiecewiseZone.offsetOf time zone.initial zone.transitions)

/-- The clock is put forward between two readings by less than they are apart. -/
def KeepsBehind (reading next : LocalTime × Int) : Prop :=
  next.2 - reading.2 < next.1 - reading.1

instance : DecidableRel KeepsBehind := fun reading next =>
  inferInstanceAs (Decidable (next.2 - reading.2 < next.1 - reading.1))

theorem Recurrence.instants_eq_readings (schedule : Recurrence) (zone : PiecewiseZone)
    (after : Instant) (count : Nat) :
    after :: schedule.nextRunInstants zone.toZoneInfo after count =
      (schedule.readings zone after count).map fun reading => reading.1 - reading.2 := by
  rw [Recurrence.nextRunInstants_eq_map, Recurrence.readings, List.map_cons, List.map_map]
  apply congrArg₂ List.cons
  · exact (add_sub_cancel_right _ _).symm
  · rfl

/-- The next runs are later than `after` and one later than the other exactly if the clock
is not put forward, from one named time to the next, by as much as they are apart. -/
theorem nextRunInstants_increase_iff (schedule : Recurrence) (zone : PiecewiseZone)
    (after : Instant) (count : Nat) :
    (∀ instant ∈ schedule.nextRunInstants zone.toZoneInfo after count, after < instant) ∧
        (schedule.nextRunInstants zone.toZoneInfo after count).Pairwise (· < ·) ↔
      (schedule.readings zone after count).IsChain KeepsBehind := by
  have behind (reading next : LocalTime × Int) :
      reading.1 - reading.2 < next.1 - next.2 ↔ KeepsBehind reading next := by
    rw [KeepsBehind, sub_lt_sub_iff, sub_lt_sub_iff, add_comm reading.1, add_comm next.1]
  rw [← List.pairwise_cons, ← List.isChain_iff_pairwise, Recurrence.instants_eq_readings,
    List.isChain_map]
  simp only [behind]

/-- The clocks of Amsterdam in 2026: an hour forward on 29 March and back on 25 October. -/
def amsterdam2026 : PiecewiseZone where
  initial := LocalTime.hours 1
  transitions :=
    [⟨Instant.days 20541 + LocalTime.hours 1, LocalTime.hours 2⟩,
      ⟨Instant.days 20751 + LocalTime.hours 1, LocalTime.hours 1⟩]

/-- `02:30` -/
def halfPastTwo : TimeOfDay := ⟨2, 30⟩

/-- The second time that the clock shows ten past two on 25 October 2026. -/
def secondTenPastTwo : Instant := Instant.days 20751 + LocalTime.hours 1 + 10 * 60 * 1000000

/-- Ten past two comes for the second time when half past two has been for the first. -/
theorem secondTenPastTwo_not_before :
    ¬ ((∀ instant ∈ (Recurrence.daily halfPastTwo).nextRunInstants amsterdam2026.toZoneInfo
            secondTenPastTwo 1, secondTenPastTwo < instant) ∧
        ((Recurrence.daily halfPastTwo).nextRunInstants amsterdam2026.toZoneInfo
            secondTenPastTwo 1).Pairwise (· < ·)) := by
  decide +kernel

/-! ## The worker's plan -/

/-- The runs that the worker plans, each from the one before. -/
def Recurrence.workerPlan (schedule : Recurrence) (zone : ZoneInfo) :
    Nat → Instant → List Instant
  | 0, _ => []
  | count + 1, after =>
      match schedule.nextRunInstants zone after 1 with
      | [] => []
      | next :: _ => next :: schedule.workerPlan zone count next

/-- The times that a schedule names one after the other. -/
def Recurrence.namedTimes (schedule : Recurrence) : Nat → LocalTime → List LocalTime
  | 0, _ => []
  | count + 1, after =>
      schedule.nextWallTime after :: schedule.namedTimes count (schedule.nextWallTime after)

/-- The schedule goes on from the time that the clock shows as it does from the named one;
the two are apart where the clock skips the named time. -/
def Recurrence.GoesOn (schedule : Recurrence) (zone : ZoneInfo) (time : LocalTime) : Prop :=
  zone.instantOf (schedule.nextWallTime (zone.wallClock (zone.instantOf time))) =
    zone.instantOf (schedule.nextWallTime time)

instance (schedule : Recurrence) (zone : ZoneInfo) :
    DecidablePred (schedule.GoesOn zone) := fun time =>
  inferInstanceAs (Decidable (zone.instantOf
    (schedule.nextWallTime (zone.wallClock (zone.instantOf time))) =
      zone.instantOf (schedule.nextWallTime time)))

section Days

variable {days : Fin 7 → Bool} {wanted : Fin 7} (chosen : days wanted)
include chosen

/-- No day of the path is further away than a week for each of them. -/
theorem dayPath_lt (count : Nat) : ∀ (day found : Int), found ∈ dayPath days count day →
    found < day + 7 * count := by
  induction count with
  | zero =>
      intro day found isMem
      cases isMem
  | succ count ih =>
      intro day found isMem
      have soon := (nextDay_spec chosen day).2.2
      cases isMem with
      | head => omega
      | tail _ later =>
          have bound := ih _ _ later
          omega

theorem dailyWallTimes_eq (time : TimeOfDay) (after : LocalTime) {count : Nat}
    (few : count ≤ 50) :
    dailyWallTimes days time after count =
      (dayPath days count (time.firstDay after)).map time.onDay := by
  rw [dailyWallTimes, List.takeWhile_eq_self_iff.mpr]
  intro day isMem
  have bound := dayPath_lt chosen count _ _ isMem
  have start : time.firstDay after ≤ after.date + 1 := by
    rw [TimeOfDay.firstDay]
    split <;> omega
  simp only [decide_eq_true_eq]
  omega

end Days

theorem TimeOfDay.date_onDay (time : TimeOfDay) (day : Int) : (time.onDay day).date = day := by
  have early := time.sinceMidnight_nonneg
  have late := time.sinceMidnight_lt
  simp only [LocalTime.date, TimeOfDay.onDay, Instant.days, Instant.microsecondsPerDay] at *
  omega

/-- After a time of day the next one is tomorrow. -/
theorem TimeOfDay.firstDay_onDay (time : TimeOfDay) (day : Int) :
    time.firstDay (time.onDay day) = day + 1 := by
  rw [TimeOfDay.firstDay, TimeOfDay.date_onDay, if_neg (lt_irrefl _)]

/-- The times on chosen days are named one after the other. -/
theorem namedTimes_eq_dayPath {schedule : Recurrence} {days : Fin 7 → Bool} {time : TimeOfDay}
    (named : ∀ after, schedule.nextWallTime after =
      time.onDay (nextDay days 6 (time.firstDay after))) (count : Nat) :
    ∀ after, schedule.namedTimes count after =
      (dayPath days count (time.firstDay after)).map time.onDay := by
  induction count with
  | zero => intro after; rfl
  | succ count ih =>
      intro after
      rw [Recurrence.namedTimes, ih, named, TimeOfDay.firstDay_onDay, dayPath,
        List.map_cons]

theorem namedTimes_hourly (interval : IntervalHours) (count : Nat) :
    ∀ after : LocalTime, (Recurrence.hourly interval).namedTimes count after =
      (List.range count).map fun step =>
        after + (step + 1 : Nat) * LocalTime.hours interval := by
  induction count with
  | zero => intro after; rfl
  | succ count ih =>
      intro after
      rw [Recurrence.namedTimes, ih, hours_range_succ]
      rfl

/-- Up to fifty runs the search sees all the times that the schedule names. -/
theorem Recurrence.wallTimes_eq_namedTimes (schedule : Recurrence) (after : LocalTime)
    {count : Nat} (few : count ≤ 50) :
    schedule.wallTimes after count = schedule.namedTimes count after := by
  cases schedule with
  | daily time =>
      have monday : (fun _ => true) (0 : Fin 7) = true := rfl
      rw [namedTimes_eq_dayPath (fun _ => rfl)]
      exact @dailyWallTimes_eq _ 0 monday time after _ few
  | weekdays time =>
      have monday : (fun day : Fin 7 => decide (day.val < 5)) 0 = true := rfl
      rw [namedTimes_eq_dayPath (fun _ => rfl)]
      exact @dailyWallTimes_eq _ 0 monday time after _ few
  | weekly time days =>
      obtain ⟨wanted, chosen⟩ := days.property
      rw [namedTimes_eq_dayPath (fun _ => rfl)]
      exact dailyWallTimes_eq (decide_eq_true chosen) time after few
  | hourly interval =>
      rw [namedTimes_hourly, Recurrence.wallTimes, Nat.min_eq_left (few.trans (by decide))]

/-- The next run is the first time that the schedule names, read as an instant. -/
theorem Recurrence.nextRunInstants_one (schedule : Recurrence) (zone : ZoneInfo)
    (after : Instant) :
    schedule.nextRunInstants zone after 1 =
      [zone.instantOf (schedule.nextWallTime (zone.wallClock after))] := by
  rw [Recurrence.nextRunInstants_eq_map, Recurrence.wallTimes_eq_namedTimes _ _ (by decide)]
  rfl

/-- From one planned instant on, the named times and the worker's runs are the same as long
as the schedule goes on as named. -/
theorem Recurrence.namedTimes_eq_workerPlan_iff (schedule : Recurrence) (zone : ZoneInfo)
    (count : Nat) : ∀ (time : LocalTime) (after : Instant),
      zone.instantOf (schedule.nextWallTime (zone.wallClock after)) =
        zone.instantOf (schedule.nextWallTime time) →
      ((schedule.namedTimes count time).map zone.instantOf =
          schedule.workerPlan zone count after ↔
        ∀ named ∈ (schedule.namedTimes count time).dropLast, schedule.GoesOn zone named) := by
  induction count with
  | zero => simp [Recurrence.namedTimes, Recurrence.workerPlan]
  | succ count ih =>
      intro time after sameStart
      rw [Recurrence.namedTimes, Recurrence.workerPlan, Recurrence.nextRunInstants_one,
        List.map_cons, sameStart, List.cons_eq_cons, and_iff_right rfl]
      cases count with
      | zero => simp [Recurrence.namedTimes, Recurrence.workerPlan]
      | succ count =>
          by_cases goesOn : schedule.GoesOn zone (schedule.nextWallTime time)
          · rw [ih _ _ goesOn]
            simp [Recurrence.namedTimes, goesOn]
          · have apart := goesOn
            rw [Recurrence.GoesOn, eq_comm] at apart
            simp [Recurrence.namedTimes, Recurrence.workerPlan, Recurrence.nextRunInstants_one,
              goesOn, apart]

/-- The preview shows the runs that the worker plans exactly if the schedule goes on, from
what the clock shows at each of them but the last, as it does from the named time. -/
theorem preview_eq_workerPlan_iff (schedule : Recurrence) (zone : ZoneInfo) (after : Instant)
    (count : Nat) (few : count ≤ 50) :
    schedule.nextRunInstants zone after count = schedule.workerPlan zone count after ↔
      ∀ time ∈ (schedule.wallTimes (zone.wallClock after) count).dropLast,
        schedule.GoesOn zone time := by
  rw [Recurrence.nextRunInstants_eq_map, Recurrence.wallTimes_eq_namedTimes _ _ few]
  exact schedule.namedTimes_eq_workerPlan_iff zone count _ _ rfl

/-- Half past two is skipped on 29 March 2026, and the day after it comes as named. -/
theorem preview_eq_workerPlan_halfPastTwo :
    (Recurrence.daily halfPastTwo).nextRunInstants amsterdam2026.toZoneInfo
        (Instant.days 20540) 3 =
      (Recurrence.daily halfPastTwo).workerPlan amsterdam2026.toZoneInfo 3
        (Instant.days 20540) :=
  (preview_eq_workerPlan_iff (.daily halfPastTwo) amsterdam2026.toZoneInfo (Instant.days 20540) 3
    (by decide)).mpr (by decide +kernel)

/-- Half an hour before the clocks of Amsterdam are put forward in 2026. -/
def beforeSummerTime : Instant := Instant.days 20541 + 30 * 60 * 1000000

/-- Every hour: the preview goes on from half past two, which the clock skips, and the worker
from half past three, which it shows. -/
theorem hourly_preview_ne_workerPlan :
    ¬ (Recurrence.hourly ⟨1, by decide⟩).nextRunInstants amsterdam2026.toZoneInfo
        beforeSummerTime 2 =
      (Recurrence.hourly ⟨1, by decide⟩).workerPlan amsterdam2026.toZoneInfo 2
        beforeSummerTime := by
  decide +kernel

end FinanceSync.Schedules
