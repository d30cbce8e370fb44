import FinanceSync.Data.QuantityEvent
import Mathlib.Data.Finset.Basic
import Mathlib.Data.Fintype.Basic
import Mathlib.Data.Finset.Sort

/-!
# Recurrences

What a schedule of a tenant says, as `schedule_spec.py` reads it from JSON, and the
instants at which it runs.  The recurrence lives on the wall clock of a time zone: the
next run is looked for there and then read as an instant.
-/

namespace FinanceSync.Schedules

/-! ## Wall clocks -/

/-- What a clock on the wall shows, as microseconds since 1970-01-01 00:00 there. -/
abbrev LocalTime := Int

namespace LocalTime

def hours (count : Int) : Int := count * 3600 * 1000000

/-- `local.date()`, as days since 1970-01-01. -/
def date (time : LocalTime) : Int := time / Instant.microsecondsPerDay

end LocalTime

/-- `day.weekday()`, where Monday is 0; 1970-01-01 was a Thursday. -/
def weekday (day : Int) : Fin 7 := ⟨((day + 3) % 7).toNat, by omega⟩

/-- A time zone of the IANA database. -/
structure ZoneInfo where
  /-- `instant.astimezone(zone)` -/
  wallClock : Instant → LocalTime
  /-- `local.astimezone(UTC)`, where `fold` is 0: of a time that the clock shows twice the
  first, and a time that it skips counted from before the gap. -/
  instantOf : LocalTime → Instant

/-- The time zones by their names. -/
abbrev ZoneDatabase := String → Option ZoneInfo

/-- A zone whose clock is never changed. -/
def ZoneInfo.fixed (utcOffset : Int) : ZoneInfo where
  wallClock instant := instant + utcOffset
  instantOf time := time - utcOffset

/-! ## What a schedule says -/

/-- `datetime.time(hour, minute)` -/
structure TimeOfDay where
  hour : Fin 24
  minute : Fin 60
deriving DecidableEq, Repr

/-- The time of day as microseconds since midnight. -/
def TimeOfDay.sinceMidnight (time : TimeOfDay) : Int :=
  LocalTime.hours time.hour + time.minute * 60 * 1000000

def minIntervalHours : Int := 1

def maxIntervalHours : Int := 168

/-- Chosen days of the week; there is at least one. -/
abbrev Weekdays := { days : Finset (Fin 7) // days.Nonempty }

/-- An interval in the safe operational range. -/
abbrev IntervalHours := { hours : Int // minIntervalHours ≤ hours ∧ hours ≤ maxIntervalHours }

/-- A normalised schedule. -/
inductive Recurrence
  | daily (time : TimeOfDay)
  /-- Monday to Friday. -/
  | weekdays (time : TimeOfDay)
  | weekly (time : TimeOfDay) (days : Weekdays)
  | hourly (interval : IntervalHours)
deriving DecidableEq

/-- What `validate_schedule` raises. -/
inductive ScheduleError
  /-- `ScheduleValidationError` -/
  | invalid (message : String)
  /-- `TypeError`: the frequency is a list or a dict. -/
  | unhashable
deriving DecidableEq

/-! ## `validate_schedule` -/

/-- The digits of an integer, which may be grouped by single underscores. -/
def groupedDigits (chars : List Char) : Option Nat :=
  if (chars.splitOn '_').all fun group => !group.isEmpty && group.all Char.isDigit then
    some (digitsValue (chars.filter (· ≠ '_')))
  else none

/-- `int(text)`, where `none` is `ValueError`. -/
def parseInt (chars : List Char) : Option Int :=
  match strip chars with
  | '-' :: digits => (groupedDigits digits).map fun value => -(value : Int)
  | '+' :: digits => (groupedDigits digits).map fun value => (value : Int)
  | digits => (groupedDigits digits).map fun value => (value : Int)

/-- The value of a JSON number that Python loads as an `int`. -/
def integer : Json → Option Int
  | .number text => parseInt text.toList
  | _ => none

def invalidTime (value : String) : ScheduleError :=
  .invalid ("Invalid time: " ++ Json.quote value ++ " (expected HH:MM)")

/-- `time(hour, minute)`, where `none` is `ValueError`. -/
def timeOfDay (hour minute : Int) : Option TimeOfDay :=
  if bounds : (0 ≤ hour ∧ hour < 24) ∧ (0 ≤ minute ∧ minute < 60) then
    some ⟨⟨hour.toNat, by omega⟩, ⟨minute.toNat, by omega⟩⟩
  else none

/-- Parse `HH:MM` (24h). -/
def parseTime (value : String) : Except ScheduleError TimeOfDay :=
  match value.toList.dropWhile (· ≠ ':') with
  | [] => .error (invalidTime value)
  | _ :: minute =>
      let parsed := do
        let hour ← parseInt (value.toList.takeWhile (· ≠ ':'))
        let minute ← parseInt minute
        timeOfDay hour minute
      parsed.elim (.error (invalidTime value)) .ok

/-- Resolve a zone, or raise on an unknown one. -/
def validateTimezone (zones : ZoneDatabase) (name : String) : Except ScheduleError ZoneInfo :=
  match zones name with
  | some zone => .ok zone
  | none => .error (.invalid ("Unknown IANA timezone: " ++ Json.quote name))

/-- One entry of the chosen days. -/
def validateWeekday (day : Json) : Except ScheduleError (Fin 7) :=
  match integer day with
  | none => .error (.invalid ("weekday must be an integer 0-6, got " ++ day.repr))
  | some number =>
      if bounds : 0 ≤ number ∧ number ≤ 6 then .ok ⟨number.toNat, by omega⟩
      else .error (.invalid ("weekday out of range 0-6: " ++ day.repr))

/-- The chosen days, without repetitions. -/
def validateWeekdays (weekdays : Option Json) : Except ScheduleError Weekdays :=
  match weekdays with
  | some (.array (first :: rest)) => do
      let firstDay ← validateWeekday first
      let days ← rest.mapM validateWeekday
      .ok ⟨insert firstDay days.toFinset, Finset.insert_nonempty _ _⟩
  | _ => .error (.invalid "weekdays must be a non-empty list for weekly frequency")

def validateInterval (interval : Option Json) : Except ScheduleError IntervalHours :=
  match interval.bind integer with
  | none => .error (.invalid "interval_hours must be an integer for hourly frequency")
  | some hours =>
      if bounds : minIntervalHours ≤ hours ∧ hours ≤ maxIntervalHours then .ok ⟨hours, bounds⟩
      else .error (.invalid "interval_hours must be between 1 and 168")

/-- The time of a schedule; a missing one is the default. -/
def validateTime (time : Option Json) : Except ScheduleError TimeOfDay :=
  match time with
  | none => parseTime "07:00"
  | some value => parseTime value.str

/-- Validate and normalise the JSON of a schedule. -/
def validateSchedule (zones : ZoneDatabase) (schedule : Json) (timezone : String) :
    Except ScheduleError Recurrence :=
  match schedule with
  | .object fields =>
      match dictGet fields "frequency" with
      | some (.string "hourly") => do
          let _ ← validateTimezone zones timezone
          let interval ← validateInterval (dictGet fields "interval_hours")
          .ok (.hourly interval)
      | some (.string "weekly") => do
          let _ ← validateTimezone zones timezone
          let time ← validateTime (dictGet fields "time")
          let days ← validateWeekdays (dictGet fields "weekdays")
          .ok (.weekly time days)
      | some (.string "weekdays") => do
          let _ ← validateTimezone zones timezone
          let time ← validateTime (dictGet fields "time")
          .ok (.weekdays time)
      | some (.string "daily") => do
          let _ ← validateTimezone zones timezone
          let time ← validateTime (dictGet fields "time")
          .ok (.daily time)
      | some (.array _) | some (.object _) => .error .unhashable
      | frequency =>
          .error (.invalid ("Unsupported frequency: " ++ (frequency.getD .null).repr ++
            " (expected one of ['daily', 'hourly', 'weekdays', 'weekly'])"))
  | _ => .error (.invalid "schedule must be an object")

/-! ## The next runs -/

/-- `_next_hourly`: stepping wall-clock hours from `after`. -/
def nextHourly (interval : Int) (zone : ZoneInfo) (after : Instant) (count : Nat) :
    List Instant :=
  instants (min count 10000) (zone.wallClock after)
where
  instants : Nat → LocalTime → List Instant
    | 0, _ => []
    | count + 1, cursor =>
        let cursor := cursor + LocalTime.hours interval
        zone.instantOf cursor :: instants count cursor

/-- `_next_daily_like`: day after day from the date of `after`, for at most 400 days. -/
def nextDailyLike (days : Fin 7 → Bool) (time : TimeOfDay) (zone : ZoneInfo) (after : Instant)
    (count : Nat) : List Instant :=
  let localAfter := zone.wallClock after
  instants localAfter 400 count localAfter.date
where
  /-- The loop, with the days that are left, the instants that are missing and the day. -/
  instants (localAfter : LocalTime) : Nat → Nat → Int → List Instant
    | 0, _, _ => []
    | _, 0, _ => []
    | guard + 1, count + 1, day =>
        let candidate := Instant.days day + time.sinceMidnight
        if days (weekday day) ∧ localAfter < candidate then
          zone.instantOf candidate :: instants localAfter guard count (day + 1)
        else instants localAfter guard (count + 1) (day + 1)

/-- The next runs of a schedule after an instant. -/
def Recurrence.nextRunInstants (schedule : Recurrence) (zone : ZoneInfo) (after : Instant)
    (count : Nat) : List Instant :=
  match schedule with
  | .hourly interval => nextHourly interval zone after count
  | .weekly time days => nextDailyLike (fun day => day ∈ days.val) time zone after count
  | .weekdays time => nextDailyLike (fun day => day.val < 5) time zone after count
  | .daily time => nextDailyLike (fun _ => true) time zone after count

/-! ## The stored form -/

/-- `f"{number:02d}"` -/
def twoDigits (number : Nat) : List Char :=
  [Nat.digitChar (number / 10), Nat.digitChar (number % 10)]

def TimeOfDay.text (time : TimeOfDay) : String :=
  String.ofList (twoDigits time.hour ++ ':' :: twoDigits time.minute)

def storedDay (day : Fin 7) : Json := .number (toString day.val)

/-- The dict that `validate_schedule` returns, as the column holds it. -/
def Recurrence.stored : Recurrence → Json
  | .daily time => .object [("frequency", .string "daily"), ("time", .string time.text)]
  | .weekdays time =>
      .object [("frequency", .string "weekdays"), ("time", .string time.text),
        ("weekdays", .array ([0, 1, 2, 3, 4].map storedDay))]
  | .weekly time days =>
      .object [("frequency", .string "weekly"), ("time", .string time.text),
        ("weekdays", .array ((days.val.sort (· ≤ ·)).map storedDay))]
  | .hourly interval =>
      .object [("frequency", .string "hourly"), ("interval_hours", .number (toString interval.val))]

theorem parseInt_twoDigits :
    ∀ number : Fin 60, parseInt (twoDigits number) = some (number : Int) := by
  decide +kernel

theorem digitChar_ne_colon (digit : Nat) : Nat.digitChar digit ≠ ':' := by
  fun_cases Nat.digitChar digit <;> decide

theorem twoDigits_ne_colon (number : Nat) : ∀ char ∈ twoDigits number, char ≠ ':' := by
  simp [twoDigits, digitChar_ne_colon]

theorem timeOfDay_self (time : TimeOfDay) : timeOfDay time.hour time.minute = some time := by
  have hour := time.hour.isLt
  have minute := time.minute.isLt
  rw [timeOfDay, dif_pos (by omega)]
  simp

theorem parseTime_text (time : TimeOfDay) : parseTime time.text = .ok time := by
  have digits : ∀ char ∈ twoDigits time.hour, decide (char ≠ ':') = true := by
    intro char isMem
    simpa using twoDigits_ne_colon time.hour char isMem
  have hourText := parseInt_twoDigits (time.hour.castLE (by decide))
  have minuteText := parseInt_twoDigits time.minute
  rw [Fin.val_castLE] at hourText
  rw [parseTime, TimeOfDay.text, String.toList_ofList, List.dropWhile_append_of_pos digits,
    List.takeWhile_append_of_pos digits]
  simp [hourText, minuteText, timeOfDay_self]

theorem validateWeekday_stored : ∀ day : Fin 7, validateWeekday (storedDay day) = .ok day := by
  decide +kernel

theorem mapM_validateWeekday (days : List (Fin 7)) :
    (days.map storedDay).mapM validateWeekday = .ok days := by
  induction days with
  | nil => rfl
  | cons day rest ih =>
      rw [List.map_cons, List.mapM_cons, validateWeekday_stored, ih]
      rfl

theorem validateWeekdays_stored (days : Weekdays) :
    validateWeekdays (some (.array ((days.val.sort (· ≤ ·)).map storedDay))) = .ok days := by
  have whole : (days.val.sort (· ≤ ·)).toFinset = days.val := Finset.sort_toFinset _ _
  cases sorted : days.val.sort (· ≤ ·) with
  | nil =>
      rw [sorted] at whole
      exact absurd whole.symm days.property.ne_empty
  | cons first rest =>
      rw [sorted, List.toFinset_cons] at whole
      simp only [List.map_cons, validateWeekdays, validateWeekday_stored, mapM_validateWeekday]
      exact congrArg Except.ok (Subtype.ext whole)

theorem parseInt_toString :
    ∀ hours : Fin 169, parseInt (toString (hours : Int)).toList = some (hours : Int) := by
  decide +kernel

theorem validateInterval_stored (interval : IntervalHours) :
    validateInterval (some (.number (toString interval.val))) = .ok interval := by
  obtain ⟨hours, bounds⟩ := interval
  have small : hours.toNat < 169 := by
    simp only [minIntervalHours, maxIntervalHours] at bounds
    omega
  have nonneg : (hours.toNat : Int) = hours := by
    simp only [minIntervalHours] at bounds
    omega
  have parsed := parseInt_toString ⟨hours.toNat, small⟩
  rw [nonneg] at parsed
  rw [validateInterval, Option.bind_some, integer, parsed]
  exact dif_pos bounds

/-- A schedule is validated again before each computation, which changes nothing. -/
theorem validateSchedule_stored (zones : ZoneDatabase) (schedule : Recurrence) (timezone : String)
    (zone : ZoneInfo) (known : zones timezone = some zone) :
    validateSchedule zones schedule.stored timezone = .ok schedule := by
  have validated : validateTimezone zones timezone = .ok zone := by rw [validateTimezone, known]
  cases schedule with
  | daily time =>
      have text : validateTime (some (.string time.text)) = .ok time := parseTime_text time
      change (do
        let _ ← validateTimezone zones timezone
        let time ← validateTime (some (.string time.text))
        Except.ok (Recurrence.daily time)) = _
      rw [validated, text]
      rfl
  | weekdays time =>
      have text : validateTime (some (.string time.text)) = .ok time := parseTime_text time
      change (do
        let _ ← validateTimezone zones timezone
        let time ← validateTime (some (.string time.text))
        Except.ok (Recurrence.weekdays time)) = _
      rw [validated, text]
      rfl
  | weekly time days =>
      have text : validateTime (some (.string time.text)) = .ok time := parseTime_text time
      change (do
        let _ ← validateTimezone zones timezone
        let time ← validateTime (some (.string time.text))
        let days ← validateWeekdays (some (.array ((days.val.sort (· ≤ ·)).map storedDay)))
        Except.ok (Recurrence.weekly time days)) = _
      rw [validated, text, validateWeekdays_stored]
      rfl
  | hourly interval =>
      change (do
        let _ ← validateTimezone zones timezone
        let interval ← validateInterval (some (.number (toString interval.val)))
        Except.ok (Recurrence.hourly interval)) = _
      rw [validated, validateInterval_stored]
      rfl

/-- The schedule of two days a week. -/
theorem weekly_stored :
    validateSchedule (fun _ => some (.fixed 0))
        (Recurrence.weekly ⟨7, 30⟩ ⟨{0, 4}, by simp⟩).stored "UTC" =
      .ok (.weekly ⟨7, 30⟩ ⟨{0, 4}, by simp⟩) :=
  validateSchedule_stored _ _ "UTC" (.fixed 0) rfl

end FinanceSync.Schedules
