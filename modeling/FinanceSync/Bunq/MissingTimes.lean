import FinanceSync.Bunq.Paging

/-!
# Missing timestamps of bunq

A timestamp that is absent, empty or unreadable is the epoch.  Where a record falls back
on another time with `or`, the epoch stays, since every datetime is true.  Where it asks
for a positive time, as for the end of a schedule, the missing time is left out.
-/

namespace FinanceSync.Bunq

/-! ## Payments -/

/-- What a timestamp says. -/
def said (runtime : Runtime) (field : Option String) : Option Instant :=
  readTime runtime (field.getD "")

/-- The times of a payment are times that its timestamps say, and a payment that has not
been updated is booked when it was created. -/
structure WellDated (created updated : Option Instant) (occurredAt bookedAt : Instant) : Prop where
  occurred : occurredAt = 0 → created = some 0
  booked : updated = none → created = some bookedAt
  ordered : (∀ start ∈ created, ∀ later ∈ updated, start ≤ later) → created.isSome →
    occurredAt ≤ bookedAt

/-- With the epoch for a missing time the times are right exactly if the payment was
created at a readable time and has been updated, or was created at the epoch. -/
theorem wellDated_iff (created updated : Option Instant) :
    WellDated created updated (created.getD 0) (orDatetime (updated.getD 0) (created.getD 0)) ↔
      created.isSome ∧ (updated.isSome ∨ created = some 0) := by
  cases created with
  | none =>
      constructor
      · intro dated
        cases dated.occurred rfl
      · intro ⟨absent, _⟩
        cases absent
  | some start =>
      cases updated with
      | none =>
          constructor
          · intro dated
            exact ⟨rfl, .inr (dated.booked rfl)⟩
          · intro ⟨_, epoch⟩
            have atEpoch := epoch.resolve_left Bool.false_ne_true
            rw [Option.some.injEq] at atEpoch
            rw [atEpoch]
            exact ⟨fun _ => rfl, fun _ => rfl, fun _ _ => le_rfl⟩
      | some later =>
          constructor
          · intro _
            exact ⟨rfl, .inl rfl⟩
          · intro _
            refine ⟨fun atEpoch => congrArg some atEpoch, fun absent => ?_, fun ordered _ => ?_⟩
            · cases absent
            · exact ordered start rfl later rfl

/-! ## Scheduled payments -/

/-- Without a next execution a schedule is next executed at its start, and without an end
it has none. -/
structure WellScheduled (start «end» next : Option Instant) (record : RawScheduledPayment) :
    Prop where
  next : next = none → record.nextExecutionDate = start
  «end» : «end» = none → record.endDate = none

theorem wellScheduled_iff (runtime : Runtime) (accountId : String) (data : SchedulePaymentData) :
    WellScheduled (said runtime data.schedule.start) (said runtime data.schedule.end)
        (said runtime data.schedule.nextExecution) (parseSchedulePayment runtime accountId data) ↔
      (said runtime data.schedule.nextExecution).isSome ∨
        said runtime data.schedule.start = some 0 := by
  have nextDate : (parseSchedulePayment runtime accountId data).nextExecutionDate =
      some ((said runtime data.schedule.nextExecution).getD 0) := rfl
  have isEnd : said runtime data.schedule.end = none →
      (parseSchedulePayment runtime accountId data).endDate = none := by
    intro absent
    rw [said] at absent
    simp [parseSchedulePayment, parseBunqDatetime, absent]
  cases next : said runtime data.schedule.nextExecution with
  | some date =>
      constructor
      · intro _
        exact .inl rfl
      · intro _
        exact ⟨fun absent => absurd absent (Option.some_ne_none date), isEnd⟩
  | none =>
      rw [next, Option.getD_none] at nextDate
      constructor
      · intro scheduled
        right
        rw [← scheduled.next rfl, nextDate]
      · intro epoch
        have atEpoch := epoch.resolve_left Bool.false_ne_true
        exact ⟨fun _ => nextDate.trans atEpoch.symm, isEnd⟩

/-! ## The filter by time -/

/-- A payment without a readable time of creation is among the items of its page. -/
def KeptBySince (runtime : Runtime) (accountId : String) (since : Instant)
    (data : PaymentData) : Prop :=
  said runtime data.created = none → ∀ items entries, some data ∈ entries →
    ∃ all, readEntries runtime accountId since none items entries = .going all ∧
      parsePayment runtime accountId data ∈ all

theorem readEntries_unlimited (runtime : Runtime) (accountId : String) (since : Instant)
    (items : List RawTransaction) (entries : List (Option PaymentData)) :
    readEntries runtime accountId since none items entries =
      .going (items ++ recent runtime accountId since entries) := by
  have notReached : ∀ items : List RawTransaction, ¬ isReached none items := by
    intro items reached
    cases reached
  rw [readEntries_eq (notReached items)]
  exact if_neg (notReached _)

theorem keptBySince_iff (runtime : Runtime) (accountId : String) (since : Instant)
    (data : PaymentData) :
    KeptBySince runtime accountId since data ↔
      (said runtime data.created).isSome ∨ since ≤ 0 := by
  have occurred : (parsePayment runtime accountId data).occurredAt =
      (said runtime data.created).getD 0 := rfl
  cases created : said runtime data.created with
  | some time =>
      constructor
      · intro _
        exact .inl rfl
      · intro _ absent
        rw [created] at absent
        cases absent
  | none =>
      rw [created, Option.getD_none] at occurred
      constructor
      · intro kept
        right
        rcases kept created [] [some data] List.mem_cons_self with ⟨all, read, isKept⟩
        rw [readEntries_unlimited, Progress.going.injEq] at read
        rw [← read, List.nil_append, recent, List.mem_filter, decide_eq_true_eq, occurred]
          at isKept
        exact isKept.2
      · intro early _ items entries isMem
        refine ⟨_, readEntries_unlimited runtime accountId since items entries, ?_⟩
        apply List.mem_append_right
        rw [recent, List.mem_filter, decide_eq_true_eq, occurred]
        refine ⟨List.mem_map_of_mem ?_, early.resolve_left Bool.false_ne_true⟩
        exact List.mem_filterMap.mpr ⟨some data, isMem, rfl⟩

/-! ## All records -/

/-- When the missing timestamps of a payment, a card payment and a scheduled payment
become no date of 1970, and when a payment that misses its creation is not dropped. -/
theorem missing_times_iff (runtime : Runtime) :
    (∀ accountId data,
      WellDated (said runtime data.created) (said runtime data.updated)
          (parsePayment runtime accountId data).occurredAt
          (parsePayment runtime accountId data).bookedAt ↔
        (said runtime data.created).isSome ∧
          ((said runtime data.updated).isSome ∨ said runtime data.created = some 0)) ∧
    (∀ cardId data,
      WellDated (said runtime data.created) (said runtime data.updated)
          (parseCardPayment runtime cardId data).occurredAt
          (parseCardPayment runtime cardId data).bookedAt ↔
        (said runtime data.created).isSome ∧
          ((said runtime data.updated).isSome ∨ said runtime data.created = some 0)) ∧
    (∀ accountId data,
      WellScheduled (said runtime data.schedule.start) (said runtime data.schedule.end)
          (said runtime data.schedule.nextExecution)
          (parseSchedulePayment runtime accountId data) ↔
        (said runtime data.schedule.nextExecution).isSome ∨
          said runtime data.schedule.start = some 0) ∧
    ∀ accountId since data, KeptBySince runtime accountId since data ↔
      (said runtime data.created).isSome ∨ since ≤ 0 :=
  ⟨fun _ data => wellDated_iff (said runtime data.created) (said runtime data.updated),
    fun _ data => wellDated_iff (said runtime data.created) (said runtime data.updated),
    wellScheduled_iff runtime, keptBySince_iff runtime⟩

/-- A payment and a schedule of June 2025. -/
def neverUpdated : PaymentData := { id := "1", created := some "2025-06-01 12:30:00" }

def neverExecuted : SchedulePaymentData :=
  { schedule := { start := some "2025-06-01 12:30:00" } }

theorem never_updated_booked_in_1970 :
    (parsePayment sampleRuntime "1001" neverUpdated).bookedAt = 0 ∧
      ¬ WellDated (said sampleRuntime neverUpdated.created) (said sampleRuntime neverUpdated.updated)
          (parsePayment sampleRuntime "1001" neverUpdated).occurredAt
          (parsePayment sampleRuntime "1001" neverUpdated).bookedAt ∧
      (parseSchedulePayment sampleRuntime "1001" neverExecuted).nextExecutionDate = some 0 ∧
      ¬ KeptBySince sampleRuntime "1001" 1 { id := "2" } := by
  refine ⟨by decide +kernel, fun dated => ?_, by decide +kernel, fun kept => ?_⟩
  · exact absurd (dated.booked (by decide +kernel)) (by decide +kernel)
  · have isLate := (keptBySince_iff _ _ _ _).mp kept
    exact absurd isLate (by decide +kernel)

end FinanceSync.Bunq
