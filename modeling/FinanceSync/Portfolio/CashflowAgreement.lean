import FinanceSync.Portfolio.Cashflow
import Mathlib.Algebra.Group.Prod
import Mathlib.Tactic.Ring

/-!
# The two cash flow reports

The report in memory is that of the database where the range is one and the database
looks at all of it, where the periods of the transactions start in their zones when they
start in UTC, and where the first and the last transaction occurred at midnight.
-/

namespace FinanceSync.Cashflow

open Lib

/-! ## Periods -/

section Periods

variable {interval : Interval} {rows : List Transaction}

/-- The period in memory that a transaction is in. -/
def Transaction.period (interval : Interval) (transaction : Transaction) : Instant :=
  (truncateToPeriod transaction.occurredAt interval).instant

/-- The period in the database that a transaction is in. -/
def Transaction.utcPeriod (interval : Interval) (transaction : Transaction) : Instant :=
  dateTrunc interval transaction.occurredAt.instant

theorem flowOf_eq (amount : ℚ) :
    flowOf amount =
      (if 0 < amount then amount else 0, if amount < 0 then -amount else 0, 1) := by
  rw [flowOf]
  rcases lt_trichotomy amount 0 with negative | zero | positive
  · rw [if_neg negative.not_gt, if_neg negative.not_gt, if_pos negative]
  · simp [zero]
  · rw [if_pos positive, if_pos positive, if_neg positive.not_gt]

theorem inflowExpr_cons (row : Transaction) (rows : List Transaction) :
    inflowExpr (row :: rows) = (if 0 < row.amount then row.amount else 0) + inflowExpr rows := by
  by_cases positive : 0 < row.amount
  · simp [inflowExpr, positive]
  · simp [inflowExpr, positive]

theorem outflowExpr_cons (row : Transaction) (rows : List Transaction) :
    outflowExpr (row :: rows) =
      (if row.amount < 0 then -row.amount else 0) + outflowExpr rows := by
  by_cases negative : row.amount < 0
  · simp [outflowExpr, negative]
  · simp [outflowExpr, negative]

/-- The sum of the flows is what the database aggregates. -/
theorem sum_flowOf (rows : List Transaction) :
    (rows.map fun row => flowOf row.amount).sum =
      (inflowExpr rows, outflowExpr rows, rows.length) := by
  induction rows with
  | nil => rfl
  | cons row rows ih =>
      rw [List.map_cons, List.sum_cons, ih, flowOf_eq, inflowExpr_cons, outflowExpr_cons,
        Prod.mk_add_mk, Prod.mk_add_mk, List.length_cons, Nat.add_comm 1]

theorem inflowExpr_sub_outflowExpr (rows : List Transaction) :
    inflowExpr rows - outflowExpr rows = (rows.map Transaction.amount).sum := by
  induction rows with
  | nil => simp [inflowExpr, outflowExpr]
  | cons row rows ih =>
      rw [List.map_cons, List.sum_cons, ← ih, inflowExpr_cons, outflowExpr_cons]
      rcases lt_trichotomy row.amount 0 with negative | zero | positive
      · rw [if_neg negative.not_gt, if_pos negative]
        ring
      · simp [zero]
      · rw [if_pos positive, if_neg positive.not_gt]
        ring

/-- A row of the database is an entry of its sum of flows. -/
theorem periodRow_eq (group : Instant × List Transaction) :
    periodRow group =
      periodEntry (group.1, (group.2.map fun row => flowOf row.amount).sum) := by
  rw [sum_flowOf, periodRow, periodEntry, inflowExpr_sub_outflowExpr]

/-- The periods in memory, newest first, are those of the database, if they start at the
same moments. -/
theorem reverse_periodsOf (rows : List Transaction)
    (sameStart : ∀ row ∈ rows, row.period interval = row.utcPeriod interval) :
    (periodsOf interval rows).reverse =
      ((OrderBy.stable fun group : Instant × List Transaction => -group.1).sort
        (groupsOf (Transaction.utcPeriod interval) rows)).map periodRow := by
  let total (group : Instant × List Transaction) : Instant × Flow :=
    (group.1, (group.2.map fun row => flowOf row.amount).sum)
  let totals := groupTotals (rows.map fun row => (row.utcPeriod interval, flowOf row.amount))
  let groups := (OrderBy.stable fun group : Instant × List Transaction => -group.1).sort
    (groupsOf (Transaction.utcPeriod interval) rows)
  have sameTotals : (rows.map fun row => (row.period interval, flowOf row.amount)) =
      rows.map fun row => (row.utcPeriod interval, flowOf row.amount) := by
    apply List.map_congr_left
    intro row rowMem
    rw [sameStart row rowMem]
  have perm : (groups.map total).Perm totals :=
    ((OrderBy.perm _ _).map total).trans
      (groupsOf_perm_groupTotals _ (fun row : Transaction => flowOf row.amount) rows)
  have ascending : ((groups.map total).reverse).Pairwise
      fun first second => first.1 ≤ second.1 := by
    rw [List.pairwise_reverse, List.pairwise_map]
    refine List.Pairwise.imp ?_ ((OrderBy.stable _).ascending _)
    intro first second descending
    exact neg_le_neg_iff.mp descending
  have sorted : (OrderBy.stable fun period : Instant × Flow => period.1).sort totals =
      (groups.map total).reverse :=
    OrderBy.sort_eq_of_ascending _ (nodup_keys_groupTotals _)
      ((List.reverse_perm _).trans perm) ascending
  calc (periodsOf interval rows).reverse
      = (((OrderBy.stable fun period : Instant × Flow => period.1).sort totals).map
          periodEntry).reverse := by
        rw [periodsOf]
        change ((((OrderBy.stable _).sort (groupTotals (rows.map fun row =>
          (row.period interval, flowOf row.amount)))).map periodEntry).reverse) = _
        rw [sameTotals]
    _ = (groups.map total).map periodEntry := by
        rw [sorted, ← List.map_reverse, List.reverse_reverse]
    _ = groups.map periodRow := by
        rw [List.map_map]
        exact List.map_congr_left fun group _ => (periodRow_eq group).symm

end Periods

/-! ## Totals -/

section Totals

variable (interval : Interval) (rows : List Transaction)

theorem periodsOf_perm :
    (periodsOf interval rows).Perm ((groupTotals (rows.map fun row =>
      (row.period interval, flowOf row.amount))).map periodEntry) :=
  (OrderBy.perm _ _).map periodEntry

/-- The totals of the periods add up to the flow of all transactions. -/
theorem sum_totals :
    ((groupTotals (rows.map fun row => (row.period interval, flowOf row.amount))).map
      Prod.snd).sum = (inflowExpr rows, outflowExpr rows, rows.length) := by
  rw [sum_groupTotals, List.map_map, ← sum_flowOf]
  rfl

theorem sum_inflows :
    ((periodsOf interval rows).map PeriodEntry.inflows).sum = inflowExpr rows := by
  rw [((periodsOf_perm interval rows).map _).sum_eq, List.map_map]
  calc _ = (((groupTotals (rows.map fun row => (row.period interval, flowOf row.amount))).map
        Prod.snd).map (AddMonoidHom.fst ℚ (ℚ × Nat))).sum := by rw [List.map_map]; rfl
    _ = inflowExpr rows := by rw [← map_list_sum, sum_totals]; rfl

theorem sum_outflows :
    ((periodsOf interval rows).map PeriodEntry.outflows).sum = outflowExpr rows := by
  rw [((periodsOf_perm interval rows).map _).sum_eq, List.map_map]
  calc _ = (((groupTotals (rows.map fun row => (row.period interval, flowOf row.amount))).map
        Prod.snd).map ((AddMonoidHom.fst ℚ Nat).comp (AddMonoidHom.snd ℚ (ℚ × Nat)))).sum := by
        rw [List.map_map]; rfl
    _ = outflowExpr rows := by rw [← map_list_sum, sum_totals]; rfl

theorem sum_counts :
    ((periodsOf interval rows).map PeriodEntry.transactionCount).sum = rows.length := by
  rw [((periodsOf_perm interval rows).map _).sum_eq, List.map_map]
  calc _ = (((groupTotals (rows.map fun row => (row.period interval, flowOf row.amount))).map
        Prod.snd).map ((AddMonoidHom.snd ℚ Nat).comp (AddMonoidHom.snd ℚ (ℚ × Nat)))).sum := by
        rw [List.map_map]; rfl
    _ = rows.length := by rw [← map_list_sum, sum_totals]; rfl

theorem sum_nets :
    ((periodsOf interval rows).map PeriodEntry.net).sum =
      inflowExpr rows - outflowExpr rows := by
  rw [← sum_inflows interval, ← sum_outflows interval, periodsOf, List.map_map, List.map_map,
    List.map_map]
  generalize (OrderBy.stable fun period : Instant × Flow => period.1).sort _ = periods
  induction periods with
  | nil => simp
  | cons period periods ih =>
      simp only [List.map_cons, List.sum_cons, ih, Function.comp_apply, periodEntry]
      ring

theorem mem_dates_iff {date : Instant} :
    date ∈ (periodsOf interval rows).map PeriodEntry.date ↔
      ∃ row ∈ rows, row.period interval = date := by
  rw [((periodsOf_perm interval rows).map _).mem_iff, List.map_map]
  change date ∈ (groupTotals _).map Prod.fst ↔ _
  rw [mem_keys_groupTotals, List.map_map, List.mem_map]
  rfl

end Totals

/-! ## Midnights -/

/-- The moment is the start of a day in UTC. -/
def AtMidnight (instant : Instant) : Prop := dateTrunc .day instant = instant

theorem dateTrunc_day (instant : Instant) :
    dateTrunc .day instant = instant / 86400000000 * 86400000000 := by
  change instant.fdiv 86400000000 * 86400000000 = _
  rw [Int.fdiv_eq_ediv_of_nonneg instant (by decide)]

theorem dateTrunc_day_le (instant : Instant) : dateTrunc .day instant ≤ instant := by
  rw [dateTrunc_day]
  exact Int.ediv_mul_le instant (by decide)

theorem dateTrunc_day_mono {first second : Instant} (le : first ≤ second) :
    dateTrunc .day first ≤ dateTrunc .day second := by
  rw [dateTrunc_day, dateTrunc_day]
  exact Int.mul_le_mul_of_nonneg_right (Int.ediv_le_ediv (by decide) le) (by decide)

theorem atMidnight_dateTrunc_day (instant : Instant) : AtMidnight (dateTrunc .day instant) := by
  rw [AtMidnight, dateTrunc_day instant, dateTrunc_day, Int.mul_ediv_cancel _ (by decide)]

/-- In a zone whose offset does not change, a period that starts when some period does in
UTC is one of UTC. -/
theorem offset_eq_zero {interval : Interval} {transaction other : Transaction}
    (same : transaction.period interval = other.utcPeriod interval) :
    transaction.occurredAt.zone.offset (interval.start transaction.occurredAt.wall) = 0 := by
  have bounded := transaction.occurredAt.zone.bounded
    (interval.start transaction.occurredAt.wall)
  rw [Transaction.period, Transaction.utcPeriod, ZonedDatetime.instant, dateTrunc] at same
  change interval.start transaction.occurredAt.wall -
    transaction.occurredAt.zone.offset (interval.start transaction.occurredAt.wall) = _ at same
  generalize transaction.occurredAt.zone.offset _ = offset at same bounded
  rw [Interval.start, Interval.start] at same
  generalize interval.firstDay _ = firstDay at same
  generalize interval.firstDay _ = otherDay at same
  change -86400000000 < offset ∧ offset < 86400000000 at bounded
  change firstDay * 86400000000 - offset = otherDay * 86400000000 at same
  omega

/-- The offset of the zone is the same at every time on the wall clock. -/
def Transaction.FixedZone (transaction : Transaction) : Prop :=
  ∀ wall, transaction.occurredAt.zone.offset wall =
    transaction.occurredAt.zone.offset transaction.occurredAt.wall

theorem period_eq_utcPeriod {interval : Interval} {transaction other : Transaction}
    (fixed : transaction.FixedZone)
    (same : transaction.period interval = other.utcPeriod interval) (unit : Interval) :
    transaction.period unit = transaction.utcPeriod unit := by
  have noOffset (wall : Int) : transaction.occurredAt.zone.offset wall = 0 := by
    rw [fixed wall, ← fixed (interval.start transaction.occurredAt.wall), offset_eq_zero same]
  rw [Transaction.period, Transaction.utcPeriod, ZonedDatetime.instant, ZonedDatetime.instant,
    dateTrunc]
  change unit.start transaction.occurredAt.wall - transaction.occurredAt.zone.offset _ = _
  rw [noOffset, noOffset, sub_zero, sub_zero]

/-! ## Agreement -/

variable (filters : Filters) (now : Instant) (interval : Interval)
  (transactions : List Transaction)

/-- The periods add up to the summary. -/
structure SumsTo (periods : List PeriodEntry) (summary : CashflowSummary) : Prop where
  inflows : (periods.map PeriodEntry.inflows).sum = summary.totalInflows
  outflows : (periods.map PeriodEntry.outflows).sum = summary.totalOutflows
  net : (periods.map PeriodEntry.net).sum = summary.netCashflow
  count : (periods.map PeriodEntry.transactionCount).sum = summary.transactionCount

/-- Both reports in memory are those of the database, the periods in the other order. -/
def Agrees : Prop :=
  ∃ periods summary, computeCashflow filters interval transactions = .ok periods ∧
    computeCashflowSummary filters transactions = .ok summary ∧
    periods.reverse = byPeriod filters now interval transactions ∧
    summary = calculate filters now transactions ∧ SumsTo periods summary

/-- The transactions that the reports in memory count. -/
def counted : List Transaction := transactions.filter (included filters)

/-- What makes the reports comparable. -/
structure Comparable : Prop where
  /-- The range is not inverted. -/
  range : ∀ startDate ∈ filters.startDate, ∀ endDate ∈ filters.endDate, startDate ≤ endDate
  /-- The database looks at all that is counted, also where its default range applies. -/
  window : ∀ transaction ∈ counted filters transactions,
    inRange filters now transaction = true
  /-- Periods and days start in the zone of a value when they start in UTC. -/
  zones : ∀ transaction ∈ counted filters transactions, ∀ unit ∈ [interval, .day],
    transaction.period unit = transaction.utcPeriod unit
  first : ∀ transaction ∈ counted filters transactions,
    (∀ other ∈ counted filters transactions,
      transaction.occurredAt.instant ≤ other.occurredAt.instant) →
    AtMidnight transaction.occurredAt.instant
  last : ∀ transaction ∈ counted filters transactions,
    (∀ other ∈ counted filters transactions,
      other.occurredAt.instant ≤ transaction.occurredAt.instant) →
    AtMidnight transaction.occurredAt.instant

section Agreement

variable {filters now interval transactions}

theorem included_of_selected {transaction : Transaction}
    (within : inRange filters now transaction = true) (booked : transaction.status = .booked)
    (ofAccounts : filters.ofAccounts transaction = true) :
    included filters transaction = true := by
  rw [inRange, Bool.and_eq_true, decide_eq_true_eq, decide_eq_true_eq] at within
  have afterStart : filters.startDate.all (· ≤ transaction.occurredAt.instant) = true := by
    rw [Option.all_eq_true]
    intro startDate isStart
    rw [Filters.rangeStart, isStart] at within
    exact decide_eq_true within.1
  have beforeEnd : filters.endDate.all (transaction.occurredAt.instant ≤ ·) = true := by
    rw [Option.all_eq_true]
    intro endDate isEnd
    rw [Filters.rangeEnd, isEnd] at within
    exact decide_eq_true within.2
  rw [included, afterStart, beforeEnd, ofAccounts, booked]
  rfl

/-- The database selects from what is counted. -/
theorem selected_eq :
    selected filters now transactions =
      (counted filters transactions).filter (inRange filters now) := by
  rw [selected, counted, List.filter_filter]
  apply List.filter_congr
  intro transaction _
  by_cases within : inRange filters now transaction = true
  · by_cases booked : transaction.status = .booked
    · by_cases ofAccounts : filters.ofAccounts transaction = true
      · simp [within, booked, ofAccounts, included_of_selected within booked ofAccounts]
      · simp [within, booked, ofAccounts, included]
    · simp [within, booked, included]
  · simp [within]

theorem computeCashflow_ok_iff {periods : List PeriodEntry} :
    computeCashflow filters interval transactions = .ok periods ↔
      (∀ startDate ∈ filters.startDate, ∀ endDate ∈ filters.endDate, startDate ≤ endDate) ∧
        periodsOf interval (counted filters transactions) = periods := by
  have notInverted : invertedRange filters = none ↔
      ∀ startDate ∈ filters.startDate, ∀ endDate ∈ filters.endDate, startDate ≤ endDate := by
    unfold invertedRange
    cases filters.startDate with
    | none => simp
    | some startDate =>
        cases filters.endDate with
        | none => simp
        | some endDate => simp
  rw [← notInverted, computeCashflow]
  cases invertedRange filters with
  | none => simp [counted]
  | some error => simp

/-- The summary in memory, of transactions of which the day periods are known. -/
theorem computeCashflowSummary_eq (range : ∀ startDate ∈ filters.startDate,
    ∀ endDate ∈ filters.endDate, startDate ≤ endDate) :
    computeCashflowSummary filters transactions = .ok
      { totalInflows := inflowExpr (counted filters transactions)
        totalOutflows := outflowExpr (counted filters transactions)
        netCashflow := inflowExpr (counted filters transactions) -
          outflowExpr (counted filters transactions)
        transactionCount := (counted filters transactions).length
        periodStart :=
          ((periodsOf .day (counted filters transactions)).map PeriodEntry.date).min?
        periodEnd :=
          ((periodsOf .day (counted filters transactions)).map PeriodEntry.date).max? } := by
  rw [computeCashflowSummary, computeCashflow_ok_iff.mpr ⟨range, rfl⟩]
  simp only [Except.map, sum_inflows, sum_outflows, sum_counts]

/-- The first of the days is the first moment, if that is at midnight. -/
theorem min?_days {rows : List Transaction}
    (days : ∀ row ∈ rows, row.period .day = row.utcPeriod .day)
    (first : ∀ row ∈ rows, (∀ other ∈ rows, row.occurredAt.instant ≤ other.occurredAt.instant) →
      AtMidnight row.occurredAt.instant) :
    ((periodsOf .day rows).map PeriodEntry.date).min? =
      (rows.map fun row => row.occurredAt.instant).min? := by
  cases earliest : (rows.map fun row => row.occurredAt.instant).min? with
  | none =>
      rw [List.min?_eq_none_iff, List.map_eq_nil_iff] at earliest
      rw [earliest]
      rfl
  | some moment =>
      rw [List.min?_eq_some_iff] at earliest
      obtain ⟨⟨row, rowMem, isMoment⟩, least⟩ := And.imp_left List.mem_map.mp earliest
      have leastRow : ∀ other ∈ rows, moment ≤ other.occurredAt.instant := fun other otherMem =>
        least _ (List.mem_map_of_mem otherMem)
      have midnight : AtMidnight moment := by
        rw [← isMoment] at leastRow ⊢
        exact first row rowMem leastRow
      rw [List.min?_eq_some_iff]
      constructor
      · rw [mem_dates_iff]
        refine ⟨row, rowMem, ?_⟩
        rw [days row rowMem, Transaction.utcPeriod, isMoment]
        exact midnight
      · intro date dateMem
        obtain ⟨other, otherMem, rfl⟩ := (mem_dates_iff .day rows).mp dateMem
        rw [days other otherMem, ← midnight]
        exact dateTrunc_day_mono (leastRow other otherMem)

theorem max?_days {rows : List Transaction}
    (days : ∀ row ∈ rows, row.period .day = row.utcPeriod .day)
    (last : ∀ row ∈ rows, (∀ other ∈ rows, other.occurredAt.instant ≤ row.occurredAt.instant) →
      AtMidnight row.occurredAt.instant) :
    ((periodsOf .day rows).map PeriodEntry.date).max? =
      (rows.map fun row => row.occurredAt.instant).max? := by
  cases latest : (rows.map fun row => row.occurredAt.instant).max? with
  | none =>
      rw [List.max?_eq_none_iff, List.map_eq_nil_iff] at latest
      rw [latest]
      rfl
  | some moment =>
      rw [List.max?_eq_some_iff] at latest
      obtain ⟨⟨row, rowMem, isMoment⟩, greatest⟩ := And.imp_left List.mem_map.mp latest
      have greatestRow : ∀ other ∈ rows, other.occurredAt.instant ≤ moment :=
        fun other otherMem => greatest _ (List.mem_map_of_mem otherMem)
      have midnight : AtMidnight moment := by
        rw [← isMoment] at greatestRow ⊢
        exact last row rowMem greatestRow
      rw [List.max?_eq_some_iff]
      constructor
      · rw [mem_dates_iff]
        refine ⟨row, rowMem, ?_⟩
        rw [days row rowMem, Transaction.utcPeriod, isMoment]
        exact midnight
      · intro date dateMem
        obtain ⟨other, otherMem, rfl⟩ := (mem_dates_iff .day rows).mp dateMem
        rw [days other otherMem]
        exact (dateTrunc_day_le _).trans (greatestRow other otherMem)

/-- Comparable reports agree. -/
theorem agrees_of_comparable (comparable : Comparable filters now interval transactions) :
    Agrees filters now interval transactions := by
  have sameRows : selected filters now transactions = counted filters transactions := by
    rw [selected_eq, List.filter_eq_self]
    exact comparable.window
  have days (transaction) (mem : transaction ∈ counted filters transactions) :=
    comparable.zones transaction mem .day (by simp)
  refine ⟨_, _, computeCashflow_ok_iff.mpr ⟨comparable.range, rfl⟩,
    computeCashflowSummary_eq comparable.range, ?_, ?_, ?_⟩
  · rw [byPeriod, sameRows]
    exact reverse_periodsOf _ fun row rowMem => comparable.zones row rowMem interval (by simp)
  · rw [calculate, sameRows, min?_days days comparable.first, max?_days days comparable.last]
  · exact ⟨sum_inflows _ _, sum_outflows _ _, sum_nets _ _, sum_counts _ _⟩

theorem mem_dates_byPeriod {date : Instant}
    (dateMem : date ∈ (byPeriod filters now interval transactions).map PeriodEntry.date) :
    ∃ row ∈ selected filters now transactions, row.utcPeriod interval = date := by
  rw [byPeriod, List.map_map, List.mem_map] at dateMem
  obtain ⟨group, groupMem, rfl⟩ := dateMem
  rw [OrderBy.mem_sort, mem_groupsOf] at groupMem
  exact List.mem_map.mp groupMem.1

/-- Reports that agree are comparable, if no zone changes its offset. -/
theorem comparable_of_agrees
    (fixed : ∀ transaction ∈ counted filters transactions, transaction.FixedZone)
    (agrees : Agrees filters now interval transactions) :
    Comparable filters now interval transactions := by
  obtain ⟨periods, summary, isPeriods, isSummary, samePeriods, sameSummary, -⟩ := agrees
  obtain ⟨range, rfl⟩ := computeCashflow_ok_iff.mp isPeriods
  rw [computeCashflowSummary_eq range, Except.ok.injEq] at isSummary
  rw [sameSummary] at isSummary
  have window : ∀ transaction ∈ counted filters transactions,
      inRange filters now transaction = true := by
    have sameCount := congrArg CashflowSummary.transactionCount isSummary
    rw [calculate, selected_eq] at sameCount
    exact List.length_filter_eq_length_iff.mp sameCount.symm
  have sameRows : selected filters now transactions = counted filters transactions := by
    rw [selected_eq, List.filter_eq_self]
    exact window
  have zones : ∀ transaction ∈ counted filters transactions, ∀ unit : Interval,
      transaction.period unit = transaction.utcPeriod unit := by
    intro transaction mem unit
    have inMemory : transaction.period interval ∈
        ((periodsOf interval (counted filters transactions)).reverse).map PeriodEntry.date := by
      rw [List.map_reverse, List.mem_reverse, mem_dates_iff]
      exact ⟨transaction, mem, rfl⟩
    rw [samePeriods] at inMemory
    obtain ⟨other, -, same⟩ := mem_dates_byPeriod inMemory
    exact period_eq_utcPeriod (fixed transaction mem) same.symm unit
  -- A bound that is the start of a day of the list is at midnight.
  have atMidnight : ∀ moment, moment ∈ (periodsOf .day (counted filters transactions)).map
      PeriodEntry.date → AtMidnight moment := by
    intro moment momentMem
    obtain ⟨row, rowMem, rfl⟩ := (mem_dates_iff .day _).mp momentMem
    rw [zones row rowMem]
    exact atMidnight_dateTrunc_day _
  refine ⟨range, window, fun transaction mem unit _ => zones transaction mem unit, ?_, ?_⟩
  · intro transaction mem least
    have sameStart := congrArg CashflowSummary.periodStart isSummary
    have isFirst : ((counted filters transactions).map fun row =>
        row.occurredAt.instant).min? = some transaction.occurredAt.instant := by
      rw [List.min?_eq_some_iff]
      refine ⟨List.mem_map_of_mem mem, fun moment momentMem => ?_⟩
      obtain ⟨other, otherMem, rfl⟩ := List.mem_map.mp momentMem
      exact least other otherMem
    rw [calculate, sameRows, isFirst] at sameStart
    exact atMidnight _ (List.min?_eq_some_iff.mp sameStart).1
  · intro transaction mem greatest
    have sameEnd := congrArg CashflowSummary.periodEnd isSummary
    have isLast : ((counted filters transactions).map fun row =>
        row.occurredAt.instant).max? = some transaction.occurredAt.instant := by
      rw [List.max?_eq_some_iff]
      refine ⟨List.mem_map_of_mem mem, fun moment momentMem => ?_⟩
      obtain ⟨other, otherMem, rfl⟩ := List.mem_map.mp momentMem
      exact greatest other otherMem
    rw [calculate, sameRows, isLast] at sameEnd
    exact atMidnight _ (List.max?_eq_some_iff.mp sameEnd).1

end Agreement

/-- Comparable reports agree, and where no zone changes its offset no others do. -/
theorem reports_agree_iff :
    (Comparable filters now interval transactions → Agrees filters now interval transactions) ∧
    ((∀ transaction ∈ counted filters transactions, transaction.FixedZone) →
      (Agrees filters now interval transactions ↔
        Comparable filters now interval transactions)) :=
  ⟨agrees_of_comparable, fun fixed => ⟨comparable_of_agrees fixed, agrees_of_comparable⟩⟩

/-! ## Two reports that differ -/

def fixedZone (hours : Fin 24) : Zone where
  offset _ := hours * 3600000000
  bounded _ := by
    change -86400000000 < (hours : Int) * 3600000000 ∧ (hours : Int) * 3600000000 < 86400000000
    omega

/-- A deposit of 100 in June 2025, at an hour of the first day. -/
def deposit (zone : Fin 24) (hour : Int) : Transaction where
  accountId := 1
  status := .booked
  occurredAt := { wall := (20240 * 24 + hour) * 3600000000, zone := fixedZone zone }
  amount := 100

/-- From January to December 2025. -/
def wholeYear : Filters where
  startDate := some (Instant.days 20089)
  endDate := some (Instant.days 20454)

/-- An hour past midnight two hours east of Greenwich is in June in memory and in May in
the database, and at noon the summary in memory starts at midnight. -/
theorem june_or_may :
    ¬ Agrees wholeYear 0 .month [deposit 2 1] ∧ ¬ Agrees wholeYear 0 .month [deposit 0 12] := by
  have counts (zone : Fin 24) (hour : Int)
      (isIncluded : included wholeYear (deposit zone hour) = true) :
      counted wholeYear [deposit zone hour] = [deposit zone hour] :=
    List.filter_cons_of_pos isIncluded
  have comparable (zone : Fin 24) (hour : Int)
      (isIncluded : included wholeYear (deposit zone hour) = true)
      (agrees : Agrees wholeYear 0 .month [deposit zone hour]) :
      Comparable wholeYear 0 .month [deposit zone hour] := by
    refine comparable_of_agrees (fun transaction mem => ?_) agrees
    rw [counts zone hour isIncluded, List.mem_singleton] at mem
    rw [mem]
    exact fun _ => rfl
  constructor
  · intro agrees
    have isIncluded : included wholeYear (deposit 2 1) = true := by decide +kernel
    have same := (comparable 2 1 isIncluded agrees).zones (deposit 2 1)
      (by rw [counts 2 1 isIncluded]; exact List.mem_singleton_self _) .month (by decide)
    revert same
    decide +kernel
  · intro agrees
    have isIncluded : included wholeYear (deposit 0 12) = true := by decide +kernel
    have midnight := (comparable 0 12 isIncluded agrees).first (deposit 0 12)
      (by rw [counts 0 12 isIncluded]; exact List.mem_singleton_self _)
      (by
        rw [counts 0 12 isIncluded]
        intro other otherMem
        rw [List.mem_singleton.mp otherMem])
    unfold AtMidnight at midnight
    revert midnight
    decide +kernel

end FinanceSync.Cashflow
