import FinanceSync.Portfolio.Performance
import Mathlib.Tactic.Ring

/-!
# Snapshots of unchanged positions

A sync of an unchanged position repeats its last snapshot.  The figures of the
performance service should not notice: the value of the portfolio at an instant
is that of the latest snapshots.  The service adds up all snapshots instead, so
the figures stay exactly if neither the repeated snapshot nor any that has been
superseded adds anything.
-/

namespace FinanceSync.Portfolio

open Lib

/-! ## The value of the latest snapshots -/

/-- The snapshots observed up to an instant. -/
def observedUpTo (holdings : List Holding) (moment : Instant) : List Holding :=
  holdings.filter fun holding => holding.observedAt ≤ moment

/-- The value of the latest snapshot of each position at an instant. -/
def latestValueAt (holdings : List Holding) (moment : Instant) : ℚ :=
  ((latest Holding.position Holding.moment (observedUpTo holdings moment)).map
    Holding.value).sum

/-- What the snapshots add that were no longer the latest at an instant. -/
def supersededValueAt (holdings : List Holding) (moment : Instant) : ℚ :=
  ((superseded Holding.position Holding.moment (observedUpTo holdings moment)).map
    Holding.value).sum

/-- A snapshot without a market value adds nothing. -/
theorem sum_value_of_isSome (holdings : List Holding) (condition : Holding → Prop)
    [DecidablePred condition] :
    ((holdings.filter fun holding => condition holding ∧ holding.marketValue.isSome).map
        Holding.value).sum =
      ((holdings.filter fun holding => condition holding).map Holding.value).sum := by
  induction holdings with
  | nil => rfl
  | cons holding rest ih =>
      simp only [Bool.decide_and, Bool.decide_eq_true] at ih ⊢
      by_cases selected : condition holding
      · cases valued : holding.marketValue with
        | none =>
            have nothing : holding.value = 0 := by simp [Holding.value, valued]
            simp [selected, valued, nothing, ih]
        | some marketValue => simp [selected, valued, ih]
      · simp [selected, ih]

/-- The service adds the superseded snapshots to the latest ones. -/
theorem getPortfolioValueAt_eq (holdings : List Holding) (moment : Instant) :
    getPortfolioValueAt holdings moment =
      latestValueAt holdings moment + supersededValueAt holdings moment := by
  rw [getPortfolioValueAt, sum_value_of_isSome holdings fun holding =>
    holding.observedAt ≤ moment]
  exact sum_eq_latest_add_superseded Holding.value Holding.position Holding.moment _

/-- The value at an instant is that of the latest snapshots exactly if the
superseded ones add nothing. -/
theorem getPortfolioValueAt_eq_latest_iff (holdings : List Holding) (moment : Instant) :
    getPortfolioValueAt holdings moment = latestValueAt holdings moment ↔
      supersededValueAt holdings moment = 0 := by
  rw [getPortfolioValueAt_eq]
  exact add_eq_left

/-! ## One more snapshot -/

/-- A snapshot that repeats the latest one of its position before it, observed
within the window. -/
structure Repeats (holdings : List Holding) (start finish : Instant) (repeated : Holding) :
    Prop where
  previous : ∃ previous ∈ latest Holding.position Holding.moment
      (holdings.filter fun holding => holding.observedAt < repeated.observedAt),
    previous.position = repeated.position ∧ previous.quantity = repeated.quantity ∧
      previous.marketValue = repeated.marketValue ∧
      previous.currencyCode = repeated.currencyCode
  afterStart : start ≤ repeated.observedAt
  beforeFinish : repeated.observedAt ≤ finish

section Append

variable {holdings : List Holding} {repeated : Holding}

theorem getPortfolioValueAt_append (holdings : List Holding) (repeated : Holding)
    (moment : Instant) :
    getPortfolioValueAt (holdings ++ [repeated]) moment =
      getPortfolioValueAt holdings moment +
        if repeated.observedAt ≤ moment then repeated.value else 0 := by
  simp only [getPortfolioValueAt, sum_value_of_isSome _ fun holding : Holding =>
    holding.observedAt ≤ moment, List.filter_append, List.map_append, List.sum_append]
  by_cases observed : repeated.observedAt ≤ moment <;> simp [observed]

/-- A repeated snapshot changes the value at a later instant exactly if it has one. -/
theorem getPortfolioValueAt_append_eq_iff {moment : Instant}
    (observed : repeated.observedAt ≤ moment) :
    getPortfolioValueAt (holdings ++ [repeated]) moment = getPortfolioValueAt holdings moment ↔
      repeated.value = 0 := by
  rw [getPortfolioValueAt_append, if_pos observed]
  exact add_eq_left

theorem value_eq_zero_iff :
    repeated.value = 0 ↔ repeated.marketValue = none ∨ repeated.marketValue = some 0 := by
  cases valued : repeated.marketValue <;> simp [Holding.value, valued]

/-! ## The weights -/

theorem getSecurityTypeWeights_append {start finish : Instant}
    (repeats : Repeats holdings start finish repeated) (worthless : repeated.value = 0)
    (securityType : Uuid → String) (moment : Instant) :
    getSecurityTypeWeights securityType (holdings ++ [repeated]) moment =
      getSecurityTypeWeights securityType holdings moment := by
  unfold getSecurityTypeWeights
  suffices sameRows : groupTotals
      (((holdings ++ [repeated]).filter fun holding =>
          holding.observedAt ≤ moment ∧ holding.marketValue.isSome).map
        fun holding => (securityType holding.securityId, holding.value)) =
      groupTotals
      ((holdings.filter fun holding =>
          holding.observedAt ≤ moment ∧ holding.marketValue.isSome).map
        fun holding => (securityType holding.securityId, holding.value)) by
    simp only [sameRows]
  by_cases counted : repeated.observedAt ≤ moment ∧ repeated.marketValue.isSome
  · -- The snapshot that is repeated has put its type among the rows.
    obtain ⟨previous, isLatest, samePosition, -, sameValue, -⟩ := repeats.previous
    obtain ⟨stored, earlier⟩ := List.mem_filter.mp (mem_latest.mp isLatest).1
    have before : previous.observedAt < repeated.observedAt := of_decide_eq_true earlier
    have sameSecurity : previous.securityId = repeated.securityId := congrArg Prod.snd samePosition
    have previousCounted : previous ∈ holdings.filter fun holding =>
        holding.observedAt ≤ moment ∧ holding.marketValue.isSome := by
      simp only [List.mem_filter, stored, true_and, decide_eq_true_eq, sameValue]
      exact ⟨le_trans before.le counted.1, counted.2⟩
    rw [List.filter_append, List.filter_singleton, decide_eq_true counted, cond_true,
      List.map_append, List.map_singleton, groupTotals_append_singleton, worthless]
    refine addTo_zero ((mem_keys_groupTotals _).mpr ?_)
    rw [← sameSecurity]
    exact List.mem_map.mpr ⟨_, List.mem_map_of_mem previousCounted, rfl⟩
  · rw [List.filter_append, List.filter_singleton, decide_eq_false counted, cond_false,
      List.append_nil]

/-! ## The time-weighted return -/

/-- The day of an instant is among the valued days of the window. -/
def IsValuedDay (holdings : List Holding) (start finish moment : Instant) : Prop :=
  truncateToDay moment ∈ (getDailyPortfolioValues holdings start finish).map Prod.fst

instance (holdings : List Holding) (start finish moment : Instant) :
    Decidable (IsValuedDay holdings start finish moment) :=
  inferInstanceAs (Decidable (_ ∈ _))

theorem totalsByDay_append (entries : List (Instant × ℚ)) (entry : Instant × ℚ) :
    totalsByDay (entries ++ [entry]) =
      (OrderBy.stable Prod.fst).sort (addTo (truncateToDay entry.1) entry.2
        (groupTotals (entries.map fun entry => (truncateToDay entry.1, entry.2)))) := by
  rw [totalsByDay, List.map_append, List.map_singleton, groupTotals_append_singleton]

theorem mem_days_totalsByDay (entries : List (Instant × ℚ)) (day : Instant) :
    day ∈ (totalsByDay entries).map Prod.fst ↔
      day ∈ (groupTotals (entries.map fun entry => (truncateToDay entry.1, entry.2))).map
        Prod.fst :=
  (((OrderBy.stable Prod.fst).perm _).map Prod.fst).mem_iff

section Daily

variable {start finish : Instant}

theorem getDailyPortfolioValues_append (repeats : Repeats holdings start finish repeated)
    (valued : repeated.marketValue.isSome) :
    getDailyPortfolioValues (holdings ++ [repeated]) start finish =
      (OrderBy.stable Prod.fst).sort (addTo (truncateToDay repeated.observedAt) repeated.value
        (groupTotals (((holdings.filter fun holding =>
            start ≤ holding.observedAt ∧ holding.observedAt ≤ finish ∧
              holding.marketValue.isSome).map
          fun holding => (holding.observedAt, holding.value)).map
            fun entry => (truncateToDay entry.1, entry.2)))) := by
  have counted : start ≤ repeated.observedAt ∧ repeated.observedAt ≤ finish ∧
      repeated.marketValue.isSome := ⟨repeats.afterStart, repeats.beforeFinish, valued⟩
  rw [getDailyPortfolioValues, List.filter_append, List.filter_singleton,
    decide_eq_true counted, cond_true, List.map_append, List.map_singleton, totalsByDay_append]

/-- On a day that is already valued a snapshot without worth changes nothing. -/
theorem getDailyPortfolioValues_append_of_valuedDay
    (repeats : Repeats holdings start finish repeated) (worthless : repeated.value = 0)
    (valued : repeated.marketValue.isSome)
    (sameDay : IsValuedDay holdings start finish repeated.observedAt) :
    getDailyPortfolioValues (holdings ++ [repeated]) start finish =
      getDailyPortfolioValues holdings start finish := by
  rw [getDailyPortfolioValues_append repeats valued, worthless,
    addTo_zero ((mem_days_totalsByDay _ _).mp sameDay)]
  rfl

/-- On any other day it adds a valuation. -/
theorem length_getDailyPortfolioValues_append
    (repeats : Repeats holdings start finish repeated) (valued : repeated.marketValue.isSome)
    (newDay : ¬ IsValuedDay holdings start finish repeated.observedAt) :
    (getDailyPortfolioValues (holdings ++ [repeated]) start finish).length =
      (getDailyPortfolioValues holdings start finish).length + 1 := by
  have absent := mt (mem_days_totalsByDay _ _).mpr newDay
  rw [getDailyPortfolioValues_append repeats valued,
    ((OrderBy.stable Prod.fst).perm _).length_eq, length_addTo_of_not_mem absent,
    getDailyPortfolioValues, totalsByDay, ((OrderBy.stable Prod.fst).perm _).length_eq]

/-- The response lists one sub-period less than there are valuations. -/
theorem length_periods (holdings : List Holding) (transactions : List CashTransaction)
    (start finish : Instant) :
    (calculateTwr holdings transactions start finish).periods.length =
      (getDailyPortfolioValues holdings start finish).length - 1 := by
  unfold calculateTwr
  dsimp only
  split
  · rename_i tooFew
    rw [List.length_nil]
    omega
  · simp [neighbours]

/-- A valued snapshot without worth leaves the return as it is exactly if its day
is valued already or no day is. -/
theorem calculateTwr_append_eq_iff (transactions : List CashTransaction)
    (repeats : Repeats holdings start finish repeated) (worthless : repeated.value = 0)
    (valued : repeated.marketValue.isSome) :
    calculateTwr (holdings ++ [repeated]) transactions start finish =
        calculateTwr holdings transactions start finish ↔
      getDailyPortfolioValues holdings start finish = [] ∨
        IsValuedDay holdings start finish repeated.observedAt := by
  by_cases sameDay : IsValuedDay holdings start finish repeated.observedAt
  · have sameValues :=
      getDailyPortfolioValues_append_of_valuedDay repeats worthless valued sameDay
    simp only [calculateTwr, sameValues, sameDay, or_true]
  · have oneMore := length_getDailyPortfolioValues_append repeats valued sameDay
    simp only [sameDay, or_false]
    constructor
    · intro same
      have periods := congrArg (fun response => response.periods.length) same
      simp only [length_periods, oneMore] at periods
      exact List.length_eq_zero_iff.mp (by omega)
    · intro none
      have single : (getDailyPortfolioValues (holdings ++ [repeated]) start finish).length < 2 := by
        rw [oneMore, none]
        exact Nat.lt_succ_self 1
      simp [calculateTwr, none, single]

/-! ## All figures -/

/-- The figures do not notice the repeated snapshot, and the value at any instant
is that of the latest snapshots. -/
def ResyncNeutral (securityType : Uuid → String) (holdings : List Holding)
    (transactions : List CashTransaction) (start finish : Instant) (repeated : Holding) : Prop :=
  let resynced := holdings ++ [repeated]
  ((calculateMwr resynced transactions start finish).initialValue =
        (calculateMwr holdings transactions start finish).initialValue ∧
      (calculateMwr resynced transactions start finish).finalValue =
        (calculateMwr holdings transactions start finish).finalValue) ∧
    (getSecurityTypeWeights securityType resynced start =
        getSecurityTypeWeights securityType holdings start ∧
      getSecurityTypeWeights securityType resynced finish =
        getSecurityTypeWeights securityType holdings finish) ∧
    calculateTwr resynced transactions start finish =
      calculateTwr holdings transactions start finish ∧
    ∀ moment, getPortfolioValueAt resynced moment = latestValueAt resynced moment

/-- The figures are as they should be exactly if the repeated snapshot has no
value, or is worth nothing on a day that is valued anyway, and superseded
snapshots never add anything. -/
theorem resyncNeutral_iff (securityType : Uuid → String) (transactions : List CashTransaction)
    (repeats : Repeats holdings start finish repeated) :
    ResyncNeutral securityType holdings transactions start finish repeated ↔
      (repeated.marketValue = none ∨ repeated.marketValue = some 0 ∧
        (getDailyPortfolioValues holdings start finish = [] ∨
          IsValuedDay holdings start finish repeated.observedAt)) ∧
      ∀ moment, supersededValueAt (holdings ++ [repeated]) moment = 0 := by
  constructor
  · rintro ⟨⟨-, final⟩, -, twr, law⟩
    refine ⟨?_, fun moment => (getPortfolioValueAt_eq_latest_iff _ _).mp (law moment)⟩
    have worthless : repeated.value = 0 :=
      (getPortfolioValueAt_append_eq_iff repeats.beforeFinish).mp final
    rcases value_eq_zero_iff.mp worthless with unvalued | zero
    · exact Or.inl unvalued
    · refine Or.inr ⟨zero, ?_⟩
      exact (calculateTwr_append_eq_iff transactions repeats worthless (by simp [zero])).mp twr
  · rintro ⟨condition, nothing⟩
    have worthless : repeated.value = 0 :=
      value_eq_zero_iff.mpr (condition.imp_right And.left)
    have sameValue : ∀ moment, getPortfolioValueAt (holdings ++ [repeated]) moment =
        getPortfolioValueAt holdings moment := by
      intro moment
      rw [getPortfolioValueAt_append, worthless, ite_self, add_zero]
    refine ⟨⟨sameValue start, sameValue finish⟩,
      ⟨getSecurityTypeWeights_append repeats worthless securityType start,
        getSecurityTypeWeights_append repeats worthless securityType finish⟩, ?_,
      fun moment => (getPortfolioValueAt_eq_latest_iff _ _).mpr (nothing moment)⟩
    rcases condition with unvalued | ⟨zero, days⟩
    · have sameDays : getDailyPortfolioValues (holdings ++ [repeated]) start finish =
          getDailyPortfolioValues holdings start finish := by
        simp [getDailyPortfolioValues, unvalued]
      simp only [calculateTwr, sameDays]
    · exact (calculateTwr_append_eq_iff transactions repeats worthless (by simp [zero])).mpr days

end Daily

end Append

/-! ## A second sync -/

/-- A position worth a hundred. -/
def synced : List Holding :=
  [{ id := 1, accountId := 1, securityId := 1, observedAt := 0, quantity := 1,
     marketValue := some 100, currencyCode := "EUR", source := .providerSync }]

/-- The same position a day later. -/
def resynced : Holding :=
  { id := 2, accountId := 1, securityId := 1, observedAt := Instant.days 1, quantity := 1,
    marketValue := some 100, currencyCode := "EUR", source := .providerSync }

theorem synced_repeats : Repeats synced 0 (Instant.days 1) resynced where
  previous := ⟨_, List.mem_cons_self, rfl, rfl, rfl, rfl⟩
  afterStart := by decide
  beforeFinish := le_rfl

theorem resyncNeutral_iff_synced :
    ResyncNeutral (fun _ => "stock") synced [] 0 (Instant.days 1) resynced ↔
      (resynced.marketValue = none ∨ resynced.marketValue = some 0 ∧
        (getDailyPortfolioValues synced 0 (Instant.days 1) = [] ∨
          IsValuedDay synced 0 (Instant.days 1) resynced.observedAt)) ∧
      ∀ moment, supersededValueAt (synced ++ [resynced]) moment = 0 :=
  resyncNeutral_iff (fun _ => "stock") [] synced_repeats

/-- After the second sync the final value is two hundred. -/
theorem synced_not_neutral :
    Repeats synced 0 (Instant.days 1) resynced ∧
      ¬ ResyncNeutral (fun _ => "stock") synced [] 0 (Instant.days 1) resynced := by
  refine ⟨synced_repeats, ?_⟩
  rintro ⟨⟨-, final⟩, -⟩
  exact absurd final (by decide +kernel)

end FinanceSync.Portfolio
