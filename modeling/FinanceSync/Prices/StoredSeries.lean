import FinanceSync.Lib.FirstByKey
import FinanceSync.Prices.DailyHistory

/-!
# Stored series

Prices of all sources and intervals are stored, and those of minutes and hours are pruned when
they are old.  The rows are a series: a price for each key, the first that was stored since its
key was last pruned.  A history is read from it, newest first.
-/

namespace FinanceSync.Prices

open Lib

/-- What the uniqueness of a price is about. -/
abbrev PriceKey := Uuid × Instant × String × String

/-! ## Pruning -/

structure PriceSettings where
  priceStoreKeepMinuteDays : Nat := 30
  priceStoreKeepHourDays : Nat := 90

def minuteIntervals : List String := ["1m", "5m", "15m", "30m"]

def hourIntervals : List String := ["1h", "4h"]

namespace PriceStore

/-- The rows of some intervals that are older than a number of days are deleted. -/
def prune (intervals : List String) (days : Nat) (store : PriceStore) (now : Instant) :
    PriceStore :=
  { store with
    rows := store.rows.filter fun row =>
      ¬ (row.interval ∈ intervals ∧ row.timestamp < now - Instant.days days) }

def pruneIntradayData (settings : PriceSettings) : PriceStore → Instant → PriceStore :=
  prune minuteIntervals settings.priceStoreKeepMinuteDays

def pruneHourlyData (settings : PriceSettings) : PriceStore → Instant → PriceStore :=
  prune hourIntervals settings.priceStoreKeepHourDays

/-- `_find_existing` -/
def findExisting (store : PriceStore) (key : PriceKey) : Option PriceObservation :=
  firstWith PriceObservation.key key store.rows

/-- `get_latest_price` -/
def getLatestPrice (store : PriceStore) (securityId : Uuid) (interval : String) :
    Option PriceObservation :=
  (store.getPriceHistory securityId interval none none 1).head?

end PriceStore

/-- What happens to the stored prices. -/
inductive PriceEvent
  | store (observations : List PriceObservation)
  | pruneIntraday (now : Instant)
  | pruneHourly (now : Instant)

def priceStep (settings : PriceSettings) (store : PriceStore) : PriceEvent → PriceStore
  | .store observations => store.storePrices observations
  | .pruneIntraday now => store.pruneIntradayData settings now
  | .pruneHourly now => store.pruneHourlyData settings now

/-! ## Series -/

/-- A price for each key. -/
abbrev PriceSeries := PriceKey → Option PriceObservation

namespace PriceSeries

/-- A key that has a price keeps it. -/
def add (series : PriceSeries) (observation : PriceObservation) : PriceSeries :=
  if (series observation.key).isSome then series
  else Function.update series observation.key (some observation)

def forget (intervals : List String) (before : Instant) (series : PriceSeries) : PriceSeries :=
  fun key => if key.2.2.2 ∈ intervals ∧ key.2.1 < before then none else series key

def step (settings : PriceSettings) (series : PriceSeries) : PriceEvent → PriceSeries
  | .store observations => runAll add series observations
  | .pruneIntraday now =>
      series.forget minuteIntervals (now - Instant.days settings.priceStoreKeepMinuteDays)
  | .pruneHourly now =>
      series.forget hourIntervals (now - Instant.days settings.priceStoreKeepHourDays)

end PriceSeries

/-! ## Refinement -/

section Refinement

variable {settings : PriceSettings} {store : PriceStore} {series : PriceSeries}
  {observation row : PriceObservation} {key : PriceKey}

/-- The rows are those of the series, one for each key. -/
structure Represents (store : PriceStore) (series : PriceSeries) : Prop where
  distinct : (store.rows.map PriceObservation.key).Nodup
  finds : ∀ key, store.findExisting key = series key

theorem findExisting_isSome_iff :
    (store.findExisting key).isSome ↔ key ∈ store.rows.map PriceObservation.key := by
  rw [PriceStore.findExisting, firstWith, List.find?_isSome]
  simp only [decide_eq_true_eq, List.mem_map]

theorem findExisting_eq_some_iff (distinct : (store.rows.map PriceObservation.key).Nodup) :
    store.findExisting key = some row ↔ row ∈ store.rows ∧ row.key = key := by
  constructor
  · intro found
    exact ⟨mem_of_firstWith PriceObservation.key found,
      key_of_firstWith PriceObservation.key found⟩
  · rintro ⟨member, rfl⟩
    exact firstWith_of_mem PriceObservation.key distinct member

namespace Represents

theorem empty : Represents {} fun _ => none := ⟨List.nodup_nil, fun _ => rfl⟩

theorem mem_iff (represents : Represents store series) :
    row ∈ store.rows ↔ series row.key = some row := by
  rw [← represents.finds, findExisting_eq_some_iff represents.distinct, and_iff_left rfl]

theorem add (represents : Represents store series) (observation : PriceObservation) :
    Represents (store.storePrice observation) (series.add observation) := by
  have taken : (store.findExisting observation.key).isSome ↔
      observation.key ∈ store.rows.map PriceObservation.key := findExisting_isSome_iff
  rw [represents.finds] at taken
  by_cases stored : observation.key ∈ store.rows.map PriceObservation.key
  · have rows : (store.storePrice observation).rows = store.rows := if_pos stored
    refine ⟨?_, ?_⟩
    · rw [rows]
      exact represents.distinct
    · intro key
      rw [PriceStore.findExisting, rows, PriceSeries.add, if_pos (taken.mpr stored)]
      exact represents.finds key
  · have rows : (store.storePrice observation).rows = store.rows ++ [observation] := if_neg stored
    refine ⟨?_, ?_⟩
    · rw [rows, List.map_append, List.nodup_append]
      refine ⟨represents.distinct, List.nodup_singleton _, ?_⟩
      intro first isFirst second isSecond same
      rw [List.map_singleton, List.mem_singleton] at isSecond
      exact stored (isSecond ▸ same ▸ isFirst)
    · intro key
      rw [PriceSeries.add, if_neg fun some => stored (taken.mp some)]
      have found := represents.finds key
      rw [PriceStore.findExisting, firstWith] at found ⊢
      rw [rows, List.find?_append, found]
      by_cases same : key = observation.key
      · have none : series key = none := by
          rw [same]
          exact Option.not_isSome_iff_eq_none.mp fun some => stored (taken.mp some)
        rw [none, same, Function.update_self]
        simp
      · rw [Function.update_of_ne same]
        cases series key with
        | none => simp [Ne.symm same]
        | some other => rfl

theorem storePrices (represents : Represents store series)
    (observations : List PriceObservation) :
    Represents (store.storePrices observations) (Lib.runAll PriceSeries.add series observations) :=
  runAll_simulates add observations represents

theorem prune (represents : Represents store series) (intervals : List String) (days : Nat)
    (now : Instant) :
    Represents (store.prune intervals days now)
      (series.forget intervals (now - Instant.days days)) := by
  have distinct : ((store.prune intervals days now).rows.map PriceObservation.key).Nodup :=
    (List.filter_sublist.map PriceObservation.key).nodup represents.distinct
  refine ⟨distinct, ?_⟩
  intro key
  apply Option.ext
  intro row
  have before : series key = some row ↔ row ∈ store.rows ∧ row.key = key := by
    rw [← represents.finds, findExisting_eq_some_iff represents.distinct]
  rw [findExisting_eq_some_iff distinct, PriceSeries.forget, PriceStore.prune, List.mem_filter,
    decide_eq_true_eq]
  split
  · next old =>
      apply iff_of_false
      · rintro ⟨⟨-, kept⟩, rfl⟩
        exact kept old
      · exact nofun
  · next recent =>
      rw [before]
      constructor
      · rintro ⟨⟨member, -⟩, same⟩
        exact ⟨member, same⟩
      · rintro ⟨member, rfl⟩
        exact ⟨⟨member, recent⟩, rfl⟩

theorem step (represents : Represents store series) (event : PriceEvent) :
    Represents (priceStep settings store event) (series.step settings event) := by
  cases event with
  | store observations => exact represents.storePrices observations
  | pruneIntraday now => exact represents.prune _ _ now
  | pruneHourly now => exact represents.prune _ _ now

theorem runAll (represents : Represents store series) (events : List PriceEvent) :
    Represents (Lib.runAll (priceStep settings) store events)
      (Lib.runAll (PriceSeries.step settings) series events) :=
  runAll_simulates step events represents

end Represents

end Refinement

/-! ## Histories -/

section Histories

variable {settings : PriceSettings} {store : PriceStore} {series : PriceSeries}
  {row : PriceObservation} {securityId : Uuid} {interval : String}
  {start «end» : Option Instant} {limit : Nat}

/-- The prices that a history is about. -/
def Wanted (securityId : Uuid) (interval : String) (start «end» : Option Instant)
    (row : PriceObservation) : Prop :=
  row.securityId = securityId ∧ row.interval = interval ∧
    (∀ first ∈ start, first ≤ row.timestamp) ∧ ∀ last ∈ «end», row.timestamp ≤ last

/-- The newest prices of a series, in order. -/
structure IsHistory (series : PriceSeries) (wanted : PriceObservation → Prop) (limit : Nat)
    (history : List PriceObservation) : Prop where
  sorted : history.Pairwise fun row other => other.timestamp ≤ row.timestamp
  distinct : (history.map PriceObservation.key).Nodup
  stored : ∀ row ∈ history, series row.key = some row ∧ wanted row
  few : history.length ≤ limit
  newest : ∀ row, series row.key = some row → wanted row → row ∉ history →
    history.length = limit ∧ ∀ other ∈ history, row.timestamp ≤ other.timestamp

theorem Represents.isHistory (represents : Represents store series) :
    IsHistory series (Wanted securityId interval start «end») limit
      (store.getPriceHistory securityId interval start «end» limit) := by
  let rows := store.rows.filter fun row =>
    row.securityId = securityId ∧ row.interval = interval ∧
      (∀ first ∈ start, first ≤ row.timestamp) ∧ ∀ last ∈ «end», row.timestamp ≤ last
  let sorted := rows.insertionSort fun row other => other.timestamp ≤ row.timestamp
  have isSorted : sorted.Pairwise fun row other => other.timestamp ≤ row.timestamp := by
    have total : Std.Total fun row other : PriceObservation => other.timestamp ≤ row.timestamp :=
      ⟨fun row other => le_total other.timestamp row.timestamp⟩
    have transitive : IsTrans PriceObservation fun row other => other.timestamp ≤ row.timestamp :=
      ⟨fun _ _ _ second third => third.trans second⟩
    exact List.pairwise_insertionSort _ rows
  have isPerm : sorted.Perm rows := List.perm_insertionSort _ rows
  have mem_sorted : ∀ row, row ∈ sorted ↔
      series row.key = some row ∧ Wanted securityId interval start «end» row := by
    intro row
    rw [isPerm.mem_iff, List.mem_filter, decide_eq_true_eq, represents.mem_iff]
    rfl
  refine ⟨isSorted.sublist (List.take_sublist _ _), ?_, ?_, ?_, ?_⟩
  · have distinct : (sorted.map PriceObservation.key).Nodup :=
      ((isPerm.map _).nodup_iff).mpr
        ((List.filter_sublist.map PriceObservation.key).nodup represents.distinct)
    exact ((List.take_sublist _ _).map PriceObservation.key).nodup distinct
  · intro row member
    exact (mem_sorted row).mp (List.mem_of_mem_take member)
  · exact List.length_take_le _ _
  · intro row isStored isWanted notTaken
    have member : row ∈ sorted := (mem_sorted row).mpr ⟨isStored, isWanted⟩
    have dropped : row ∈ sorted.drop limit := by
      rw [← List.take_append_drop limit sorted, List.mem_append] at member
      exact member.resolve_left notTaken
    constructor
    · have longer : limit ≤ sorted.length := by
        by_contra shorter
        rw [List.drop_of_length_le (not_le.mp shorter).le] at dropped
        cases dropped
      exact List.length_take_of_le longer
    · intro other isTaken
      have apart := isSorted
      rw [← List.take_append_drop limit sorted, List.pairwise_append] at apart
      exact apart.2.2 other isTaken row dropped

/-- The newest price of a series, or none. -/
def IsLatest (series : PriceSeries) (wanted : PriceObservation → Prop) :
    Option PriceObservation → Prop
  | none => ∀ row, series row.key = some row → ¬ wanted row
  | some row => series row.key = some row ∧ wanted row ∧
      ∀ other, series other.key = some other → wanted other → other.timestamp ≤ row.timestamp

/-- The newest price is the history of length one. -/
theorem IsHistory.isLatest {wanted : PriceObservation → Prop} {history : List PriceObservation}
    (isHistory : IsHistory series wanted 1 history) : IsLatest series wanted history.head? := by
  cases history with
  | nil =>
      intro row isStored isWanted
      have full := (isHistory.newest row isStored isWanted List.not_mem_nil).1
      cases full
  | cons row rest =>
      have isEmpty : rest = [] := by
        have few := isHistory.few
        rw [List.length_cons] at few
        exact List.eq_nil_of_length_eq_zero (by omega)
      obtain ⟨isStored, isWanted⟩ := isHistory.stored row List.mem_cons_self
      refine ⟨isStored, isWanted, ?_⟩
      intro other otherStored otherWanted
      by_cases member : other ∈ row :: rest
      · rw [isEmpty, List.mem_singleton] at member
        rw [member]
      · exact (isHistory.newest other otherStored otherWanted member).2 row List.mem_cons_self

/-- After any stores and prunings a history has the newest prices of the series that they say,
each once and in order, and the latest price is the newest. -/
theorem price_history_refines (settings : PriceSettings) (events : List PriceEvent)
    (securityId : Uuid) (interval : String) (start «end» : Option Instant) (limit : Nat) :
    IsHistory (runAll (PriceSeries.step settings) (fun _ => none) events)
      (Wanted securityId interval start «end») limit
      ((runAll (priceStep settings) {} events).getPriceHistory securityId interval start «end»
        limit) ∧
      IsLatest (runAll (PriceSeries.step settings) (fun _ => none) events)
        (Wanted securityId interval none none)
        ((runAll (priceStep settings) {} events).getLatestPrice securityId interval) := by
  have represents : Represents (runAll (priceStep settings) {} events)
      (runAll (PriceSeries.step settings) (fun _ => none) events) :=
    Represents.empty.runAll events
  exact ⟨represents.isHistory, represents.isHistory.isLatest⟩

/-! ## Permanence -/

/-- A pruning that deletes the price of a key. -/
def PriceEvent.Prunes (settings : PriceSettings) (key : PriceKey) : PriceEvent → Prop
  | .store _ => False
  | .pruneIntraday now => key.2.2.2 ∈ minuteIntervals ∧
      key.2.1 < now - Instant.days settings.priceStoreKeepMinuteDays
  | .pruneHourly now => key.2.2.2 ∈ hourIntervals ∧
      key.2.1 < now - Instant.days settings.priceStoreKeepHourDays

/-- Nothing prunes a daily price. -/
theorem not_prunes_daily {key : PriceKey} (daily : key.2.2.2 = "1d") (event : PriceEvent) :
    ¬ event.Prunes settings key := by
  cases event with
  | store observations => exact id
  | pruneIntraday now =>
      rintro ⟨isMinute, -⟩
      rw [daily] at isMinute
      revert isMinute
      decide
  | pruneHourly now =>
      rintro ⟨isHour, -⟩
      rw [daily] at isHour
      revert isHour
      decide

theorem add_of_some {key : PriceKey} (observation : PriceObservation)
    (stored : series key = some row) : series.add observation key = some row := by
  rw [PriceSeries.add]
  split
  · exact stored
  · next free =>
      have ne : key ≠ observation.key := by
        rintro rfl
        rw [stored] at free
        exact free rfl
      rw [Function.update_of_ne ne]
      exact stored

theorem runAll_add_of_some {key : PriceKey} (observations : List PriceObservation) :
    ∀ {series : PriceSeries}, series key = some row →
      runAll PriceSeries.add series observations key = some row := by
  induction observations with
  | nil => exact fun stored => stored
  | cons observation rest ih =>
      exact fun stored => ih (add_of_some observation stored)

theorem step_of_some {key : PriceKey} {event : PriceEvent} (stored : series key = some row)
    (kept : ¬ event.Prunes settings key) : series.step settings event key = some row := by
  cases event with
  | store observations => exact runAll_add_of_some observations stored
  | pruneIntraday now => exact (if_neg kept).trans stored
  | pruneHourly now => exact (if_neg kept).trans stored

/-- A stored price is never replaced: it stays as it is until it is pruned, and a daily price
stays for good. -/
theorem stored_price_stays (settings : PriceSettings) (before after : List PriceEvent)
    (key : PriceKey) (row : PriceObservation)
    (stored : (runAll (priceStep settings) {} before).findExisting key = some row)
    (kept : key.2.2.2 = "1d" ∨ ∀ event ∈ after, ¬ event.Prunes settings key) :
    (runAll (priceStep settings) {} (before ++ after)).findExisting key = some row := by
  have represents : Represents (runAll (priceStep settings) {} before)
      (runAll (PriceSeries.step settings) (fun _ => none) before) :=
    Represents.empty.runAll before
  have unpruned : ∀ event ∈ after, ¬ event.Prunes settings key := by
    rcases kept with daily | unpruned
    · exact fun event _ => not_prunes_daily daily event
    · exact unpruned
  have preserved : ∀ (series : PriceSeries) (event : PriceEvent), series key = some row →
      ¬ event.Prunes settings key → series.step settings event key = some row :=
    fun _ _ stored kept => step_of_some stored kept
  rw [runAll_append, (represents.runAll after).finds]
  rw [represents.finds] at stored
  exact runAll_invariant preserved after stored (along_of_forall after unpruned)

/-- A close of one day. -/
def closeOf (close : ℚ) : PriceObservation where
  securityId := 1
  timestamp := 0
  priceOpen := none
  priceHigh := none
  priceLow := none
  priceClose := some close
  volume := none
  source := "yahoo"
  interval := "1d"
  currencyCode := "EUR"
  venue := ""
  quoted := "EUR"

/-- A correction and a pruning years later change nothing. -/
theorem first_close_stays :
    (runAll (priceStep {}) {} ([.store [closeOf 10]] ++
      [.store [closeOf 11], .pruneIntraday (Instant.days 900)])).findExisting
        (1, 0, "yahoo", "1d") = some (closeOf 10) :=
  stored_price_stays {} [.store [closeOf 10]] _ _ _ (by decide +kernel) (.inl rfl)

end Histories

end FinanceSync.Prices
