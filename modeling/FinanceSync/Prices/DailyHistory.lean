import FinanceSync.Data.Values
import FinanceSync.Lib.Run
import Mathlib

/-!
# Daily price history

Daily prices come from Yahoo's chart where the local history is stale or too short.  The
code of the currency is put into upper case, which makes pence pounds, and a price is stored
under its exact time if there is none.  The unfinished bar of a day has another time whenever
it is fetched, so that it stays beside the others, and a correction changes nothing.
-/

namespace FinanceSync.Prices

open Lib

/-! ## Observations -/

/-- A chart: the currency that its meta data name, the times in seconds and the series. -/
structure Chart where
  currency : Option String := none
  timestamps : List Int
  opens : List (Option ℚ) := []
  highs : List (Option ℚ) := []
  lows : List (Option ℚ) := []
  closes : List (Option ℚ) := []
  volumes : List (Option ℚ) := []

/-- A price, with the code of the currency as it was quoted. -/
structure PriceObservation where
  securityId : Uuid
  timestamp : Instant
  priceOpen : Option ℚ
  priceHigh : Option ℚ
  priceLow : Option ℚ
  priceClose : Option ℚ
  volume : Option ℚ
  source : String
  interval : String
  currencyCode : String
  venue : String
  quoted : String
deriving DecidableEq

namespace PriceObservation

def prices (observation : PriceObservation) : List ℚ :=
  [observation.priceOpen, observation.priceHigh, observation.priceLow,
    observation.priceClose].filterMap id

/-- What the uniqueness of a price is about. -/
def key (observation : PriceObservation) : Uuid × Instant × String × String :=
  (observation.securityId, observation.timestamp, observation.source, observation.interval)

end PriceObservation

/-- Read one nullable series value. -/
def seriesValue (values : List (Option ℚ)) (index : Nat) : Option ℚ := (values[index]?).join

/-- `symbol.rsplit(".", 1)[-1]` -/
def afterLastPoint (symbol : String) : String :=
  String.ofList ((symbol.toList.reverse.takeWhile (· ≠ '.')).reverse)

/-- The code of the currency that the meta data name, as it is quoted. -/
def Chart.quoted (chart : Chart) : String := (chart.currency.filter (· ≠ "")).getD "EUR"

/-- The bar of a time, unless it has no close. -/
def readBar (upper : String → String) (securityId : Uuid) (symbol : String) (chart : Chart)
    (timestamp : Int) (index : Nat) : Option PriceObservation :=
  (seriesValue chart.closes index).map fun close =>
    { securityId
      timestamp := timestamp * 1000000
      priceOpen := seriesValue chart.opens index
      priceHigh := seriesValue chart.highs index
      priceLow := seriesValue chart.lows index
      priceClose := some close
      volume := seriesValue chart.volumes index
      source := "yahoo"
      interval := "1d"
      currencyCode := upper chart.quoted
      venue := upper (afterLastPoint symbol)
      quoted := chart.quoted }

/-- `_fetch_yahoo_history`, from the chart of a symbol: the last bars up to the limit. -/
def fetchYahooHistory (upper : String → String) (securityId : Uuid) (symbol : String)
    (limit : Nat) (chart : Chart) : List PriceObservation :=
  let observations := chart.timestamps.zipIdx.filterMap fun entry =>
    readBar upper securityId symbol chart entry.1 entry.2
  -- `observations[-0:]` are all of them.
  if limit = 0 then observations else observations.drop (observations.length - limit)

/-! ## The store -/

/-- The stored prices, and every observation that was fetched for them. -/
structure PriceStore where
  rows : List PriceObservation := []
  fetched : List PriceObservation := []

namespace PriceStore

/-- `store_prices` on one observation. -/
def storePrice (store : PriceStore) (observation : PriceObservation) : PriceStore where
  rows :=
    if observation.key ∈ store.rows.map PriceObservation.key then store.rows
    else store.rows ++ [observation]
  fetched := store.fetched ++ [observation]

def storePrices (store : PriceStore) (observations : List PriceObservation) : PriceStore :=
  runAll storePrice store observations

def getPriceHistory (store : PriceStore) (securityId : Uuid) (interval : String)
    (start «end» : Option Instant) (limit : Nat) : List PriceObservation :=
  let rows := store.rows.filter fun row =>
    row.securityId = securityId ∧ row.interval = interval ∧
      (∀ first ∈ start, first ≤ row.timestamp) ∧ ∀ last ∈ «end», row.timestamp ≤ last
  (rows.insertionSort fun row other => other.timestamp ≤ row.timestamp).take limit

end PriceStore

/-- A call of `get_historical_prices` that falls back to Yahoo: its arguments, its time and
what the provider answers, a symbol for the identifier and a chart. -/
structure PriceCall where
  securityId : Uuid
  interval : String := "1d"
  start : Option Instant := none
  «end» : Option Instant := none
  limit : Nat := 100
  now : Instant
  symbol : Option String
  chart : Option Chart

/-- The observations that a call stores: none where the history is fresh and long enough, or
where the provider does not answer. -/
def observationsOf (upper : String → String) (ttl : Int) (store : PriceStore) (call : PriceCall) :
    List PriceObservation :=
  let history := store.getPriceHistory call.securityId call.interval call.start call.end call.limit
  let isStale : Bool := match history.head? with
    | none => true
    | some latest => ttl < call.end.getD call.now - latest.timestamp
  if history ≠ [] ∧ isStale = false ∧ call.limit ≤ history.length then []
  else if call.interval ≠ "1d" then []
  else
    match call.symbol, call.chart with
    | some symbol, some chart => fetchYahooHistory upper call.securityId symbol call.limit chart
    | _, _ => []

/-- `get_historical_prices` -/
def getHistoricalPrices (upper : String → String) (ttl : Int) (store : PriceStore)
    (call : PriceCall) : PriceStore :=
  store.storePrices (observationsOf upper ttl store call)

/-! ## What the source said -/

/-- What a code stands for: so many units of a currency.  The pence of a pound are a
hundredth. -/
structure PriceUnit where
  currency : String
  factor : ℚ
deriving DecidableEq

/-- An amount of money. -/
def PriceUnit.amount (unit : PriceUnit) (price : ℚ) : String × ℚ :=
  (unit.currency, price * unit.factor)

section Meaning

variable (unit : String → PriceUnit) (tradingDay : Uuid → Instant → Int)

/-- Daily prices of a security and source for one trading day. -/
def SameDay (row other : PriceObservation) : Prop :=
  row.interval = "1d" ∧ other.interval = "1d" ∧ row.securityId = other.securityId ∧
    row.source = other.source ∧
    tradingDay row.securityId row.timestamp = tradingDay other.securityId other.timestamp

instance (row other : PriceObservation) : Decidable (SameDay tradingDay row other) :=
  inferInstanceAs (Decidable (_ ∧ _ ∧ _ ∧ _ ∧ _))

/-- The stored prices are the amounts that were quoted, no two units share a code, and of
each trading day there is one price, the one that was fetched last. -/
structure Faithful (store : PriceStore) : Prop where
  money : ∀ row ∈ store.rows, ∀ price ∈ row.prices,
    (unit row.currencyCode).amount price = (unit row.quoted).amount price
  codes : ∀ row ∈ store.rows, ∀ other ∈ store.rows, row.currencyCode = other.currencyCode →
    unit row.quoted = unit other.quoted
  daily : store.rows.Pairwise fun row other => ¬ SameDay tradingDay row other
  latest : ∀ row ∈ store.rows, row.interval = "1d" →
    (store.fetched.filter fun other => SameDay tradingDay row other).getLast? = some row

/-- The code stands for the unit that is quoted, or the prices are zero. -/
def KeepsUnit (observation : PriceObservation) : Prop :=
  ∀ price ∈ observation.prices,
    unit observation.currencyCode = unit observation.quoted ∨
      (unit observation.currencyCode).currency = (unit observation.quoted).currency ∧ price = 0

/-- An observation is stored as it is, or it is the first of its day, its code keeps the unit
and stands for no other unit yet. -/
def Keeps (store : PriceStore) (observation : PriceObservation) : Prop :=
  observation ∈ store.rows ∨
    (∀ row ∈ store.rows, ¬ SameDay tradingDay row observation) ∧ KeepsUnit unit observation ∧
      ∀ row ∈ store.rows, row.currencyCode = observation.currencyCode →
        unit row.quoted = unit observation.quoted

variable {unit : String → PriceUnit} {tradingDay : Uuid → Instant → Int}
  {row observation : PriceObservation} {store : PriceStore}

theorem sameDay_of_key (daily : observation.interval = "1d") (same : row.key = observation.key) :
    SameDay tradingDay row observation := by
  simp only [PriceObservation.key, Prod.mk.injEq] at same
  obtain ⟨security, time, source, interval⟩ := same
  exact ⟨interval.trans daily, daily, security, source, by rw [security, time]⟩

theorem sameDay_self (daily : observation.interval = "1d") :
    SameDay tradingDay observation observation := sameDay_of_key daily rfl

theorem SameDay.symm (same : SameDay tradingDay row observation) :
    SameDay tradingDay observation row :=
  ⟨same.2.1, same.1, same.2.2.1.symm, same.2.2.2.1.symm, same.2.2.2.2.symm⟩

instance : Std.Symm fun row other => ¬ SameDay tradingDay row other where
  symm _ _ apart same := apart same.symm

/-- Two units give a price the same amount if they are one, or if the price is zero. -/
theorem amount_eq_iff (unit other : PriceUnit) (price : ℚ) :
    unit.amount price = other.amount price ↔
      unit = other ∨ unit.currency = other.currency ∧ price = 0 := by
  cases unit with
  | mk currency factor =>
  cases other with
  | mk otherCurrency otherFactor =>
  simp only [PriceUnit.amount, Prod.mk.injEq, mul_eq_mul_left_iff, PriceUnit.mk.injEq]
  tauto

/-- The last that was fetched for the day of a row, after one more was fetched. -/
theorem getLast?_fetched (fetched : List PriceObservation) :
    ((fetched ++ [observation]).filter fun other => SameDay tradingDay row other).getLast? =
      if SameDay tradingDay row observation then some observation
      else (fetched.filter fun other => SameDay tradingDay row other).getLast? := by
  by_cases same : SameDay tradingDay row observation
  · simp [List.filter_append, same]
  · simp [List.filter_append, same]

/-- A time that is stored stays as it is. -/
theorem faithful_stored_iff (faithful : Faithful unit tradingDay store)
    (daily : observation.interval = "1d")
    (stored : observation.key ∈ store.rows.map PriceObservation.key) :
    Faithful unit tradingDay (store.storePrice observation) ↔ observation ∈ store.rows := by
  have rows : (store.storePrice observation).rows = store.rows := if_pos stored
  constructor
  · intro next
    obtain ⟨row, rowStored, key⟩ := List.mem_map.mp stored
    have same : SameDay tradingDay row observation := sameDay_of_key daily key
    have last := next.latest row (by rwa [rows]) same.1
    rw [PriceStore.storePrice, getLast?_fetched, if_pos same, Option.some_inj] at last
    rwa [last]
  · intro member
    refine ⟨?_, ?_, ?_, ?_⟩
    · rw [rows]; exact faithful.money
    · rw [rows]; exact faithful.codes
    · rw [rows]; exact faithful.daily
    · intro row rowStored rowDaily
      rw [rows] at rowStored
      rw [PriceStore.storePrice, getLast?_fetched]
      split
      · next same =>
          by_cases equal : row = observation
          · rw [equal]
          · have differ : ¬ SameDay tradingDay row observation :=
              faithful.daily.forall rowStored member equal
            exact absurd same differ
      · exact faithful.latest row rowStored rowDaily

/-- A new time becomes a row. -/
theorem faithful_new_iff (faithful : Faithful unit tradingDay store)
    (daily : observation.interval = "1d")
    (new : observation.key ∉ store.rows.map PriceObservation.key) :
    Faithful unit tradingDay (store.storePrice observation) ↔
      (∀ row ∈ store.rows, ¬ SameDay tradingDay row observation) ∧ KeepsUnit unit observation ∧
        ∀ row ∈ store.rows, row.currencyCode = observation.currencyCode →
          unit row.quoted = unit observation.quoted := by
  have rows : (store.storePrice observation).rows = store.rows ++ [observation] := if_neg new
  have here : observation ∈ (store.storePrice observation).rows := by simp [rows]
  have before : ∀ row ∈ store.rows, row ∈ (store.storePrice observation).rows := by
    intro row stored
    simp [rows, stored]
  constructor
  · intro next
    refine ⟨?_, ?_, ?_⟩
    · have apart := next.daily
      rw [rows, List.pairwise_append] at apart
      intro row stored
      exact apart.2.2 row stored observation (List.mem_singleton_self _)
    · intro price member
      exact (amount_eq_iff _ _ price).mp (next.money observation here price member)
    · intro row stored sameCode
      exact next.codes row (before row stored) observation here sameCode
  · rintro ⟨apart, keepsUnit, codes⟩
    refine ⟨?_, ?_, ?_, ?_⟩
    · rw [rows, List.forall_mem_append, List.forall_mem_singleton]
      refine ⟨faithful.money, ?_⟩
      intro price member
      exact (amount_eq_iff _ _ price).mpr (keepsUnit price member)
    · simp only [rows, List.forall_mem_append, List.forall_mem_singleton]
      refine ⟨fun row stored => ⟨faithful.codes row stored, codes row stored⟩, ?_, fun _ => trivial⟩
      intro row stored sameCode
      exact (codes row stored sameCode.symm).symm
    · rw [rows, List.pairwise_append]
      refine ⟨faithful.daily, List.pairwise_singleton _ _, ?_⟩
      intro row stored other otherMember
      rw [List.mem_singleton.mp otherMember]
      exact apart row stored
    · intro row member rowDaily
      rw [PriceStore.storePrice, getLast?_fetched]
      rw [rows, List.mem_append, List.mem_singleton] at member
      cases member with
      | inl stored => rw [if_neg (apart row stored), faithful.latest row stored rowDaily]
      | inr equal => rw [equal, if_pos (sameDay_self daily)]

/-- The prices stay faithful exactly if the observation keeps them so. -/
theorem faithful_storePrice_iff (faithful : Faithful unit tradingDay store)
    (daily : observation.interval = "1d") :
    Faithful unit tradingDay (store.storePrice observation) ↔
      Keeps unit tradingDay store observation := by
  by_cases stored : observation.key ∈ store.rows.map PriceObservation.key
  · obtain ⟨row, rowStored, key⟩ := List.mem_map.mp stored
    have taken : ¬ ∀ row ∈ store.rows, ¬ SameDay tradingDay row observation :=
      fun apart => apart row rowStored (sameDay_of_key daily key)
    rw [faithful_stored_iff faithful daily stored, Keeps, or_iff_left (fun free => taken free.1)]
  · have absent : observation ∉ store.rows := fun member =>
      stored (List.mem_map_of_mem member)
    rw [faithful_new_iff faithful daily stored, Keeps, or_iff_right absent]

end Meaning

/-! ## Runs of calls -/

section Runs

variable (upper : String → String) (ttl : Int)

/-- The observations that calls store one after another. -/
def storesOf : PriceStore → List PriceCall → List PriceObservation
  | _, [] => []
  | store, call :: calls =>
      observationsOf upper ttl store call ++
        storesOf (getHistoricalPrices upper ttl store call) calls

theorem storesOf_append (calls later : List PriceCall) :
    ∀ store, storesOf upper ttl store (calls ++ later) = storesOf upper ttl store calls ++
      storesOf upper ttl (runAll (getHistoricalPrices upper ttl) store calls) later := by
  induction calls with
  | nil => intro store; rfl
  | cons call calls ih =>
      intro store
      rw [List.cons_append, storesOf, storesOf, ih, List.append_assoc,
        runAll_cons]

theorem runAll_getHistoricalPrices (calls : List PriceCall) :
    ∀ store, runAll (getHistoricalPrices upper ttl) store calls =
      store.storePrices (storesOf upper ttl store calls) := by
  induction calls with
  | nil => intro store; rfl
  | cons call calls ih =>
      intro store
      rw [runAll_cons, ih, storesOf, PriceStore.storePrices,
        PriceStore.storePrices, runAll_append]
      rfl

theorem daily_of_readBar {securityId : Uuid} {symbol : String} {chart : Chart} {timestamp : Int}
    {index : Nat} {observation : PriceObservation}
    (read : readBar upper securityId symbol chart timestamp index = some observation) :
    observation.interval = "1d" := by
  obtain ⟨close, -, rfl⟩ := Option.map_eq_some_iff.mp read
  rfl

/-- Yahoo's prices are daily. -/
theorem daily_of_fetch {securityId : Uuid} {symbol : String} {limit : Nat} {chart : Chart}
    {observation : PriceObservation}
    (member : observation ∈ fetchYahooHistory upper securityId symbol limit chart) :
    observation.interval = "1d" := by
  have isBar : observation ∈ chart.timestamps.zipIdx.filterMap fun entry =>
      readBar upper securityId symbol chart entry.1 entry.2 := by
    simp only [fetchYahooHistory] at member
    split at member
    · exact member
    · exact List.mem_of_mem_drop member
  obtain ⟨entry, -, read⟩ := List.mem_filterMap.mp isBar
  exact daily_of_readBar upper read

theorem daily_of_observationsOf {store : PriceStore} {call : PriceCall}
    {observation : PriceObservation} (member : observation ∈ observationsOf upper ttl store call) :
    observation.interval = "1d" := by
  simp only [observationsOf] at member
  split_ifs at member
  · exact absurd member List.not_mem_nil
  · exact absurd member List.not_mem_nil
  · cases symbol : call.symbol with
    | none => simp [symbol] at member
    | some symbolText =>
        cases chart : call.chart with
        | none => simp [symbol, chart] at member
        | some chartRead =>
            simp only [symbol, chart] at member
            exact daily_of_fetch upper member

theorem daily_of_storesOf (calls : List PriceCall) :
    ∀ store, ∀ observation ∈ storesOf upper ttl store calls, observation.interval = "1d" := by
  induction calls with
  | nil => intro store observation member; cases member
  | cons call calls ih =>
      intro store observation member
      rw [storesOf, List.mem_append] at member
      cases member with
      | inr later => exact ih _ observation later
      | inl here => exact daily_of_observationsOf upper ttl here

variable (unit : String → PriceUnit) (tradingDay : Uuid → Instant → Int)

theorem faithful_empty : Faithful unit tradingDay {} where
  money := by simp
  codes := by simp
  daily := List.Pairwise.nil
  latest := by simp

/-- Over the calls of `get_historical_prices` the stored prices mean what the source said after
every observation exactly if each is stored as it is, or is the first of its day with a code
that keeps its unit; and then they do so after every call. -/
theorem daily_history_iff (calls : List PriceCall) :
    ((∀ before after, storesOf upper ttl {} calls = before ++ after →
          Faithful unit tradingDay (PriceStore.storePrices {} before)) ↔
        Along PriceStore.storePrice (Keeps unit tradingDay) {} (storesOf upper ttl {} calls)) ∧
      (Along PriceStore.storePrice (Keeps unit tradingDay) {} (storesOf upper ttl {} calls) →
        ∀ before after, calls = before ++ after →
          Faithful unit tradingDay (runAll (getHistoricalPrices upper ttl) {} before)) := by
  have allDaily : Along PriceStore.storePrice (fun _ observation => observation.interval = "1d") {}
      (storesOf upper ttl {} calls) :=
    along_of_forall _ (daily_of_storesOf upper ttl calls {})
  have reached : (∀ before after, storesOf upper ttl {} calls = before ++ after →
        Faithful unit tradingDay (PriceStore.storePrices {} before)) ↔
      Along PriceStore.storePrice (Keeps unit tradingDay) {} (storesOf upper ttl {} calls) := by
    have preserved : ∀ (store : PriceStore) (observation : PriceObservation), True →
        observation.interval = "1d" → Faithful unit tradingDay store →
        Keeps unit tradingDay store observation → True := fun _ _ _ _ _ _ => trivial
    have keeps : ∀ store observation, True → observation.interval = "1d" →
        Faithful unit tradingDay store →
        (Faithful unit tradingDay (store.storePrice observation) ↔
          Keeps unit tradingDay store observation) :=
      fun _ _ _ daily faithful => faithful_storePrice_iff faithful daily
    exact reached_iff_along preserved keeps _ trivial allDaily (faithful_empty unit tradingDay)
  refine ⟨reached, ?_⟩
  intro keeps before after split
  rw [runAll_getHistoricalPrices]
  apply reached.mpr keeps _ (storesOf upper ttl
    (runAll (getHistoricalPrices upper ttl) {} before) after)
  rw [split, storesOf_append]

end Runs

/-! ## Pence and an unfinished bar -/

/-- Yahoo's `GBp` are the pence of a pound. -/
def yahooUnit (code : String) : PriceUnit :=
  if code = "GBp" then ⟨"GBP", 1 / 100⟩ else ⟨code, 1⟩

/-- Upper case, for letters without an accent. -/
def upperLetters (text : String) : String := String.ofList (text.toList.map Char.toUpper)

/-- A call for a share of London, at a time in seconds. -/
def callAt (currency : String) (time : Int) (close : ℚ) : PriceCall where
  securityId := 1
  now := time * 1000000
  symbol := some "BARC.L"
  chart := some { currency := some currency, timestamps := [time], closes := [some close] }

/-- 250 pence are stored as 250 pounds, and two fetches of the bar of one day, at nine and at
ten o'clock, are two prices of that day. -/
theorem pence_and_unfinished_bar :
    ¬ (∀ calls, Faithful yahooUnit (fun _ time => time / 86400000000)
        (runAll (getHistoricalPrices upperLetters 3600000000) {} calls)) ∧
      ¬ Faithful yahooUnit (fun _ time => time / 86400000000)
        (runAll (getHistoricalPrices upperLetters 3600000000) {}
          [callAt "EUR" 32400 11, callAt "EUR" 36000 12]) := by
  constructor
  · intro faithful
    have money := (faithful [callAt "GBp" 32400 250]).money
    revert money
    decide +kernel
  · intro faithful
    have daily := faithful.daily
    revert daily
    decide +kernel

end FinanceSync.Prices
