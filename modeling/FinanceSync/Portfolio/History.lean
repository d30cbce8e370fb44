import FinanceSync.Portfolio.Snapshots
import FinanceSync.Visibility.Reads
import Mathlib.Tactic.Ring

/-!
# Portfolio and net-worth history

Two series of daily totals over snapshots.  Each entry should count a position
or an account once and in one currency.  The service adds up every snapshot of
the day, so the entries are right exactly if what they count too often, or a
second currency, adds nothing.
-/

namespace FinanceSync.Portfolio

open Lib Visibility

/-! ## The balance series -/

/-- The balances of the tenant on visible accounts. -/
def visibleBalances (db : Database) (scope : ReadScope) (balances : List Balance) :
    List Balance :=
  balances.filter fun balance =>
    balance.tenantId = scope.tenantId && balance.accountId ∈ db.visibleAccountIds scope

structure NetWorthHistoryEntry where
  date : Int
  netWorth : ℚ
  totalAssets : ℚ
  totalLiabilities : ℚ

structure NetWorthHistoryResponse where
  items : List NetWorthHistoryEntry
  total : Nat

/-- The balances that the series sums. -/
def countedBalances (db : Database) (scope : ReadScope) (balances : List Balance)
    (query : Database.HistoryQuery) : List Balance :=
  (visibleBalances db scope balances).filter fun balance =>
    balance.balanceKind ∈ [BalanceKind.booked, .available] ∧
      isWithin query.dateFrom query.dateTo balance.observedAt

/-- Net worth time series using balance snapshots. -/
def getNetWorthHistory (db : Database) (scope : ReadScope) (balances : List Balance)
    (query : Database.HistoryQuery) : NetWorthHistoryResponse :=
  let balances := countedBalances db scope balances query
  let days := daysOf (balances.map Balance.observedAt)
  { items := (page query.limit query.offset days).map fun date =>
      let netAmount := ((balances.filter fun balance =>
        Instant.date balance.observedAt = date).map Balance.amount).sum
      { date
        netWorth := netAmount
        totalAssets := if 0 ≤ netAmount then netAmount else 0
        totalLiabilities := if netAmount < 0 then |netAmount| else 0 }
    total := days.length }

/-! ## Daily totals -/

section DayTotals

variable {Row : Type} (moment : Row → Instant) (amount : Row → ℚ)

/-- The rows of one day. -/
def ofDay (date : Int) (rows : List Row) : List Row :=
  rows.filter fun row => Instant.date (moment row) = date

/-- The days a page of the series shows. -/
def shownDays (query : Database.HistoryQuery) (rows : List Row) : List Int :=
  page query.limit query.offset (daysOf (rows.map moment))

/-- A further row of a day that has rows adds no day. -/
theorem daysOf_append {rows : List Row} {earlier again : Row} (stored : earlier ∈ rows)
    (sameDay : Instant.date (moment earlier) = Instant.date (moment again)) :
    daysOf ((rows ++ [again]).map moment) = daysOf (rows.map moment) := by
  have known : Instant.date (moment again) ∈ (rows.map moment).map Instant.date := by
    rw [← sameDay]
    exact List.mem_map_of_mem (List.mem_map_of_mem stored)
  have nothingNew : [Instant.date (moment again)].removeAll
      ((rows.map moment).map Instant.date) = [] := by
    simpa [List.removeAll] using known
  simp only [daysOf, List.map_append, List.map_cons, List.map_nil, List.eraseDups_append,
    nothingNew, List.eraseDups_nil, List.append_nil]

/-- It adds its amount to the total of its day. -/
theorem sum_ofDay_append (date : Int) (rows : List Row) (again : Row) :
    ((ofDay moment date (rows ++ [again])).map amount).sum =
      ((ofDay moment date rows).map amount).sum +
        if Instant.date (moment again) = date then amount again else 0 := by
  by_cases sameDay : Instant.date (moment again) = date <;> simp [ofDay, sameDay]

/-- The shown totals stay exactly if the further row adds nothing or its day is
not shown. -/
theorem totals_append_iff (query : Database.HistoryQuery) (rows : List Row) (again : Row) :
    (∀ date ∈ shownDays moment query rows,
        ((ofDay moment date (rows ++ [again])).map amount).sum =
          ((ofDay moment date rows).map amount).sum) ↔
      (Instant.date (moment again) ∈ shownDays moment query rows → amount again = 0) := by
  simp only [sum_ofDay_append, add_eq_left]
  constructor
  · intro same shown
    simpa using same _ shown
  · intro nothing date shown
    split
    · rename_i sameDay
      exact nothing (sameDay ▸ shown)
    · rfl

end DayTotals

/-! ## What the numbers should be -/

/-- What a snapshot adds to the portfolio series. -/
def worth (holding : Visibility.Holding) : ℚ := holding.marketValue.getD 0

/-- The snapshots that the portfolio series sums. -/
def countedHoldings (db : Database) (scope : ReadScope) (query : Database.HistoryQuery) :
    List Visibility.Holding :=
  (db.visibleHoldings scope).filter fun holding =>
    isWithin query.dateFrom query.dateTo holding.observedAt

/-- The position of a stored snapshot. -/
def positionOf (stored : Visibility.Holding × Nat) : Uuid × Uuid :=
  (stored.1.accountId, stored.1.securityId)

/-- Of two snapshots of one moment the one stored later is the later one. -/
def momentOf (stored : Visibility.Holding × Nat) : Instant ×ₗ Nat :=
  toLex (stored.1.observedAt, stored.2)

/-- The value of each position's last snapshot. -/
def lastValues (rows : List Visibility.Holding) : ℚ :=
  ((latest positionOf momentOf rows.zipIdx).map fun stored => worth stored.1).sum

/-- What the earlier snapshots of the positions add. -/
def supersededValues (rows : List Visibility.Holding) : ℚ :=
  ((superseded positionOf momentOf rows.zipIdx).map fun stored => worth stored.1).sum

/-- A choice of one balance for each account, and the balances that are left. -/
structure OnePerAccount (rows chosen rest : List Balance) : Prop where
  parts : (chosen ++ rest).Perm rows
  distinct : (chosen.map Balance.accountId).Nodup
  covers : ∀ row ∈ rows, row.accountId ∈ chosen.map Balance.accountId

/-- All amounts that are not zero are in one currency. -/
def OneCurrency (amounts : List (String × ℚ)) : Prop :=
  ∀ first ∈ amounts, ∀ second ∈ amounts, first.2 ≠ 0 → second.2 ≠ 0 → first.1 = second.1

instance (amounts : List (String × ℚ)) : Decidable (OneCurrency amounts) :=
  inferInstanceAs (Decidable (∀ first ∈ amounts, _))

/-- The balances that `get_net_worth` adds up, with their currencies. -/
def netWorthAmounts (db : Database) (scope : ReadScope) : List (String × ℚ) :=
  ((db.visibleAccounts scope).filter Account.isActive).filterMap fun account =>
    (account.netAssetValue.or account.currentBalance).map (account.currencyCode, ·)

/-! ## The numbers as sums -/

section Sums

variable (db : Database) (scope : ReadScope) (query : Database.HistoryQuery)

theorem sum_worth (rows : List Visibility.Holding) :
    (rows.filterMap Visibility.Holding.marketValue).sum = (rows.map worth).sum := by
  induction rows with
  | nil => rfl
  | cons row rest ih =>
      cases valued : row.marketValue <;> simp [worth, valued, ih]

/-- The service adds the superseded snapshots to the last ones. -/
theorem sum_worth_eq (rows : List Visibility.Holding) :
    (rows.map worth).sum = lastValues rows + supersededValues rows := by
  have parts := sum_eq_latest_add_superseded (fun stored : Visibility.Holding × Nat =>
    worth stored.1) positionOf momentOf rows.zipIdx
  have rowsAgain : rows.zipIdx.map (fun stored => worth stored.1) = rows.map worth := by
    rw [← List.zipIdx_map_fst 0 rows, List.map_map, List.zipIdx_map_fst]
    rfl
  rw [← rowsAgain]
  exact parts

/-- An entry of the portfolio series. -/
def portfolioEntry (rows : List Visibility.Holding) (date : Int) :
    Database.PortfolioHistoryEntry where
  date
  totalValue := ((ofDay Visibility.Holding.observedAt date rows).map worth).sum

/-- An entry of the net-worth series. -/
def netWorthEntry (rows : List Balance) (date : Int) : NetWorthHistoryEntry :=
  let netAmount := ((ofDay Balance.observedAt date rows).map Balance.amount).sum
  { date
    netWorth := netAmount
    totalAssets := if 0 ≤ netAmount then netAmount else 0
    totalLiabilities := if netAmount < 0 then |netAmount| else 0 }

theorem getPortfolioHistory_eq : db.getPortfolioHistory scope query =
    { items := (shownDays Visibility.Holding.observedAt query
        (countedHoldings db scope query)).map
          (portfolioEntry (countedHoldings db scope query))
      total := (daysOf ((countedHoldings db scope query).map
        Visibility.Holding.observedAt)).length } := by
  have sameEntry : ∀ date, portfolioEntry (countedHoldings db scope query) date =
      { date
        totalValue := ((ofDay Visibility.Holding.observedAt date
          (countedHoldings db scope query)).filterMap Visibility.Holding.marketValue).sum } :=
    fun date => by rw [portfolioEntry, sum_worth]
  rw [funext sameEntry]
  rfl

theorem getNetWorthHistory_eq (balances : List Balance) :
    getNetWorthHistory db scope balances query =
      { items := (shownDays Balance.observedAt query
          (countedBalances db scope balances query)).map
            (netWorthEntry (countedBalances db scope balances query))
        total := (daysOf ((countedBalances db scope balances query).map
          Balance.observedAt)).length } := rfl

/-- `get_net_worth` adds up what `netWorthAmounts` lists. -/
theorem netWorth_eq_sum :
    (db.getNetWorth scope).netWorth = ((netWorthAmounts db scope).map Prod.snd).sum := by
  simp only [Database.getNetWorth, netWorthAmounts, List.map_filterMap]
  have signs : ∀ balances : List ℚ, (balances.filter (0 ≤ ·)).sum -
      ((balances.filter (· < 0)).map (|·|)).sum = balances.sum := by
    intro balances
    induction balances with
    | nil => simp
    | cons balance rest ih =>
        rcases lt_or_ge balance 0 with negative | nonneg
        · simp only [List.filter_cons, not_le.mpr negative, negative, decide_true, decide_false,
            if_true, Bool.false_eq_true, if_false, List.map_cons, List.sum_cons,
            abs_of_neg negative, ← ih]
          ring
        · simp only [List.filter_cons, not_lt.mpr nonneg, nonneg, decide_true, decide_false,
            if_true, Bool.false_eq_true, if_false, List.sum_cons, ← ih]
          ring
  rw [signs]
  congr 1
  refine List.filterMap_congr fun account _ => ?_
  cases account.netAssetValue.or account.currentBalance <;> rfl

end Sums

/-! ## The series and its rows -/

/-- A snapshot that repeats an earlier one of the same day that the series sums. -/
structure RepeatsHolding (db : Database) (scope : ReadScope) (query : Database.HistoryQuery)
    (earlier again : Visibility.Holding) : Prop where
  counted : earlier ∈ countedHoldings db scope query
  position : earlier.tenantId = again.tenantId ∧ earlier.accountId = again.accountId ∧
    earlier.securityId = again.securityId
  sameContent : earlier.quantity = again.quantity ∧ earlier.marketValue = again.marketValue ∧
    earlier.currencyCode = again.currencyCode
  later : earlier.observedAt < again.observedAt
  sameDay : Instant.date earlier.observedAt = Instant.date again.observedAt

/-- A balance that repeats an earlier one of the same day that the series sums. -/
structure RepeatsBalance (db : Database) (scope : ReadScope) (balances : List Balance)
    (query : Database.HistoryQuery) (earlier again : Balance) : Prop where
  counted : earlier ∈ countedBalances db scope balances query
  account : earlier.tenantId = again.tenantId ∧ earlier.accountId = again.accountId
  sameContent : earlier.balanceKind = again.balanceKind ∧ earlier.amount = again.amount ∧
    earlier.currencyCode = again.currencyCode
  later : earlier.observedAt < again.observedAt
  sameDay : Instant.date earlier.observedAt = Instant.date again.observedAt

/-- The database with one more snapshot. -/
def withHolding (db : Database) (again : Visibility.Holding) : Database :=
  { db with holdings := db.holdings ++ [again] }

section Resync

variable {db : Database} {scope : ReadScope} {query : Database.HistoryQuery}
  {balances : List Balance}

/-- The repeated snapshot is summed as well unless it is outside the bounds. -/
theorem countedHoldings_withHolding {earlier again : Visibility.Holding}
    (repeats : RepeatsHolding db scope query earlier again) :
    countedHoldings (withHolding db again) scope query =
      countedHoldings db scope query ++
        if isWithin query.dateFrom query.dateTo again.observedAt then [again] else [] := by
  obtain ⟨visible, -⟩ := List.mem_filter.mp repeats.counted
  have seen := (List.mem_filter.mp visible).2
  rw [repeats.position.1, repeats.position.2.1] at seen
  have visibleAgain : (withHolding db again).visibleHoldings scope =
      db.visibleHoldings scope ++ [again] := by
    change (db.holdings ++ [again]).filter _ = _
    rw [List.filter_append, List.filter_singleton]
    exact congrArg _ (by simp only [withHolding]; exact seen ▸ rfl)
  rw [countedHoldings, visibleAgain, List.filter_append, List.filter_singleton]
  cases isWithin query.dateFrom query.dateTo again.observedAt <;> rfl

theorem countedBalances_append {earlier again : Balance}
    (repeats : RepeatsBalance db scope balances query earlier again) :
    countedBalances db scope (balances ++ [again]) query =
      countedBalances db scope balances query ++
        if isWithin query.dateFrom query.dateTo again.observedAt then [again] else [] := by
  obtain ⟨visible, kind⟩ := List.mem_filter.mp repeats.counted
  have seen := (List.mem_filter.mp visible).2
  have kindAgain := (of_decide_eq_true kind).1
  rw [repeats.account.1, repeats.account.2] at seen
  rw [repeats.sameContent.1] at kindAgain
  have visibleAgain : visibleBalances db scope (balances ++ [again]) =
      visibleBalances db scope balances ++ [again] := by
    rw [visibleBalances, List.filter_append, List.filter_singleton, seen]
    rfl
  rw [countedBalances, visibleAgain, List.filter_append, List.filter_singleton]
  cases isWithin query.dateFrom query.dateTo again.observedAt <;>
    simp [countedBalances, kindAgain]

/-- The portfolio series does not change exactly if the repeated snapshot adds
nothing to a day that is shown. -/
theorem getPortfolioHistory_withHolding_iff {earlier again : Visibility.Holding}
    (repeats : RepeatsHolding db scope query earlier again) :
    (withHolding db again).getPortfolioHistory scope query =
        db.getPortfolioHistory scope query ↔
      (isWithin query.dateFrom query.dateTo again.observedAt →
        Instant.date again.observedAt ∈ shownDays Visibility.Holding.observedAt query
          (countedHoldings db scope query) →
        worth again = 0) := by
  have extended := countedHoldings_withHolding repeats
  rw [getPortfolioHistory_eq, getPortfolioHistory_eq]
  cases within : isWithin query.dateFrom query.dateTo again.observedAt with
  | false =>
      simp only [within, Bool.false_eq_true, if_false, List.append_nil] at extended
      simp [extended]
  | true =>
      simp only [within, if_true] at extended
      have sameDays := daysOf_append Visibility.Holding.observedAt repeats.counted
        repeats.sameDay
      rw [extended, shownDays, sameDays, ← shownDays, forall_prop_of_true rfl,
        ← totals_append_iff Visibility.Holding.observedAt worth query]
      simp [portfolioEntry]

/-- The net-worth series does not change exactly if the repeated balance adds
nothing to a day that is shown. -/
theorem getNetWorthHistory_append_iff {earlier again : Balance}
    (repeats : RepeatsBalance db scope balances query earlier again) :
    getNetWorthHistory db scope (balances ++ [again]) query =
        getNetWorthHistory db scope balances query ↔
      (isWithin query.dateFrom query.dateTo again.observedAt →
        Instant.date again.observedAt ∈ shownDays Balance.observedAt query
          (countedBalances db scope balances query) →
        again.amount = 0) := by
  have extended := countedBalances_append repeats
  rw [getNetWorthHistory_eq, getNetWorthHistory_eq]
  cases within : isWithin query.dateFrom query.dateTo again.observedAt with
  | false =>
      simp only [within, Bool.false_eq_true, if_false, List.append_nil] at extended
      simp [extended]
  | true =>
      simp only [within, if_true] at extended
      have sameDays := daysOf_append Balance.observedAt repeats.counted repeats.sameDay
      rw [extended, shownDays, sameDays, ← shownDays, forall_prop_of_true rfl,
        ← totals_append_iff Balance.observedAt Balance.amount query]
      constructor
      · intro same date shown
        have entries := congrArg NetWorthHistoryResponse.items same
        have entry := List.map_inj_left.mp entries date shown
        exact congrArg NetWorthHistoryEntry.netWorth entry
      · intro same
        congr 1
        refine List.map_inj_left.mpr fun date shown => ?_
        simp only [netWorthEntry, same date shown]

end Resync

/-! ## Every position once and in one currency -/

/-- The currencies and values that an entry of the portfolio series adds up. -/
def valuesOfDay (db : Database) (scope : ReadScope) (query : Database.HistoryQuery)
    (date : Int) : List (String × ℚ) :=
  (ofDay Visibility.Holding.observedAt date (countedHoldings db scope query)).map
    fun holding => (holding.currencyCode, worth holding)

/-- The currencies and amounts that an entry of the net-worth series adds up. -/
def amountsOfDay (db : Database) (scope : ReadScope) (balances : List Balance)
    (query : Database.HistoryQuery) (date : Int) : List (String × ℚ) :=
  (ofDay Balance.observedAt date (countedBalances db scope balances query)).map
    fun balance => (balance.currencyCode, balance.amount)

/-- The series and the net worth count every position or account once and in one
currency, and the series do not notice snapshots that repeat earlier ones. -/
structure CountedOnce (db : Database) (scope : ReadScope) (balances : List Balance)
    (query : Database.HistoryQuery) (again : Visibility.Holding) (balanceAgain : Balance) :
    Prop where
  lastValues : ∀ entry ∈ (db.getPortfolioHistory scope query).items,
    entry.totalValue = lastValues
      (ofDay Visibility.Holding.observedAt entry.date (countedHoldings db scope query))
  oneBalance : ∀ entry ∈ (getNetWorthHistory db scope balances query).items,
    ∃ chosen rest, OnePerAccount
        (ofDay Balance.observedAt entry.date (countedBalances db scope balances query))
        chosen rest ∧
      entry.netWorth = (chosen.map Balance.amount).sum
  portfolioStays : (withHolding db again).getPortfolioHistory scope query =
    db.getPortfolioHistory scope query
  netWorthStays : getNetWorthHistory db scope (balances ++ [balanceAgain]) query =
    getNetWorthHistory db scope balances query
  portfolioCurrency : ∀ entry ∈ (db.getPortfolioHistory scope query).items,
    OneCurrency (valuesOfDay db scope query entry.date)
  netWorthCurrency : ∀ entry ∈ (getNetWorthHistory db scope balances query).items,
    OneCurrency (amountsOfDay db scope balances query entry.date)
  accountCurrency : OneCurrency (netWorthAmounts db scope)

/-- What is counted too often adds nothing, and no number sees two currencies. -/
structure NothingTwice (db : Database) (scope : ReadScope) (balances : List Balance)
    (query : Database.HistoryQuery) (again : Visibility.Holding) (balanceAgain : Balance) :
    Prop where
  superseded : ∀ date ∈ shownDays Visibility.Holding.observedAt query
      (countedHoldings db scope query),
    supersededValues
      (ofDay Visibility.Holding.observedAt date (countedHoldings db scope query)) = 0
  otherBalances : ∀ date ∈ shownDays Balance.observedAt query
      (countedBalances db scope balances query),
    ∃ chosen rest, OnePerAccount
        (ofDay Balance.observedAt date (countedBalances db scope balances query))
        chosen rest ∧
      (rest.map Balance.amount).sum = 0
  again : isWithin query.dateFrom query.dateTo again.observedAt →
    Instant.date again.observedAt ∈ shownDays Visibility.Holding.observedAt query
      (countedHoldings db scope query) →
    worth again = 0
  balanceAgain : isWithin query.dateFrom query.dateTo balanceAgain.observedAt →
    Instant.date balanceAgain.observedAt ∈ shownDays Balance.observedAt query
      (countedBalances db scope balances query) →
    balanceAgain.amount = 0
  currencyOfDay : ∀ date ∈ shownDays Visibility.Holding.observedAt query
      (countedHoldings db scope query),
    OneCurrency (valuesOfDay db scope query date)
  balanceCurrencyOfDay : ∀ date ∈ shownDays Balance.observedAt query
      (countedBalances db scope balances query),
    OneCurrency (amountsOfDay db scope balances query date)
  accountCurrency : OneCurrency (netWorthAmounts db scope)

section Entries

variable {db : Database} {scope : ReadScope} {query : Database.HistoryQuery}
  {balances : List Balance}

theorem forall_portfolioItems {property : Database.PortfolioHistoryEntry → Prop} :
    (∀ entry ∈ (db.getPortfolioHistory scope query).items, property entry) ↔
      ∀ date ∈ shownDays Visibility.Holding.observedAt query (countedHoldings db scope query),
        property (portfolioEntry (countedHoldings db scope query) date) := by
  rw [getPortfolioHistory_eq]
  simp

theorem forall_netWorthItems {property : NetWorthHistoryEntry → Prop} :
    (∀ entry ∈ (getNetWorthHistory db scope balances query).items, property entry) ↔
      ∀ date ∈ shownDays Balance.observedAt query (countedBalances db scope balances query),
        property (netWorthEntry (countedBalances db scope balances query) date) := by
  rw [getNetWorthHistory_eq]
  simp

/-- A day's total is the value of the last snapshots exactly if the superseded
ones add nothing. -/
theorem totalValue_eq_lastValues_iff (rows : List Visibility.Holding) (date : Int) :
    (portfolioEntry rows date).totalValue =
        lastValues (ofDay Visibility.Holding.observedAt date rows) ↔
      supersededValues (ofDay Visibility.Holding.observedAt date rows) = 0 := by
  change ((ofDay Visibility.Holding.observedAt date rows).map worth).sum = _ ↔ _
  rw [sum_worth_eq]
  exact add_eq_left

/-- A day's total is that of a choice of one balance per account exactly if the
others add nothing. -/
theorem netWorth_eq_chosen_iff {rows chosen rest : List Balance} {date : Int}
    (choice : OnePerAccount (ofDay Balance.observedAt date rows) chosen rest) :
    (netWorthEntry rows date).netWorth = (chosen.map Balance.amount).sum ↔
      (rest.map Balance.amount).sum = 0 := by
  change ((ofDay Balance.observedAt date rows).map Balance.amount).sum = _ ↔ _
  rw [← (choice.parts.map Balance.amount).sum_eq, List.map_append, List.sum_append]
  exact add_eq_left

theorem netWorth_chosen_iff (rows : List Balance) (date : Int) :
    (∃ chosen rest, OnePerAccount (ofDay Balance.observedAt date rows) chosen rest ∧
        (netWorthEntry rows date).netWorth = (chosen.map Balance.amount).sum) ↔
      ∃ chosen rest, OnePerAccount (ofDay Balance.observedAt date rows) chosen rest ∧
        (rest.map Balance.amount).sum = 0 :=
  exists₂_congr fun _ _ => and_congr_right netWorth_eq_chosen_iff

end Entries

/-! ## Two syncs of one day -/

/-- An account with one position and one snapshot of it. -/
def syncedDatabase : Database where
  accounts := Table.empty.insert
    { id := 0, tenantId := 1, providerKey := "broker", externalAccountId := "A", name := "A",
      accountType := "investment", currentBalance := some 100 } rfl
  transactions := .empty
  attached := fun _ => []
  holdings :=
    [{ tenantId := 1, accountId := 0, securityId := 1, observedAt := 0, quantity := 1,
       marketValue := some 100, currencyCode := "EUR" }]
  taxLots := fun _ => .empty
  securities := []
  prices := []
  credentials := []

def syncedBalances : List Balance :=
  [{ id := 1, tenantId := 1, accountId := 0, observedAt := 0, balanceKind := .booked,
     amount := 100, currencyCode := "EUR" }]

/-- The snapshots of a second sync an hour later. -/
def holdingAgain : Visibility.Holding :=
  { tenantId := 1, accountId := 0, securityId := 1, observedAt := 3600000000, quantity := 1,
    marketValue := some 100, currencyCode := "EUR" }

def bookedAgain : Balance :=
  { id := 2, tenantId := 1, accountId := 0, observedAt := 3600000000, balanceKind := .booked,
    amount := 100, currencyCode := "EUR" }

theorem syncedDatabase_repeats :
    (∃ earlier, RepeatsHolding syncedDatabase { tenantId := 1 } {} earlier holdingAgain) ∧
      ∃ earlier, RepeatsBalance syncedDatabase { tenantId := 1 } syncedBalances {} earlier
        bookedAgain := by
  refine ⟨⟨_, List.mem_filter.mpr ⟨List.mem_filter.mpr ⟨List.mem_cons_self, ?_⟩, rfl⟩,
    ⟨rfl, rfl, rfl⟩, ⟨rfl, rfl, rfl⟩, ?_, ?_⟩,
    ⟨_, List.mem_filter.mpr ⟨List.mem_filter.mpr ⟨List.mem_cons_self, ?_⟩, rfl⟩,
      ⟨rfl, rfl⟩, ⟨rfl, rfl, rfl⟩, ?_, ?_⟩⟩
  all_goals decide +kernel

end FinanceSync.Portfolio
