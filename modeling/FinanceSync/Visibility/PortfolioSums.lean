import FinanceSync.Visibility.Holdings

/-!
# What the portfolio adds up

The portfolio should count every position once, compare amounts of one currency and
add amounts of one currency.  Its arithmetic does not look at currencies, so it does
so exactly if the latest snapshots of the scope leave it no choice.
-/

namespace FinanceSync.Visibility.Database

open Lib

variable (db : Database) (scope : ReadScope)

/-! ## The amounts behind the figures -/

/-- An amount of money. -/
structure Amount where
  value : ℚ
  currency : String

/-- A currency column, where an amount without one is in the currency of its row. -/
def labelled (holding : Holding) (currency : Option String) : String :=
  (currency.filter (· ≠ "")).getD holding.currencyCode

/-- The currency of the price that the portfolio uses. -/
def usedPriceCurrency (holding : Holding) : String :=
  if (holding.price.filter (· ≠ 0)).isSome then labelled holding holding.priceCurrency
  else labelled holding ((db.latestDailyPrice holding.securityId).map SecurityPrice.currencyCode)

def valueCurrency (holding : Holding) : String :=
  if holding.marketValue.isSome then holding.currencyCode else db.usedPriceCurrency holding

def costCurrency (holding : Holding) : String := labelled holding holding.costBasisCurrency

/-- What a snapshot adds to the total values. -/
def valueAmount (holding : Holding) : Option Amount :=
  (db.holdingBreakdown holding).marketValue.map fun value => ⟨value, db.valueCurrency holding⟩

/-- What a snapshot adds to the total cost bases. -/
def costAmount (holding : Holding) : Option Amount :=
  (db.holdingBreakdown holding).costBasis.map fun value => ⟨value, costCurrency holding⟩

def InOneCurrency (amounts : List Amount) : Prop :=
  ∃ currency, ∀ amount ∈ amounts, amount.currency = currency

/-- The amounts that the breakdown of an account adds. -/
def accountAmounts (amountOf : Holding → Option Amount) (accountId : Uuid) : List Amount :=
  ((db.latestHoldings scope).filter fun holding => holding.accountId = accountId).filterMap amountOf

/-- The positions that the portfolio shows. -/
def PortfolioResponse.positions (portfolio : PortfolioResponse) : List (Uuid × Uuid) :=
  portfolio.accounts.flatMap fun account =>
    account.holdings.map fun breakdown => (account.accountId, breakdown.securityId)

/-- The totals are sums of amounts in one currency. -/
structure TotalsInOneCurrency (amountOf : Holding → Option Amount)
    (accountTotal : AccountPortfolioBreakdown → ℚ) (total : ℚ) : Prop where
  accounts : ∀ account ∈ (db.getPortfolio scope).accounts,
    InOneCurrency (db.accountAmounts scope amountOf account.accountId) ∧
      accountTotal account =
        ((db.accountAmounts scope amountOf account.accountId).map Amount.value).sum
  portfolio : InOneCurrency ((db.latestHoldings scope).filterMap amountOf) ∧
    total = (((db.latestHoldings scope).filterMap amountOf).map Amount.value).sum

/-- Every position counts once, and amounts are subtracted and added in one
currency. -/
structure AddsUp : Prop where
  once : ∀ position ∈ (db.visibleHoldings scope).map Holding.position,
    (db.getPortfolio scope).positions.count position = 1
  gains : ∀ holding ∈ db.latestHoldings scope,
    (db.holdingBreakdown holding).unrealisedPl.isSome →
      ∃ value ∈ db.valueAmount holding, ∃ cost ∈ db.costAmount holding,
        value.currency = cost.currency
  values : db.TotalsInOneCurrency scope db.valueAmount AccountPortfolioBreakdown.totalValue
    (db.getPortfolio scope).totalValue
  costs : db.TotalsInOneCurrency scope db.costAmount AccountPortfolioBreakdown.totalCostBasis
    (db.getPortfolio scope).totalCostBasis

/-! ## The condition -/

/-- A snapshot with a market value, a price of its own or a daily price. -/
def IsValued (holding : Holding) : Prop :=
  holding.marketValue.isSome ∨ (holding.price.filter (· ≠ 0)).isSome ∨
    ((db.latestDailyPrice holding.securityId).bind SecurityPrice.priceClose).isSome

/-- No position has two latest snapshots, as from two sources. -/
def OneSnapshotEach : Prop :=
  (db.visibleHoldings scope).Pairwise fun first second =>
    first.position = second.position →
      ¬ (IsLatest Holding.position Holding.observedAt (db.visibleHoldings scope) first ∧
        IsLatest Holding.position Holding.observedAt (db.visibleHoldings scope) second)

/-- The latest snapshots carry one currency: those that are valued, those with a cost
basis, and the two amounts of each that has both. -/
structure OneCurrency : Prop where
  values : ∀ first ∈ db.latestUntil scope none, ∀ second ∈ db.latestUntil scope none,
    db.IsValued first → db.IsValued second → db.valueCurrency first = db.valueCurrency second
  costs : ∀ first ∈ db.latestUntil scope none, ∀ second ∈ db.latestUntil scope none,
    first.costBasis.isSome → second.costBasis.isSome → costCurrency first = costCurrency second
  gains : ∀ holding ∈ db.latestUntil scope none, db.IsValued holding →
    holding.costBasis.isSome → db.valueCurrency holding = costCurrency holding

/-! ## Positions -/

section Positions

variable {db scope}

theorem positions_perm :
    (db.getPortfolio scope).positions.Perm ((db.latestUntil scope none).map Holding.position) :=
  flatMap_accounts_perm db scope fun accountId breakdown => (accountId, breakdown.securityId)

theorem oneSnapshotEach_iff :
    db.OneSnapshotEach scope ↔ ((db.latestUntil scope none).map Holding.position).Nodup := by
  rw [OneSnapshotEach, List.Nodup, List.pairwise_map, latestUntil, holdingsUntil_none, latest,
    List.pairwise_filter]
  apply List.Pairwise.iff
  intro first second
  simp only [decide_eq_true_iff]
  tauto

theorem once_iff :
    (∀ position ∈ (db.visibleHoldings scope).map Holding.position,
      (db.getPortfolio scope).positions.count position = 1) ↔ db.OneSnapshotEach scope := by
  have shown : ∀ position, position ∈ (db.visibleHoldings scope).map Holding.position ↔
      position ∈ (db.latestUntil scope none).map Holding.position := by
    intro position
    rw [position_mem_latestUntil, holdingsUntil_none]
  rw [oneSnapshotEach_iff, List.nodup_iff_count_le_one]
  constructor
  · intro once position
    rw [← positions_perm.count_eq]
    by_cases isMem : position ∈ (db.visibleHoldings scope).map Holding.position
    · exact (once position isMem).le
    · rw [List.count_eq_zero_of_not_mem]
      · exact Nat.zero_le 1
      · rwa [positions_perm.mem_iff, ← shown]
  · intro atMost position isMem
    have some := List.count_pos_iff.mpr ((shown position).mp isMem)
    have most := atMost position
    rw [positions_perm.count_eq]
    omega

end Positions

/-! ## Amounts -/

section Amounts

variable {db scope}

theorem valueAmount_isSome_iff (holding : Holding) :
    (db.valueAmount holding).isSome ↔ db.IsValued holding := by
  rw [valueAmount, Option.isSome_map, holdingBreakdown, IsValued]
  cases holding.marketValue <;> simp [Option.isSome_or]

variable (db) in
theorem costAmount_isSome_iff (holding : Holding) :
    (db.costAmount holding).isSome ↔ holding.costBasis.isSome := by
  rw [costAmount, Option.isSome_map, holdingBreakdown]

theorem currency_of_valueAmount {holding : Holding} {amount : Amount}
    (isAmount : db.valueAmount holding = some amount) :
    amount.currency = db.valueCurrency holding := by
  obtain ⟨value, -, rfl⟩ := Option.map_eq_some_iff.mp isAmount
  rfl

theorem currency_of_costAmount {holding : Holding} {amount : Amount}
    (isAmount : db.costAmount holding = some amount) : amount.currency = costCurrency holding := by
  obtain ⟨value, -, rfl⟩ := Option.map_eq_some_iff.mp isAmount
  rfl

theorem unrealisedPl_isSome_iff (holding : Holding) :
    (db.holdingBreakdown holding).unrealisedPl.isSome ↔
      db.IsValued holding ∧ holding.costBasis.isSome := by
  rw [← valueAmount_isSome_iff, valueAmount, Option.isSome_map, holdingBreakdown]
  cases holding.costBasis <;> simp

/-- Amounts are in one currency exactly if any two of them are. -/
theorem inOneCurrency_filterMap_iff {holdings : List Holding} {amountOf : Holding → Option Amount}
    {currencyOf : Holding → String}
    (currency : ∀ holding amount, amountOf holding = some amount →
      amount.currency = currencyOf holding) :
    InOneCurrency (holdings.filterMap amountOf) ↔
      ∀ first ∈ holdings, ∀ second ∈ holdings, (amountOf first).isSome →
        (amountOf second).isSome → currencyOf first = currencyOf second := by
  constructor
  · rintro ⟨common, all⟩ first firstMem second secondMem firstSome secondSome
    obtain ⟨firstAmount, isFirst⟩ := Option.isSome_iff_exists.mp firstSome
    obtain ⟨secondAmount, isSecond⟩ := Option.isSome_iff_exists.mp secondSome
    rw [← currency first firstAmount isFirst, ← currency second secondAmount isSecond,
      all firstAmount (List.mem_filterMap.mpr ⟨first, firstMem, isFirst⟩),
      all secondAmount (List.mem_filterMap.mpr ⟨second, secondMem, isSecond⟩)]
  · intro same
    cases amounts : holdings.filterMap amountOf with
    | nil => exact ⟨"", by simp⟩
    | cons head rest =>
        have headMem : head ∈ holdings.filterMap amountOf := by simp [amounts]
        obtain ⟨first, firstMem, isHead⟩ := List.mem_filterMap.mp headMem
        refine ⟨currencyOf first, ?_⟩
        intro amount isMem
        rw [← amounts] at isMem
        obtain ⟨holding, holdingMem, isAmount⟩ := List.mem_filterMap.mp isMem
        rw [currency holding amount isAmount]
        exact same holding holdingMem first firstMem (by simp [isAmount]) (by simp [isHead])

/-- The amounts of an account are among those of the portfolio. -/
theorem InOneCurrency.account {amountOf : Holding → Option Amount} (accountId : Uuid)
    (all : InOneCurrency ((db.latestHoldings scope).filterMap amountOf)) :
    InOneCurrency (db.accountAmounts scope amountOf accountId) := by
  obtain ⟨currency, same⟩ := all
  refine ⟨currency, fun amount isMem => same amount ?_⟩
  rw [accountAmounts, List.mem_filterMap] at isMem
  obtain ⟨holding, holdingMem, isAmount⟩ := isMem
  exact List.mem_filterMap.mpr ⟨holding, (List.mem_filter.mp holdingMem).1, isAmount⟩

end Amounts

/-! ## Totals -/

section Totals

variable {db scope}

/-- A total over the breakdowns of an account adds the amounts of its snapshots. -/
theorem sum_breakdowns {amountOf : Holding → Option Amount}
    {figure : HoldingBreakdown → Option ℚ}
    (isFigure : ∀ holding, figure (db.holdingBreakdown holding) =
      (amountOf holding).map Amount.value) (holdings : List Holding) :
    ((holdings.map db.holdingBreakdown).filterMap figure).sum =
      ((holdings.filterMap amountOf).map Amount.value).sum := by
  rw [List.filterMap_map, List.map_filterMap]
  congr 2
  funext holding
  exact isFigure holding

/-- The totals of the accounts add up to the amounts of all snapshots. -/
theorem sum_accounts {amountOf : Holding → Option Amount} :
    (((db.getPortfolio scope).accounts.map fun account =>
        ((db.accountAmounts scope amountOf account.accountId).map Amount.value).sum).sum) =
      (((db.latestHoldings scope).filterMap amountOf).map Amount.value).sum := by
  have grouped := flatMap_filter_perm Holding.accountId (db.latestHoldings scope)
  rw [← ((grouped.filterMap amountOf).map Amount.value).sum_eq, List.filterMap_flatMap,
    List.map_flatMap, List.flatMap_def, List.sum_flatten, getPortfolio, List.map_map,
    List.map_map]
  rfl

theorem totalsInOneCurrency_iff {amountOf : Holding → Option Amount}
    {currencyOf : Holding → String}
    (currency : ∀ holding amount, amountOf holding = some amount →
      amount.currency = currencyOf holding)
    {accountTotal : AccountPortfolioBreakdown → ℚ}
    (accountSum : ∀ account ∈ (db.getPortfolio scope).accounts, accountTotal account =
      ((db.accountAmounts scope amountOf account.accountId).map Amount.value).sum) :
    db.TotalsInOneCurrency scope amountOf accountTotal
        (((db.getPortfolio scope).accounts.map accountTotal).sum) ↔
      ∀ first ∈ db.latestUntil scope none, ∀ second ∈ db.latestUntil scope none,
        (amountOf first).isSome → (amountOf second).isSome →
          currencyOf first = currencyOf second := by
  have members : ∀ holding, holding ∈ db.latestHoldings scope ↔
      holding ∈ db.latestUntil scope none := fun holding => latestHoldings_perm.mem_iff
  simp only [← members]
  rw [← inOneCurrency_filterMap_iff currency]
  constructor
  · intro totals
    exact totals.portfolio.1
  · intro all
    refine ⟨?_, all, ?_⟩
    · intro account isMem
      exact ⟨all.account account.accountId, accountSum account isMem⟩
    · rw [← sum_accounts]
      congr 1
      exact List.map_congr_left accountSum

theorem values_iff :
    db.TotalsInOneCurrency scope db.valueAmount AccountPortfolioBreakdown.totalValue
        (db.getPortfolio scope).totalValue ↔
      ∀ first ∈ db.latestUntil scope none, ∀ second ∈ db.latestUntil scope none,
        db.IsValued first → db.IsValued second →
          db.valueCurrency first = db.valueCurrency second := by
  simp only [← valueAmount_isSome_iff]
  apply totalsInOneCurrency_iff fun holding amount => currency_of_valueAmount
  intro account isMem
  rw [getPortfolio, List.mem_map] at isMem
  obtain ⟨accountId, -, rfl⟩ := isMem
  exact sum_breakdowns (fun holding => by simp [valueAmount, Function.comp_def]) _

theorem costs_iff :
    db.TotalsInOneCurrency scope db.costAmount AccountPortfolioBreakdown.totalCostBasis
        (db.getPortfolio scope).totalCostBasis ↔
      ∀ first ∈ db.latestUntil scope none, ∀ second ∈ db.latestUntil scope none,
        first.costBasis.isSome → second.costBasis.isSome →
          costCurrency first = costCurrency second := by
  simp only [← costAmount_isSome_iff db]
  apply totalsInOneCurrency_iff fun holding amount => currency_of_costAmount
  intro account isMem
  rw [getPortfolio, List.mem_map] at isMem
  obtain ⟨accountId, -, rfl⟩ := isMem
  exact sum_breakdowns (fun holding => by simp [costAmount, Function.comp_def]) _

theorem gains_iff :
    (∀ holding ∈ db.latestHoldings scope, (db.holdingBreakdown holding).unrealisedPl.isSome →
        ∃ value ∈ db.valueAmount holding, ∃ cost ∈ db.costAmount holding,
          value.currency = cost.currency) ↔
      ∀ holding ∈ db.latestUntil scope none, db.IsValued holding →
        holding.costBasis.isSome → db.valueCurrency holding = costCurrency holding := by
  simp only [latestHoldings_perm.mem_iff, unrealisedPl_isSome_iff, and_imp]
  apply forall₄_congr
  intro holding isMem isValued hasCost
  obtain ⟨value, isValue⟩ :=
    Option.isSome_iff_exists.mp ((valueAmount_isSome_iff holding).mpr isValued)
  obtain ⟨cost, isCost⟩ :=
    Option.isSome_iff_exists.mp ((costAmount_isSome_iff db holding).mpr hasCost)
  simp [isValue, isCost, currency_of_valueAmount isValue, currency_of_costAmount isCost]

end Totals

/-- The portfolio adds up exactly if no visible position has two latest snapshots and
these snapshots are in one currency. -/
theorem portfolioSums_addUp_iff :
    db.AddsUp scope ↔ db.OneSnapshotEach scope ∧ db.OneCurrency scope := by
  constructor
  · intro addsUp
    exact ⟨once_iff.mp addsUp.once, values_iff.mp addsUp.values, costs_iff.mp addsUp.costs,
      gains_iff.mp addsUp.gains⟩
  · rintro ⟨each, currencies⟩
    exact ⟨once_iff.mpr each, gains_iff.mpr currencies.gains, values_iff.mpr currencies.values,
      costs_iff.mpr currencies.costs⟩

/-! ## A share with a cost basis in dollars -/

/-- A market value in euros and a cost basis in dollars. -/
def dollarShare : Holding where
  tenantId := 1
  accountId := 0
  securityId := 7
  observedAt := 0
  quantity := 10
  costBasis := some 1000
  costBasisCurrency := some "USD"
  marketValue := some 900
  currencyCode := "EUR"

/-- Its gain would be a difference of euros and dollars. -/
theorem dollarShare_not_addsUp : ¬ ∀ (db : Database) (scope : ReadScope), db.AddsUp scope := by
  intro addsUp
  have gains := gains_iff.mp (addsUp (ofSnapshots [dollarShare] []) { tenantId := 1 }).gains
  have latest : dollarShare ∈
      (ofSnapshots [dollarShare] []).latestUntil { tenantId := 1 } none := by
    apply mem_latest.mpr
    constructor
    · exact List.mem_singleton_self dollarShare
    · decide
  have same := gains dollarShare latest (.inl rfl) rfl
  exact absurd same (by decide)

end FinanceSync.Visibility.Database
