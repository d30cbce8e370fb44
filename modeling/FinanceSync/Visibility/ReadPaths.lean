import FinanceSync.Visibility.Holdings

/-!
# The two reads of the portfolio

The portfolio and the list of holdings compute the figures of a position separately.
They agree at every moment, and the pages of the list hold every position once,
exactly if no position has two snapshots of one moment and no snapshot depends on a
daily price.
-/

namespace FinanceSync.Visibility.Database

open Lib

variable (db : Database) (scope : ReadScope)

/-! ## What is compared -/

/-- What both reads say about a position. -/
structure PositionFigures where
  accountId : Uuid
  securityId : Uuid
  quantity : ℚ
  price : Option ℚ
  marketValue : Option ℚ
  costBasis : Option ℚ
  unrealisedPl : Option ℚ
  unrealisedPlPct : Option ℚ

def HoldingItemResponse.figures (item : HoldingItemResponse) : PositionFigures where
  accountId := item.accountId
  securityId := item.securityId
  quantity := item.quantity
  price := item.price
  marketValue := item.marketValue
  costBasis := item.costBasis
  unrealisedPl := item.unrealisedPl
  unrealisedPlPct := item.unrealisedPlPct

def HoldingBreakdown.figures (accountId : Uuid) (breakdown : HoldingBreakdown) :
    PositionFigures where
  accountId
  securityId := breakdown.securityId
  quantity := breakdown.quantity
  price := breakdown.price
  marketValue := breakdown.marketValue
  costBasis := breakdown.costBasis
  unrealisedPl := breakdown.unrealisedPl
  unrealisedPlPct := breakdown.unrealisedPlPct

def PositionFigures.position (figures : PositionFigures) : Uuid × Uuid :=
  (figures.accountId, figures.securityId)

def PortfolioResponse.figures (portfolio : PortfolioResponse) : List PositionFigures :=
  portfolio.accounts.flatMap fun account =>
    account.holdings.map (HoldingBreakdown.figures account.accountId)

/-- The figures on all pages of the list of holdings, of which each is sorted anew. -/
def pagedFigures (orders : Nat → OrderBy Holding.listKey) (limit : Nat) (asOf : Option Instant)
    (now : Instant) : List PositionFigures :=
  let total := (db.getHoldings scope (orders 0) { asOf, limit } now).total
  (List.range (total / limit + 1)).flatMap fun index =>
    (db.getHoldings scope (orders index) { asOf, limit, offset := index * limit } now).items.map
      HoldingItemResponse.figures

/-- The database with the snapshots up to a moment. -/
def upTo (asOf : Option Instant) : Database :=
  { db with holdings := db.holdings.filter fun holding => asOf.all (holding.observedAt ≤ ·) }

/-- Both reads describe the same positions alike, now and at every moment, and the
pages hold each of them once. -/
structure ReadsAgree : Prop where
  current : ∀ orders limit now, 0 < limit →
    (db.pagedFigures scope orders limit none now).Perm (db.getPortfolio scope).figures
  past : ∀ (moment : Instant) orders limit now, 0 < limit →
    (db.pagedFigures scope orders limit (some moment) now).Perm
      ((db.upTo (some moment)).getPortfolio scope).figures
  once : ∀ asOf orders limit now, 0 < limit →
    ((db.pagedFigures scope orders limit asOf now).map PositionFigures.position).Nodup ∧
      ∀ position, position ∈ (db.pagedFigures scope orders limit asOf now).map
          PositionFigures.position ↔
        position ∈ (db.holdingsUntil scope asOf).map Holding.position

/-! ## The conditions -/

/-- No two visible snapshots of one position are of one moment. -/
def DistinctMoments : Prop :=
  ((db.visibleHoldings scope).map fun holding => (holding.position, holding.observedAt)).Nodup

/-- A snapshot without a price, or with the price zero, has the daily price that
there is for its security. -/
def PricedAlike (holding : Holding) : Prop :=
  (holding.price = none ∨ holding.price = some 0) →
    holding.price = (db.latestDailyPrice holding.securityId).bind SecurityPrice.priceClose

/-! ## Figures of a snapshot -/

section Figures

variable {db scope}

theorem usedPrice_eq_iff (holding : Holding) :
    (db.holdingBreakdown holding).price = holding.price ↔ db.PricedAlike holding := by
  rw [holdingBreakdown, PricedAlike]
  cases isPrice : holding.price with
  | none => simp [eq_comm]
  | some price =>
      by_cases zero : price = 0
      · simp [zero, Option.filter_some, eq_comm]
      · simp [zero]

/-- The two reads say the same about a snapshot exactly if they use one price. -/
theorem figures_eq_iff (holding : Holding) :
    (db.holdingItem scope holding).figures =
        (db.holdingBreakdown holding).figures holding.accountId ↔ db.PricedAlike holding := by
  rw [← usedPrice_eq_iff]
  constructor
  · intro same
    exact (congrArg PositionFigures.price same).symm
  · intro samePrice
    simp only [holdingBreakdown] at samePrice
    simp only [HoldingItemResponse.figures, HoldingBreakdown.figures, holdingItem,
      holdingBreakdown, samePrice]

theorem visibleHoldings_upTo (asOf : Option Instant) :
    (db.upTo asOf).visibleHoldings scope = db.holdingsUntil scope asOf := by
  rw [holdingsUntil, visibleHoldings, visibleHoldings, upTo, List.filter_filter,
    List.filter_filter]
  apply List.filter_congr
  intro holding isMem
  exact Bool.and_comm _ _

theorem latestUntil_upTo (asOf : Option Instant) :
    (db.upTo asOf).latestUntil scope none = db.latestUntil scope asOf := by
  rw [latestUntil, latestUntil, holdingsUntil_none, visibleHoldings_upTo]

theorem upTo_none : db.upTo none = db := by
  simp [upTo]

theorem figures_upTo_perm (asOf : Option Instant) :
    ((db.upTo asOf).getPortfolio scope).figures.Perm
      ((db.latestUntil scope asOf).map fun holding =>
        (db.holdingBreakdown holding).figures holding.accountId) := by
  have shown := flatMap_accounts_perm (db.upTo asOf) scope HoldingBreakdown.figures
  rw [latestUntil_upTo] at shown
  exact shown

end Figures

/-! ## Pages -/

section Pages

variable {db scope} {asOf : Option Instant}

/-- The list without filters. -/
theorem items_getHoldings (order : OrderBy Holding.listKey) (limit offset : Nat) (now : Instant) :
    (db.getHoldings scope order { asOf, limit, offset } now).items.map
        HoldingItemResponse.figures =
      page limit offset ((order.sort (db.latestUntil scope asOf)).map fun holding =>
        (db.holdingItem scope holding).figures) := by
  simp [getHoldings, page, List.map_drop, List.map_take, Function.comp_def]

theorem total_getHoldings (order : OrderBy Holding.listKey) (limit : Nat) (now : Instant) :
    (db.getHoldings scope order { asOf, limit } now).total =
      (db.latestUntil scope asOf).length := by
  simp [getHoldings]

/-- A page that is long enough holds everything. -/
theorem pagedFigures_of_long (order : OrderBy Holding.listKey) (now : Instant) :
    db.pagedFigures scope (fun _ => order) ((db.latestUntil scope asOf).length + 1) asOf now =
      (order.sort (db.latestUntil scope asOf)).map fun holding =>
        (db.holdingItem scope holding).figures := by
  have long : ((order.sort (db.latestUntil scope asOf)).map fun holding =>
      (db.holdingItem scope holding).figures).length ≤ (db.latestUntil scope asOf).length + 1 := by
    rw [List.length_map, (order.perm _).length_eq]
    exact Nat.le_succ _
  rw [pagedFigures]
  simp only [total_getHoldings, items_getHoldings, Nat.div_eq_of_lt (Nat.lt_succ_self _)]
  simp [page, List.take_of_length_le long]

/-- Where every position has one latest snapshot, the pages are those of one list. -/
theorem pagedFigures_of_nodup
    (nodup : ((db.latestUntil scope asOf).map Holding.position).Nodup)
    (orders : Nat → OrderBy Holding.listKey) {limit : Nat} (positive : 0 < limit) (now : Instant) :
    db.pagedFigures scope orders limit asOf now =
      ((OrderBy.stable Holding.listKey).sort (db.latestUntil scope asOf)).map fun holding =>
        (db.holdingItem scope holding).figures := by
  have keys : ((db.latestUntil scope asOf).map Holding.listKey).Nodup := nodup
  rw [pagedFigures]
  simp only [total_getHoldings, items_getHoldings,
    fun index => (orders index).sort_eq (OrderBy.stable Holding.listKey) keys]
  apply flatMap_pages
  rw [List.length_map, ((OrderBy.stable Holding.listKey).perm _).length_eq]
  exact (Nat.lt_div_mul_add positive).le.trans_eq (Nat.succ_mul _ _).symm

end Pages

/-! ## Moments -/

section Moments

variable {db scope}

theorem distinctMoments_iff : db.DistinctMoments scope ↔
    ∀ asOf, ((db.latestUntil scope asOf).map Holding.position).Nodup := by
  rw [DistinctMoments, List.Nodup, List.pairwise_map]
  constructor
  · intro distinct asOf
    have latest : (db.latestUntil scope asOf).Pairwise fun first second =>
        (first.position, first.observedAt) ≠ (second.position, second.observedAt) :=
      distinct.sublist (List.filter_sublist.trans List.filter_sublist)
    rw [List.Nodup, List.pairwise_map]
    apply latest.imp_of_mem
    intro first second firstMem secondMem differ same
    exact differ (Prod.ext same (observedAt_eq_of_latest firstMem secondMem same))
  · intro nodup
    rw [List.pairwise_iff_getElem]
    intro first second firstBound secondBound less same
    obtain ⟨samePosition, sameMoment⟩ := Prod.mk.inj same
    have once := nodup (some (db.visibleHoldings scope)[first].observedAt)
    rw [List.Nodup, List.pairwise_map, latestUntil, Lib.latest, holdingsUntil, List.filter_filter,
      List.pairwise_filter, List.pairwise_iff_getElem] at once
    have firstLatest := mem_latestUntil_observedAt (List.getElem_mem firstBound)
    have secondLatest := mem_latestUntil_observedAt (List.getElem_mem secondBound)
    rw [← sameMoment] at secondLatest
    rw [latestUntil, Lib.latest, holdingsUntil, List.filter_filter, List.mem_filter]
      at firstLatest secondLatest
    exact once first second firstBound secondBound less firstLatest.2 secondLatest.2 samePosition

end Moments

/-! ## Agreement -/

section Agreement

variable {db scope}

theorem readsAgree_of (distinct : db.DistinctMoments scope)
    (priced : ∀ holding ∈ db.visibleHoldings scope, db.PricedAlike holding) :
    db.ReadsAgree scope := by
  rw [distinctMoments_iff] at distinct
  have visible : ∀ asOf, ∀ holding ∈ db.latestUntil scope asOf,
      holding ∈ db.visibleHoldings scope := by
    intro asOf holding isMem
    exact (mem_holdingsUntil.mp (mem_latest.mp isMem).1).1
  have agree : ∀ asOf orders limit now, 0 < limit →
      (db.pagedFigures scope orders limit asOf now).Perm
        ((db.upTo asOf).getPortfolio scope).figures := by
    intro asOf orders limit now positive
    rw [pagedFigures_of_nodup (distinct asOf) orders positive]
    have listed := ((OrderBy.stable Holding.listKey).perm (db.latestUntil scope asOf)).map
      fun holding => (db.holdingItem scope holding).figures
    have same : ((db.latestUntil scope asOf).map fun holding =>
        (db.holdingItem scope holding).figures) =
        (db.latestUntil scope asOf).map fun holding =>
          (db.holdingBreakdown holding).figures holding.accountId := by
      apply List.map_congr_left
      intro holding isMem
      exact (figures_eq_iff holding).mpr (priced holding (visible asOf holding isMem))
    rw [same] at listed
    exact listed.trans (figures_upTo_perm asOf).symm
  refine ⟨?_, fun moment => agree (some moment), ?_⟩
  · have now := agree none
    rwa [upTo_none] at now
  · intro asOf orders limit now positive
    rw [pagedFigures_of_nodup (distinct asOf) orders positive, List.map_map]
    have positions := ((OrderBy.stable Holding.listKey).perm (db.latestUntil scope asOf)).map
      Holding.position
    refine ⟨positions.nodup_iff.mpr (distinct asOf), fun position => ?_⟩
    rw [← position_mem_latestUntil]
    exact positions.mem_iff

theorem distinctMoments_of_readsAgree (agree : db.ReadsAgree scope) :
    db.DistinctMoments scope := by
  rw [distinctMoments_iff]
  intro asOf
  have once := (agree.once asOf (fun _ => OrderBy.stable Holding.listKey)
    ((db.latestUntil scope asOf).length + 1) 0 (Nat.succ_pos _)).1
  rw [pagedFigures_of_long, List.map_map] at once
  exact (((OrderBy.stable Holding.listKey).perm _).map Holding.position).nodup_iff.mp once

theorem pricedAlike_of_readsAgree (agree : db.ReadsAgree scope) :
    ∀ holding ∈ db.visibleHoldings scope, db.PricedAlike holding := by
  intro holding isMem
  have isLatest := mem_latestUntil_observedAt isMem
  have nodup := distinctMoments_iff.mp (distinctMoments_of_readsAgree agree)
    (some holding.observedAt)
  have same := agree.past holding.observedAt (fun _ => OrderBy.stable Holding.listKey)
    ((db.latestUntil scope (some holding.observedAt)).length + 1) 0 (Nat.succ_pos _)
  rw [pagedFigures_of_long] at same
  have listed : (db.holdingItem scope holding).figures ∈
      ((db.upTo (some holding.observedAt)).getPortfolio scope).figures := by
    rw [← same.mem_iff]
    exact List.mem_map_of_mem ((OrderBy.mem_sort _).mpr isLatest)
  rw [(figures_upTo_perm _).mem_iff, List.mem_map] at listed
  obtain ⟨other, otherMem, otherFigures⟩ := listed
  have samePosition : other.position = holding.position :=
    congrArg PositionFigures.position otherFigures
  rw [List.inj_on_of_nodup_map nodup otherMem isLatest samePosition] at otherFigures
  exact (figures_eq_iff holding).mp otherFigures.symm

end Agreement

/-- The two reads agree exactly if no visible position has two snapshots of one moment
and each visible snapshot has a price of its own or the daily price adds none. -/
theorem readsAgree_iff : db.ReadsAgree scope ↔
    db.DistinctMoments scope ∧
      ∀ holding ∈ db.visibleHoldings scope, db.PricedAlike holding := by
  constructor
  · intro agree
    exact ⟨distinctMoments_of_readsAgree agree, pricedAlike_of_readsAgree agree⟩
  · rintro ⟨distinct, priced⟩
    exact readsAgree_of distinct priced

/-! ## A snapshot without a price -/

def unpricedShare : Holding where
  tenantId := 1
  accountId := 0
  securityId := 7
  observedAt := 0
  quantity := 10
  currencyCode := "EUR"

def dailyPrice : SecurityPrice where
  securityId := 7
  timestamp := 0
  interval := "1d"
  priceClose := some 12
  currencyCode := "EUR"

/-- The portfolio values the share at the daily price, the list of holdings does not. -/
theorem unpricedShare_not_readsAgree :
    ¬ ∀ (db : Database) (scope : ReadScope), db.ReadsAgree scope := by
  intro agree
  have priced := pricedAlike_of_readsAgree
    (agree (ofSnapshots [unpricedShare] [dailyPrice]) { tenantId := 1 }) unpricedShare
    (List.mem_singleton_self unpricedShare) (.inl rfl)
  exact absurd priced (by decide)

end FinanceSync.Visibility.Database
