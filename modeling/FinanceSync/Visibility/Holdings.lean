import FinanceSync.Lib.Grouping
import FinanceSync.Lib.Latest
import FinanceSync.Visibility.Reads

/-!
# Positions as they are read

The latest snapshots behind the portfolio and behind the list of holdings, also of an
earlier moment, and the groups in which the portfolio shows them.
-/

namespace FinanceSync.Visibility

open Lib OrderDual

namespace Holding

/-- The position that a snapshot is of. -/
def position (holding : Holding) : Uuid × Uuid := (holding.accountId, holding.securityId)

/-- The order of the list of holdings. -/
def listKey (holding : Holding) : Uuid ×ₗ Uuid := toLex holding.position

end Holding

namespace Database

variable (db : Database) (scope : ReadScope)

/-! ## `get_holdings` -/

structure HoldingItemResponse where
  accountId : Uuid
  accountName : Option String
  securityId : Uuid
  ticker : Option String
  isin : Option String
  securityName : String
  securityType : String
  quantity : ℚ
  costBasis : Option ℚ
  costBasisCurrency : Option String
  marketValue : Option ℚ
  price : Option ℚ
  priceCurrency : Option String
  currencyCode : String
  observedAt : Instant
  unrealisedPl : Option ℚ
  unrealisedPlPct : Option ℚ

structure HoldingsQuery where
  accountId : Option Uuid := none
  securityId : Option Uuid := none
  asOf : Option Instant := none
  limit : Nat := 50
  offset : Nat := 0

structure HoldingsListResponse where
  items : List HoldingItemResponse
  total : Nat
  limit : Nat
  offset : Nat
  asOf : Option Instant
  freshness : String

/-- The visible snapshots up to a moment. -/
def holdingsUntil (asOf : Option Instant) : List Holding :=
  (db.visibleHoldings scope).filter fun holding => asOf.all (holding.observedAt ≤ ·)

/-- The latest of them per account and security. -/
def latestUntil (asOf : Option Instant) : List Holding :=
  latest Holding.position Holding.observedAt (db.holdingsUntil scope asOf)

def holdingItem (holding : Holding) : HoldingItemResponse :=
  let security := db.securities.find? fun security => security.id = holding.securityId
  let account := (db.visibleAccounts scope).find? fun account => account.id = holding.accountId
  let marketValue := holding.marketValue.or (holding.price.map (holding.quantity * ·))
  let unrealisedPl := holding.costBasis.bind fun costBasis => marketValue.map (· - costBasis)
  { accountId := holding.accountId
    accountName := account.map Account.name
    securityId := holding.securityId
    ticker := security.bind Security.ticker
    isin := security.bind Security.isin
    securityName := (security.map Security.name).getD "Unknown"
    securityType := (security.map Security.securityType).getD "other"
    quantity := holding.quantity
    costBasis := holding.costBasis
    costBasisCurrency := holding.costBasisCurrency
    marketValue
    price := holding.price
    priceCurrency := holding.priceCurrency
    currencyCode := holding.currencyCode
    observedAt := holding.observedAt
    unrealisedPl
    unrealisedPlPct := (holding.costBasis.filter (· ≠ 0)).bind fun costBasis =>
      unrealisedPl.map (· / costBasis * 100) }

/-- One page of the latest snapshots, in an order that the database chooses. -/
def getHoldings (order : OrderBy Holding.listKey) (query : HoldingsQuery) (now : Instant) :
    HoldingsListResponse :=
  let matching := (db.latestUntil scope query.asOf).filter fun holding =>
    query.accountId.all (· = holding.accountId) && query.securityId.all (· = holding.securityId)
  let holdings := page query.limit query.offset (order.sort matching)
  let observedAt := (holdings.map Holding.observedAt).max?
  { items := holdings.map (db.holdingItem scope)
    total := matching.length
    limit := query.limit
    offset := query.offset
    asOf := observedAt
    freshness := freshnessFor observedAt now }

/-! ## Pages -/

/-- Enough pages of one list hold the whole list. -/
theorem flatMap_pages {Row : Type} {rows : List Row} {limit count : Nat}
    (enough : rows.length ≤ count * limit) :
    ((List.range count).flatMap fun index => page limit (index * limit) rows) = rows := by
  have first : ∀ count, ((List.range count).flatMap fun index =>
      page limit (index * limit) rows) = rows.take (count * limit) := by
    intro count
    induction count with
    | zero => simp
    | succ count ih =>
        rw [List.range_succ, List.flatMap_append, ih, Nat.succ_mul, List.take_add]
        simp [page]
  rw [first, List.take_of_length_le enough]

/-! ## The latest snapshots -/

section Latest

variable {db scope}

theorem mem_holdingsUntil {asOf : Option Instant} {holding : Holding} :
    holding ∈ db.holdingsUntil scope asOf ↔
      holding ∈ db.visibleHoldings scope ∧ ∀ moment ∈ asOf, holding.observedAt ≤ moment := by
  cases asOf <;> simp [holdingsUntil]

theorem holdingsUntil_none : db.holdingsUntil scope none = db.visibleHoldings scope := by
  simp [holdingsUntil]

/-- The portfolio is made of the latest snapshots. -/
theorem latestHoldings_perm :
    (db.latestHoldings scope).Perm (db.latestUntil scope none) := by
  have same : db.latestUntil scope none =
      (db.visibleHoldings scope).filter fun holding =>
        (db.visibleHoldings scope).all fun other =>
          !(other.accountId = holding.accountId && other.securityId = holding.securityId) ||
            other.observedAt ≤ holding.observedAt := by
    rw [latestUntil, holdingsUntil_none, latest]
    apply List.filter_congr
    intro holding isMem
    rw [Bool.eq_iff_iff, decide_eq_true_iff, List.all_eq_true]
    apply forall₂_congr
    intro other otherMem
    simp [Holding.position, imp_iff_not_or]
  rw [same]
  exact (OrderBy.stable Holding.accountId).perm _

/-- Every visible position has a latest snapshot. -/
theorem position_mem_latestUntil {asOf : Option Instant} {position : Uuid × Uuid} :
    position ∈ (db.latestUntil scope asOf).map Holding.position ↔
      position ∈ (db.holdingsUntil scope asOf).map Holding.position := by
  rw [List.mem_map, List.mem_map]
  constructor
  · rintro ⟨holding, isLatest, rfl⟩
    exact ⟨holding, (mem_latest.mp isLatest).1, rfl⟩
  · rintro ⟨holding, isMem, rfl⟩
    exact exists_latest isMem

/-- The snapshots of a position that are both latest are of one moment. -/
theorem observedAt_eq_of_latest {asOf : Option Instant} {first second : Holding}
    (firstMem : first ∈ db.latestUntil scope asOf) (secondMem : second ∈ db.latestUntil scope asOf)
    (same : first.position = second.position) : first.observedAt = second.observedAt :=
  rank_eq_of_latest firstMem secondMem same

/-- A snapshot is the latest one of its own moment. -/
theorem mem_latestUntil_observedAt {holding : Holding}
    (isMem : holding ∈ db.visibleHoldings scope) :
    holding ∈ db.latestUntil scope (some holding.observedAt) := by
  rw [latestUntil, mem_latest, mem_holdingsUntil]
  refine ⟨⟨isMem, ?_⟩, ?_⟩
  · intro moment isMoment
    cases isMoment
    exact le_refl _
  · intro other otherMem sameKey
    exact (mem_holdingsUntil.mp otherMem).2 _ rfl

end Latest

/-! ## The portfolio by account -/

section Groups

/-- The breakdowns of all accounts are those of the latest snapshots. -/
theorem flatMap_accounts_perm {Row : Type} (toRow : Uuid → HoldingBreakdown → Row) :
    ((db.getPortfolio scope).accounts.flatMap fun account =>
        account.holdings.map (toRow account.accountId)).Perm
      ((db.latestUntil scope none).map fun holding =>
        toRow holding.accountId (db.holdingBreakdown holding)) := by
  have grouped : ((db.getPortfolio scope).accounts.flatMap fun account =>
      account.holdings.map (toRow account.accountId)) =
      (((db.latestHoldings scope).map Holding.accountId).eraseDups.flatMap fun accountId =>
        (db.latestHoldings scope).filter fun holding => holding.accountId = accountId).map
          fun holding => toRow holding.accountId (db.holdingBreakdown holding) := by
    rw [getPortfolio, List.flatMap_map, List.map_flatMap]
    apply List.flatMap_congr
    intro accountId isMem
    rw [accountBreakdown, List.map_map]
    apply List.map_congr_left
    intro holding holdingMem
    have account := (List.mem_filter.mp holdingMem).2
    rw [Function.comp_apply, of_decide_eq_true account]
  rw [grouped]
  exact ((flatMap_filter_perm Holding.accountId _).trans latestHoldings_perm).map _

end Groups

/-! ## One position -/

/-- A tenant with one account and the snapshots and the prices of one security. -/
def ofSnapshots (holdings : List Holding) (prices : List SecurityPrice) : Database where
  accounts := Table.empty.insert
    { id := 0, tenantId := 1, providerKey := "degiro_pension", externalAccountId := "A",
      name := "A", accountType := "investment" } rfl
  transactions := .empty
  attached := fun _ => []
  holdings
  taxLots := fun _ => .empty
  securities := []
  prices
  credentials := []

end Database

end FinanceSync.Visibility
