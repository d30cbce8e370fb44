import FinanceSync.Lib.Grouping
import FinanceSync.Wealthfolio.HoldingRows

/-!
# Dated snapshots of holdings

A full sync sends every observed holding as a position of the snapshot of its day.
Observations that close a position are skipped, and nothing folds several
observations of a day into one.  A snapshot is what the last observations of its
day say exactly where each position comes from the only one that is sent that day,
and the last one of the day does not differ from it.
-/

namespace FinanceSync.Wealthfolio

open Lib

/-! ## Snapshots -/

/-- A position of a dated snapshot.  The security whose holding it is, is no key of
the payload. -/
structure DatedPosition where
  securityId : String
  symbol : String
  isin : String
  quantity : String
  avgCost : Option String
  currency : String
  quoteMode : Option QuoteMode := none
  price : Option ℚ := none
deriving Inhabited

/-- The positions of one day. -/
structure DatedSnapshot where
  date : Int
  positions : List DatedPosition
  cashBalances : List (String × ℚ) := []

/-- What the export of an account reads besides its holdings.  `openCostBasis` has
the text of the cost of one unit in the open lots of a security. -/
structure HistoryContext where
  exportHoldings : Bool
  defaultCurrency : String
  securityMap : String → Option Security
  openCostBasis : String → Option String

/-- An entry of the errors of a sync. -/
structure AccountError where
  accountId : String
  accountName : String
  error : String
deriving DecidableEq

/-- What was sent for an account, and the errors that are reported for it. -/
structure HistoryOutcome where
  sent : List DatedSnapshot := []
  errors : List AccountError := []

/-- Fetch every source holding snapshot in observation order. -/
def fetchHistoricalHoldings (accountId : String) (holdings : List Holding) : List Holding :=
  (holdings.filter (·.accountId = accountId)).insertionSort fun first second =>
    first.observedAt < second.observedAt ∨
      first.observedAt = second.observedAt ∧ first.securityId ≤ second.securityId

/-- `validate_holdings`: a position without a market value and without a price is
kept back. -/
def exportableHoldings (holdings : List Holding) : List Holding :=
  holdings.filter fun holding =>
    ¬(holding.quantity ≠ 0 ∧ holding.marketValue = none ∧ holding.price = none)

def Holding.day (holding : Holding) : Int := Instant.date holding.observedAt

/-- The price of a position of the past.  Its text is where the position is quoted
manually. -/
def historicalPrice (holding : Holding) : Option ℚ :=
  match holding.marketValue with
  | some marketValue =>
      if holding.quantity = 0 then holding.price else some (marketValue / holding.quantity)
  | none => holding.price

/-- The position of a holding. -/
def datedPosition (context : HistoryContext) (holding : Holding) :
    Except MappingError DatedPosition := do
  let row ← mapHoldingToWfRow context.defaultCurrency (context.securityMap holding.securityId)
    holding
  return {
    securityId := holding.securityId
    symbol := row.symbol
    isin := row.isin
    quantity := row.quantity
    avgCost := if row.avgCost = "" then context.openCostBasis holding.securityId
      else some row.avgCost
    currency := row.currency
    quoteMode := (historicalPrice holding).map fun _ => .manual
    price := historicalPrice holding }

/-- The holdings that become positions: a quantity of zero closes a position. -/
def positionHoldings (holdings : List Holding) : List Holding :=
  (exportableHoldings holdings).filter (·.quantity ≠ 0)

/-- The snapshots of the days, in the order in which the days occur. -/
def snapshotsByDate (context : HistoryContext) (holdings : List Holding) :
    Except MappingError (List DatedSnapshot) := do
  let positions ← (positionHoldings holdings).mapM fun holding => do
    return (holding.day, ← datedPosition context holding)
  return (groupsOf Prod.fst positions).map fun (date, dated) =>
    { date, positions := dated.map Prod.snd }

/-- The days of the holdings. -/
def daysOf (holdings : List Holding) : List Int :=
  ((exportableHoldings holdings).map Holding.day).eraseDups

/-- Import every dated source snapshot during a full sync.  `rejects` is whether the
destination answers with validation errors. -/
def syncHistoricalHoldings (context : HistoryContext) (rejects : List DatedSnapshot → Bool)
    (accountId accountName : String) (stored : List Holding) :
    Except MappingError HistoryOutcome :=
  if ¬context.exportHoldings then .ok {}
  else
    let holdings := fetchHistoricalHoldings accountId stored
    if (daysOf holdings).length ≤ 1 then .ok {}
    else
      match snapshotsByDate context holdings with
      | .error (.unresolvedSecurity message) =>
          .ok { errors := [{ accountId, accountName, error := message }] }
      | .error error => .error error
      | .ok built =>
          let snapshots := built.filter fun snapshot =>
            snapshot.positions.length ≠ 0 ∨ snapshot.cashBalances.length ≠ 0
          if snapshots.length = 0 then .ok {}
          else .ok {
            sent := snapshots
            errors := if rejects snapshots then
                [{ accountId, accountName, error := "Wealthfolio wees historische holdings af." }]
              else [] }

/-! ## What a snapshot should hold -/

/-- The observations of a security on a day. -/
def observationsOf (date : Int) (security : String) (holdings : List Holding) : List Holding :=
  holdings.filter fun holding => holding.day = date ∧ holding.securityId = security

/-- Every security occurs at most once, with the quantity that its last observation
of the day has, and not at all where that one closes it. -/
structure HoldsOnce (holdings : List Holding) (snapshot : DatedSnapshot) : Prop where
  once : (snapshot.positions.map DatedPosition.securityId).Nodup
  last : ∀ position ∈ snapshot.positions,
    ∃ last, (observationsOf snapshot.date position.securityId holdings).getLast? = some last ∧
      last.quantity ≠ 0 ∧ fmtDecimal (some last.quantity) = .ok position.quantity

instance (holdings : List Holding) (snapshot : DatedSnapshot) :
    Decidable (HoldsOnce holdings snapshot) :=
  decidable_of_iff ((snapshot.positions.map DatedPosition.securityId).Nodup ∧
      ∀ position ∈ snapshot.positions,
        ((observationsOf snapshot.date position.securityId holdings).getLast?.any fun last =>
          decide (last.quantity ≠ 0 ∧
            fmtDecimal (some last.quantity) = .ok position.quantity)) = true) <| by
    simp only [Option.any_eq_true, decide_eq_true_eq]
    exact ⟨fun ⟨once, last⟩ => ⟨once, last⟩, fun ⟨once, last⟩ => ⟨once, last⟩⟩

/-! ## When it does -/

/-- Nothing is sent: the export is off, all observations are of one day, or a
holding has no row. -/
def Unsent (context : HistoryContext) (holdings : List Holding) : Prop :=
  context.exportHoldings = false ∨ (daysOf holdings).length ≤ 1 ∨
    ∃ holding ∈ positionHoldings holdings, ∀ row,
      mapHoldingToWfRow context.defaultCurrency (context.securityMap holding.securityId) holding ≠
        .ok row

/-- No other observation of its security is sent that day, and the last one of the
day, which may be kept back, does not close the security and has the same quantity
to the cent. -/
structure SpeaksForItsDay (holdings : List Holding) (holding : Holding) : Prop where
  alone : (observationsOf holding.day holding.securityId (positionHoldings holdings)).length = 1
  last : ∀ last, (observationsOf holding.day holding.securityId holdings).getLast? = some last →
    last.quantity ≠ 0 ∧ fmtDecimal (some last.quantity) = fmtDecimal (some holding.quantity)

/-! ## The positions of a snapshot -/

variable {context : HistoryContext} {holdings : List Holding}

theorem mem_of_mem_positionHoldings {holding : Holding}
    (isMem : holding ∈ positionHoldings holdings) : holding ∈ holdings :=
  List.mem_of_mem_filter (List.mem_of_mem_filter isMem)

theorem mem_observationsOf {date : Int} {security : String} {holding : Holding} :
    holding ∈ observationsOf date security holdings ↔
      holding ∈ holdings ∧ holding.day = date ∧ holding.securityId = security := by
  rw [observationsOf, List.mem_filter, decide_eq_true_eq]

/-- A day with an observation has a last one. -/
theorem exists_lastOfDay {holding : Holding} (isMem : holding ∈ holdings) :
    ∃ last, (observationsOf holding.day holding.securityId holdings).getLast? = some last :=
  ⟨_, List.getLast?_eq_some_getLast
    (List.ne_nil_of_mem (mem_observationsOf.mpr ⟨isMem, rfl, rfl⟩))⟩

/-- A position has the security and the quantity of its holding. -/
theorem datedPosition_ok {holding : Holding} {position : DatedPosition}
    (mapped : datedPosition context holding = .ok position) :
    position.securityId = holding.securityId ∧
      fmtDecimal (some holding.quantity) = .ok position.quantity := by
  obtain ⟨row, isRow, isPosition⟩ := bind_eq_ok.mp mapped
  cases isPosition
  obtain ⟨symbol, -, isRow⟩ := bind_eq_ok.mp isRow
  obtain ⟨quantity, isQuantity, isRow⟩ := bind_eq_ok.mp isRow
  obtain ⟨avgCost, -, isRow⟩ := bind_eq_ok.mp isRow
  cases isRow
  exact ⟨rfl, isQuantity⟩

theorem exists_datedPosition_iff {holding : Holding} :
    (∃ position, datedPosition context holding = .ok position) ↔
      ∃ row, mapHoldingToWfRow context.defaultCurrency (context.securityMap holding.securityId)
        holding = .ok row := by
  constructor
  · rintro ⟨position, mapped⟩
    obtain ⟨row, isRow, -⟩ := bind_eq_ok.mp mapped
    exact ⟨row, isRow⟩
  · rintro ⟨row, isRow⟩
    exact ⟨_, bind_eq_ok.mpr ⟨row, isRow, rfl⟩⟩

/-- The position of a holding that has a row. -/
def positionOf (context : HistoryContext) (holding : Holding) : DatedPosition :=
  (datedPosition context holding).toOption.getD default

theorem datedPosition_eq {holding : Holding}
    (mapped : ∃ position, datedPosition context holding = .ok position) :
    datedPosition context holding = .ok (positionOf context holding) := by
  obtain ⟨position, isPosition⟩ := mapped
  rw [positionOf, isPosition]
  rfl

/-- The snapshots are the groups of the positions by their days. -/
theorem snapshotsByDate_eq_ok {built : List DatedSnapshot} :
    snapshotsByDate context holdings = .ok built ↔
      (∀ holding ∈ positionHoldings holdings,
        ∃ position, datedPosition context holding = .ok position) ∧
      built = (groupsOf Prod.fst ((positionHoldings holdings).map fun holding =>
        (holding.day, positionOf context holding))).map fun (date, dated) =>
          { date, positions := dated.map Prod.snd } := by
  have pair (holding : Holding) :
      (∃ output, (do return (holding.day, ← datedPosition context holding) :
          Except MappingError (Int × DatedPosition)) = .ok output) ↔
        ∃ position, datedPosition context holding = .ok position := by
    constructor
    · rintro ⟨output, mapped⟩
      obtain ⟨position, isPosition, -⟩ := bind_eq_ok.mp mapped
      exact ⟨position, isPosition⟩
    · rintro ⟨position, isPosition⟩
      exact ⟨_, bind_eq_ok.mpr ⟨position, isPosition, rfl⟩⟩
  have pairs (mapped : ∀ holding ∈ positionHoldings holdings,
      ∃ position, datedPosition context holding = .ok position) :
      ((positionHoldings holdings).map fun holding =>
        ((do return (holding.day, ← datedPosition context holding) :
          Except MappingError (Int × DatedPosition))).toOption.getD default) =
        (positionHoldings holdings).map fun holding =>
          (holding.day, positionOf context holding) := by
    apply List.map_congr_left
    intro holding isMem
    rw [datedPosition_eq (mapped holding isMem)]
    rfl
  rw [snapshotsByDate, bind_eq_ok]
  constructor
  · rintro ⟨positions, isPositions, isBuilt⟩
    obtain ⟨mapped, rfl⟩ := (mapM_eq_ok default).mp isPositions
    have mapped := fun holding isMem => (pair holding).mp (mapped holding isMem)
    rw [pairs mapped] at isBuilt
    cases isBuilt
    exact ⟨mapped, rfl⟩
  · rintro ⟨mapped, rfl⟩
    refine ⟨_, (mapM_eq_ok default).mpr
      ⟨fun holding isMem => (pair holding).mpr (mapped holding isMem), rfl⟩, ?_⟩
    rw [pairs mapped]
    rfl

/-- The positions of a snapshot are those of the holdings of its day. -/
theorem positions_of_mem {built : List DatedSnapshot}
    (succeeds : snapshotsByDate context holdings = .ok built) {snapshot : DatedSnapshot}
    (isMem : snapshot ∈ built) :
    snapshot.positions = ((positionHoldings holdings).filter (·.day = snapshot.date)).map
      (positionOf context) := by
  obtain ⟨-, rfl⟩ := snapshotsByDate_eq_ok.mp succeeds
  obtain ⟨⟨date, dated⟩, isGroup, rfl⟩ := List.mem_map.mp isMem
  obtain ⟨-, isDated⟩ := mem_groupsOf.mp isGroup
  dsimp only at isDated ⊢
  rw [isDated, List.filter_map, List.map_map]
  rfl

/-- The day of a holding that is sent has a snapshot. -/
theorem exists_snapshot {built : List DatedSnapshot}
    (succeeds : snapshotsByDate context holdings = .ok built) {holding : Holding}
    (isMem : holding ∈ positionHoldings holdings) :
    ∃ snapshot ∈ built, snapshot.date = holding.day := by
  obtain ⟨-, rfl⟩ := snapshotsByDate_eq_ok.mp succeeds
  have isGroup : (holding.day, ((positionHoldings holdings).map fun holding =>
      (holding.day, positionOf context holding)).filter fun row => row.1 = holding.day) ∈
        groupsOf Prod.fst ((positionHoldings holdings).map fun holding =>
          (holding.day, positionOf context holding)) := by
    refine mem_groupsOf.mpr ⟨?_, rfl⟩
    exact List.mem_map.mpr ⟨_, List.mem_map_of_mem isMem, rfl⟩
  exact ⟨_, List.mem_map_of_mem isGroup, rfl⟩

/-! ## What is sent -/

variable {rejects : List DatedSnapshot → Bool} {accountId accountName : String}
  {stored : List Holding}

/-- Snapshots are sent where they could be built for several days. -/
theorem sent_of_built (exports : context.exportHoldings = true)
    (several : 1 < (daysOf (fetchHistoricalHoldings accountId stored)).length)
    {built : List DatedSnapshot}
    (succeeds : snapshotsByDate context (fetchHistoricalHoldings accountId stored) = .ok built) :
    ∃ outcome, syncHistoricalHoldings context rejects accountId accountName stored = .ok outcome ∧
      ∀ snapshot, snapshot ∈ outcome.sent ↔ snapshot ∈ built ∧
        (snapshot.positions.length ≠ 0 ∨ snapshot.cashBalances.length ≠ 0) := by
  rw [syncHistoricalHoldings, if_neg (by simp [exports])]
  dsimp only
  rw [if_neg (not_le.mpr several), succeeds]
  dsimp only
  split
  · next isEmpty =>
      refine ⟨_, rfl, fun snapshot => ?_⟩
      dsimp only
      rw [← List.length_eq_zero_iff.mp isEmpty, List.mem_filter, decide_eq_true_eq]
  · refine ⟨_, rfl, fun snapshot => ?_⟩
    rw [List.mem_filter, decide_eq_true_eq]

/-- What is sent was built, and the account was not held back. -/
theorem built_of_sent {outcome : HistoryOutcome}
    (synced : syncHistoricalHoldings context rejects accountId accountName stored = .ok outcome)
    {snapshot : DatedSnapshot} (isMem : snapshot ∈ outcome.sent) :
    context.exportHoldings = true ∧ 1 < (daysOf (fetchHistoricalHoldings accountId stored)).length ∧
      ∃ built, snapshotsByDate context (fetchHistoricalHoldings accountId stored) = .ok built ∧
        snapshot ∈ built := by
  rw [syncHistoricalHoldings] at synced
  split at synced
  · cases synced
    nomatch isMem
  · next exports =>
    dsimp only at synced
    split at synced
    · cases synced
      nomatch isMem
    · next several =>
      split at synced
      · cases synced
        nomatch isMem
      · cases synced
      · next built succeeds =>
          split at synced
          · cases synced
            nomatch isMem
          · cases synced
            exact ⟨by simpa using exports, not_le.mp several, built, succeeds,
              List.mem_of_mem_filter isMem⟩

/-- The account has a snapshot to send exactly where it is not held back. -/
theorem not_unsent_iff {holdings : List Holding} :
    ¬Unsent context holdings ↔ context.exportHoldings = true ∧ 1 < (daysOf holdings).length ∧
      ∃ built, snapshotsByDate context holdings = .ok built := by
  have maps : (∃ built, snapshotsByDate context holdings = .ok built) ↔
      ¬∃ holding ∈ positionHoldings holdings, ∀ row,
        mapHoldingToWfRow context.defaultCurrency (context.securityMap holding.securityId)
          holding ≠ .ok row := by
    simp only [snapshotsByDate_eq_ok, exists_datedPosition_iff]
    push Not
    constructor
    · rintro ⟨built, mapped, -⟩
      exact mapped
    · intro mapped
      exact ⟨_, mapped, rfl⟩
  rw [Unsent, maps]
  push Not
  simp only [Bool.not_eq_false]

/-! ## A snapshot against its day -/

/-- The securities of the positions of a day are those of its holdings. -/
theorem securities_of_mem {built : List DatedSnapshot}
    (succeeds : snapshotsByDate context holdings = .ok built) {snapshot : DatedSnapshot}
    (isMem : snapshot ∈ built) :
    snapshot.positions.map DatedPosition.securityId =
      ((positionHoldings holdings).filter (·.day = snapshot.date)).map Holding.securityId := by
  rw [positions_of_mem succeeds isMem, List.map_map]
  apply List.map_congr_left
  intro holding isHolding
  obtain ⟨mapped, -⟩ := snapshotsByDate_eq_ok.mp succeeds
  exact (datedPosition_ok (datedPosition_eq
    (mapped holding (List.mem_of_mem_filter isHolding)))).1

/-- No security occurs twice among the holdings of a day exactly where every one of
them is alone. -/
theorem nodup_securities_iff {date : Int} :
    (((positionHoldings holdings).filter (·.day = date)).map Holding.securityId).Nodup ↔
      ∀ holding ∈ positionHoldings holdings, holding.day = date →
        (observationsOf date holding.securityId (positionHoldings holdings)).length = 1 := by
  have counted (security : String) :
      (((positionHoldings holdings).filter (·.day = date)).map Holding.securityId).count security =
        (observationsOf date security (positionHoldings holdings)).length := by
    rw [List.count_eq_length_filter, List.filter_map, List.length_map, List.filter_filter,
      observationsOf]
    apply congrArg List.length
    apply List.filter_congr
    intro holding _
    by_cases isDay : holding.day = date
    · simp only [isDay, decide_true, Bool.and_true, true_and]
      exact beq_eq_decide ..
    · simp [isDay]
  rw [List.nodup_iff_count_le_one]
  constructor
  · intro atMostOne holding isMem isDay
    have here : holding ∈ observationsOf date holding.securityId (positionHoldings holdings) :=
      mem_observationsOf.mpr ⟨isMem, isDay, rfl⟩
    have atMost := atMostOne holding.securityId
    rw [counted] at atMost
    exact le_antisymm atMost (List.length_pos_of_mem here)
  · intro alone security
    rw [counted]
    by_contra! several
    obtain ⟨holding, isMem⟩ := List.exists_mem_of_length_pos (Nat.zero_lt_of_lt several)
    obtain ⟨isSent, isDay, rfl⟩ := mem_observationsOf.mp isMem
    have := alone holding isSent isDay
    omega

/-- A snapshot holds its day exactly where every holding that is sent speaks for it. -/
theorem holdsOnce_iff_of_mem {built : List DatedSnapshot}
    (succeeds : snapshotsByDate context holdings = .ok built) {snapshot : DatedSnapshot}
    (isMem : snapshot ∈ built) :
    HoldsOnce holdings snapshot ↔
      ∀ holding ∈ positionHoldings holdings, holding.day = snapshot.date →
        SpeaksForItsDay holdings holding := by
  have positions := positions_of_mem succeeds isMem
  obtain ⟨mapped, -⟩ := snapshotsByDate_eq_ok.mp succeeds
  have position {holding : Holding} (isSent : holding ∈ positionHoldings holdings) :=
    datedPosition_ok (datedPosition_eq (mapped holding isSent))
  constructor
  · intro holdsOnce holding isSent isDay
    have alone := nodup_securities_iff.mp
      (securities_of_mem succeeds isMem ▸ holdsOnce.once) holding isSent isDay
    refine ⟨isDay ▸ alone, fun last isLast => ?_⟩
    have isPosition : positionOf context holding ∈ snapshot.positions := by
      rw [positions]
      exact List.mem_map_of_mem (List.mem_filter.mpr ⟨isSent, decide_eq_true isDay⟩)
    obtain ⟨found, isFound, opened, quantity⟩ := holdsOnce.last _ isPosition
    rw [(position isSent).1, ← isDay, isLast] at isFound
    cases isFound
    exact ⟨opened, quantity.trans (position isSent).2.symm⟩
  · intro speaks
    constructor
    · rw [securities_of_mem succeeds isMem]
      refine nodup_securities_iff.mpr fun holding isSent isDay => ?_
      exact isDay ▸ (speaks holding isSent isDay).alone
    · intro sent isPosition
      rw [positions] at isPosition
      obtain ⟨holding, isHolding, rfl⟩ := List.mem_map.mp isPosition
      obtain ⟨isSent, isDay⟩ := List.mem_filter.mp isHolding
      rw [decide_eq_true_eq] at isDay
      obtain ⟨last, isLast⟩ := exists_lastOfDay (mem_of_mem_positionHoldings isSent)
      obtain ⟨opened, quantity⟩ := (speaks holding isSent isDay).last last isLast
      rw [isDay] at isLast
      rw [(position isSent).1]
      refine ⟨last, isLast, ?_⟩
      exact ⟨opened, quantity.trans (position isSent).2⟩

/-- The snapshots that are sent hold every security once, with the quantity of the
last observation of the day, exactly where every holding that is sent speaks for its
day. -/
theorem sent_holdsOnce_iff (context : HistoryContext) (rejects : List DatedSnapshot → Bool)
    (accountId accountName : String) (stored : List Holding) :
    (∀ outcome, syncHistoricalHoldings context rejects accountId accountName stored = .ok outcome →
      ∀ snapshot ∈ outcome.sent,
        HoldsOnce (fetchHistoricalHoldings accountId stored) snapshot) ↔
      Unsent context (fetchHistoricalHoldings accountId stored) ∨
        ∀ holding ∈ positionHoldings (fetchHistoricalHoldings accountId stored),
          SpeaksForItsDay (fetchHistoricalHoldings accountId stored) holding := by
  constructor
  · intro holdsOnce
    by_contra! unspoken
    obtain ⟨isSent, holding, isMem, silent⟩ := unspoken
    obtain ⟨exports, several, built, succeeds⟩ := not_unsent_iff.mp isSent
    obtain ⟨outcome, synced, sent⟩ := sent_of_built exports several succeeds
    obtain ⟨snapshot, isBuilt, isDay⟩ := exists_snapshot succeeds isMem
    have positions : snapshot.positions.length ≠ 0 := by
      rw [positions_of_mem succeeds isBuilt, List.length_map]
      exact (List.length_pos_of_mem
        (List.mem_filter.mpr ⟨isMem, decide_eq_true isDay.symm⟩)).ne'
    have once := holdsOnce outcome synced snapshot ((sent snapshot).mpr ⟨isBuilt, .inl positions⟩)
    exact silent ((holdsOnce_iff_of_mem succeeds isBuilt).mp once holding isMem isDay.symm)
  · intro condition outcome synced snapshot isSent
    obtain ⟨exports, several, built, succeeds, isBuilt⟩ := built_of_sent synced isSent
    refine (holdsOnce_iff_of_mem succeeds isBuilt).mpr fun holding isMem _ => ?_
    rcases condition with unsent | speaks
    · exact absurd unsent (not_unsent_iff.mpr ⟨exports, several, built, succeeds⟩)
    · exact speaks holding isMem

/-- An observation of one euro for each unit, of the account that is synced. -/
def observed (id securityId : String) (observedAt : Instant) (quantity : ℚ) : Holding where
  id := id
  accountId := "account-1"
  securityId := securityId
  observedAt := observedAt
  quantity := quantity
  costBasis := some quantity
  marketValue := some quantity
  currencyCode := "EUR"
  price := none

/-- A position that is closed in the afternoon, and another one the day after. -/
def closedIntraday : List Holding :=
  [observed "holding-1" "security-1" 1704099600000000 10,
    observed "holding-2" "security-1" 1704124800000000 0,
    observed "holding-3" "security-2" 1704186000000000 5]

/-- An export in which every security is its own ticker. -/
def plainHistory : HistoryContext where
  exportHoldings := true
  defaultCurrency := "EUR"
  securityMap security := some
    { id := security, isin := none, ticker := some security, name := security,
      securityType := "STOCK" }
  openCostBasis _ := none

/-- The position that the day closed is sent for it. -/
theorem closed_position_sent :
    ¬∀ outcome, syncHistoricalHoldings plainHistory (fun _ => false) "account-1" "Broker"
        closedIntraday = .ok outcome →
      ∀ snapshot ∈ outcome.sent,
        HoldsOnce (fetchHistoricalHoldings "account-1" closedIntraday) snapshot := by
  intro holds
  have sent : ∃ outcome, syncHistoricalHoldings plainHistory (fun _ => false) "account-1" "Broker"
      closedIntraday = .ok outcome ∧ ∃ snapshot ∈ outcome.sent,
        ¬HoldsOnce (fetchHistoricalHoldings "account-1" closedIntraday) snapshot :=
    exists_ok_of_map (by decide +kernel)
  obtain ⟨outcome, synced, snapshot, isSent, fails⟩ := sent
  exact fails (holds outcome synced snapshot isSent)

end FinanceSync.Wealthfolio
