import FinanceSync.Fx.Layers
import FinanceSync.Lib.Fallible
import FinanceSync.Portfolio.Performance

/-!
# Allocation totals

How `AllocationService` breaks the latest holdings down by asset class, sector and
region, for the portfolio and for each account.  Holdings of another currency than the
target are converted at the rate that the FX service finds; the others keep the
amount in their own currency.
-/

namespace FinanceSync.Portfolio

open Lib Fx

/-! ## Conversion -/

/-- `number.quantize(Decimal("0.01"), rounding="ROUND_HALF_UP")` -/
def quantizeHalfUp (number : ℚ) : ℚ :=
  if number < 0 then -((-number * 100 + 1 / 2).floor / 100) else (number * 100 + 1 / 2).floor / 100

/-- The converted amount of `FxService.convert` at the current rate. -/
def convert (settings : Settings) (service : FxService) (clock : Clock)
    (fromCurrency toCurrency : String) (amount : ℚ) : Except DecimalError (Option ℚ) :=
  if fromCurrency = toCurrency then .ok (some amount)
  else
    (service.getRate settings clock fromCurrency toCurrency none).result.map fun observation =>
      observation.map fun observation => quantizeHalfUp (amount * observation.rate)

/-! ## Holdings -/

structure AllocationAccount where
  name : String
  accountType : String

/-- What the service reads besides the holdings. -/
structure AllocationContext where
  settings : Settings
  /-- The clocks when a holding is converted. -/
  clock : Holding → Clock
  /-- `str` of an id -/
  idText : Uuid → String
  account : Uuid → Option AllocationAccount
  securityType : Uuid → Option String
  sector : Uuid → Option String
  region : Uuid → Option String

/-- `_HoldingAlloc` -/
structure HoldingAlloc where
  securityId : Uuid
  accountId : Uuid
  accountName : String
  accountType : String
  assetClass : String
  sector : String
  region : String
  value : ℚ
  nativeValue : ℚ
  nativeCurrency : String
  effectiveCurrency : String
deriving Inhabited

/-- `_UNCLASSIFIED` -/
def unclassified : String := "Unclassified"

/-- A holding, and the FX service when its turn comes. -/
structure Turn where
  fxService : Option FxService
  holding : Holding

variable (context : AllocationContext) (targetCurrency : Option String)

/-- The pair that is asked for, if the holding is to be converted. -/
def Turn.request (turn : Turn) : Option (FxService × String) :=
  match targetCurrency, turn.fxService with
  | some target, some service =>
      if turn.holding.currencyCode ≠ target ∧ 0 < turn.holding.value then some (service, target)
      else none
  | _, _ => none

/-- The converted value, if the holding is to be converted and there is a rate. -/
def Turn.conversion (turn : Turn) : Except DecimalError (Option ℚ) :=
  match turn.request targetCurrency with
  | none => .ok none
  | some (service, target) =>
      convert context.settings service (context.clock turn.holding) turn.holding.currencyCode
        target turn.holding.value

/-- The FX service after the turn of a holding. -/
def Turn.serviceAfter (turn : Turn) : Option FxService :=
  match turn.request targetCurrency with
  | none => turn.fxService
  | some (service, target) =>
      some (service.serve context.settings
        (.getRate (context.clock turn.holding) turn.holding.currencyCode target none))

def turns : Option FxService → List Holding → List Turn
  | _, [] => []
  | fxService, holding :: holdings =>
      let turn : Turn := { fxService, holding }
      turn :: turns (turn.serviceAfter context targetCurrency) holdings

/-- The allocation of a holding. -/
def holdingAlloc (turn : Turn) : Except DecimalError HoldingAlloc :=
  let holding := turn.holding
  let account := context.account holding.accountId
  (turn.conversion context targetCurrency).map fun converted =>
    { securityId := holding.securityId
      accountId := holding.accountId
      accountName := (account.map AllocationAccount.name).getD (context.idText holding.accountId)
      accountType := (account.map AllocationAccount.accountType).getD "unknown"
      assetClass := (context.securityType holding.securityId).getD "other"
      sector := (context.sector holding.securityId).getD unclassified
      region := (context.region holding.securityId).getD unclassified
      value := converted.getD holding.value
      nativeValue := holding.value
      nativeCurrency := holding.currencyCode
      effectiveCurrency :=
        if converted.isSome then targetCurrency.getD holding.currencyCode
        else holding.currencyCode }

/-! ## Breakdowns -/

/-- A single allocation category with its value and weight. -/
structure AllocationBucket where
  name : String
  value : ℚ
  percentage : ℚ

/-- The attribute that a breakdown groups by. -/
inductive Dimension
  | assetClass
  | sector
  | region
deriving DecidableEq

def Dimension.key : Dimension → HoldingAlloc → String
  | assetClass => HoldingAlloc.assetClass
  | sector => HoldingAlloc.sector
  | region => HoldingAlloc.region

/-- `_safe_pct` -/
def safePct (part total : ℚ) : ℚ := if total = 0 then 0 else quantize 2 (part / total * 100)

/-- `_aggregate_buckets`, highest value first. -/
def aggregateBuckets (items : List HoldingAlloc) (dimension : Dimension) (total : ℚ) :
    List AllocationBucket :=
  let buckets := groupTotals (items.map fun item => (dimension.key item, item.value))
  ((OrderBy.stable fun bucket : String × ℚ => -bucket.2).sort buckets).map fun (name, value) =>
    { name, value, percentage := safePct value total }

/-- Per-account allocation breakdown. -/
structure AccountAllocationBreakdown where
  accountId : Uuid
  accountName : String
  accountType : String
  totalValue : ℚ
  buckets : Dimension → List AllocationBucket

/-- Top-level allocation summary for a tenant's portfolio. -/
structure AllocationResponse where
  totalValue : ℚ
  currencyCode : String
  buckets : Dimension → List AllocationBucket
  accounts : List AccountAllocationBreakdown

def totalOf (items : List HoldingAlloc) : ℚ := (items.map HoldingAlloc.value).sum

def accountBreakdown (accountId : Uuid) (items : List HoldingAlloc) :
    AccountAllocationBreakdown where
  accountId
  accountName := (items.head?.map HoldingAlloc.accountName).getD ""
  accountType := (items.head?.map HoldingAlloc.accountType).getD ""
  totalValue := totalOf items
  buckets dimension := aggregateBuckets items dimension (totalOf items)

/-- `_pick_dominant_currency`, the most common currency; of several the one that occurs
first. -/
def pickDominantCurrency (currencies : List String) : String :=
  let counts := groupTotals (currencies.map fun currency => (currency, 1))
  match ((OrderBy.stable fun count : String × Int => -count.2).sort counts).head? with
  | none => "EUR"
  | some (currency, _) => currency

/-- `target_currency or …` -/
def reportedCurrency (currencies : List String) : String :=
  match targetCurrency with
  | some target => if target = "" then pickDominantCurrency currencies else target
  | none => pickDominantCurrency currencies

/-- The breakdowns of the allocations. -/
def respond (allocs : List HoldingAlloc) : AllocationResponse where
  totalValue := totalOf allocs
  currencyCode := reportedCurrency targetCurrency (allocs.map HoldingAlloc.nativeCurrency)
  buckets dimension := aggregateBuckets allocs dimension (totalOf allocs)
  accounts := (groupsOf HoldingAlloc.accountId allocs).map fun (accountId, items) =>
    accountBreakdown accountId items

/-- The answer without holdings. -/
def noAllocation : AllocationResponse where
  totalValue := 0
  currencyCode := "EUR"
  buckets _ := []
  accounts := []

/-- `get_allocation` of the latest holdings. -/
def getAllocation (fxService : Option FxService) (holdings : List Holding) :
    Except DecimalError AllocationResponse :=
  if holdings = [] then .ok noAllocation
  else do
    let allocs ← (turns context targetCurrency fxService holdings).mapM
      (holdingAlloc context targetCurrency)
    return respond targetCurrency allocs

/-! ## Partitions -/

/-- The number with two decimals that is nearest, the even one of two. -/
def RoundedToCents (rounded number : ℚ) : Prop :=
  ∃ cents : Int, rounded = cents / 100 ∧ IsNearest (number * 100) cents

/-- Buckets of different names that add up to the total, each with its part of it. -/
structure IsBreakdown (total : ℚ) (buckets : List AllocationBucket) : Prop where
  names : (buckets.map AllocationBucket.name).Nodup
  sum : (buckets.map AllocationBucket.value).sum = total
  rounded : total ≠ 0 → ∀ bucket ∈ buckets,
    RoundedToCents bucket.percentage (bucket.value / total * 100)
  noParts : total = 0 → ∀ bucket ∈ buckets, bucket.percentage = 0

/-- Every breakdown adds up to its total, and the accounts to that of the portfolio. -/
structure IsPartition (response : AllocationResponse) : Prop where
  portfolio : ∀ dimension, IsBreakdown response.totalValue (response.buckets dimension)
  accounts : ∀ account ∈ response.accounts, ∀ dimension,
    IsBreakdown account.totalValue (account.buckets dimension)
  sum : (response.accounts.map AccountAllocationBreakdown.totalValue).sum = response.totalValue

theorem isBreakdown_aggregateBuckets (items : List HoldingAlloc) (dimension : Dimension) :
    IsBreakdown (totalOf items) (aggregateBuckets items dimension (totalOf items)) := by
  let order : OrderBy fun bucket : String × ℚ => -bucket.2 := OrderBy.stable _
  let totals := groupTotals (items.map fun item => (dimension.key item, item.value))
  have buckets : aggregateBuckets items dimension (totalOf items) =
      (order.sort totals).map fun bucket =>
        ⟨bucket.1, bucket.2, safePct bucket.2 (totalOf items)⟩ := rfl
  rw [buckets]
  constructor
  · rw [List.map_map]
    exact ((order.perm totals).map Prod.fst).nodup_iff.mpr (nodup_keys_groupTotals _)
  · rw [List.map_map]
    calc ((order.sort totals).map Prod.snd).sum = (totals.map Prod.snd).sum :=
          ((order.perm totals).map Prod.snd).sum_eq
      _ = ((items.map fun item => (dimension.key item, item.value)).map Prod.snd).sum :=
          sum_groupTotals _
      _ = totalOf items := by rw [List.map_map]; rfl
  · intro notZero bucket bucketMem
    obtain ⟨entry, -, rfl⟩ := List.mem_map.mp bucketMem
    refine ⟨_, ?_, isNearest_roundHalfEven _⟩
    rw [safePct, if_neg notZero, quantize]
    norm_num
  · intro isZero bucket bucketMem
    obtain ⟨entry, -, rfl⟩ := List.mem_map.mp bucketMem
    exact if_pos isZero

theorem isPartition_respond (targetCurrency : Option String) (allocs : List HoldingAlloc) :
    IsPartition (respond targetCurrency allocs) where
  portfolio := isBreakdown_aggregateBuckets allocs
  accounts account accountMem := by
    obtain ⟨group, -, rfl⟩ := List.mem_map.mp accountMem
    exact isBreakdown_aggregateBuckets group.2
  sum := by
    rw [respond, List.map_map]
    exact sum_groupsOf HoldingAlloc.accountId HoldingAlloc.value allocs

theorem isPartition_noAllocation : IsPartition noAllocation where
  portfolio _ := ⟨List.nodup_nil, rfl, nofun, nofun⟩
  accounts := nofun
  sum := rfl

/-! ## Amounts in the target currency -/

/-- What a holding counts for: its value in the target currency, or in its own where no
target is given, there is no FX service or it finds no rate. -/
def Turn.countedValue (turn : Turn) : ℚ :=
  match targetCurrency, turn.fxService with
  | some target, some service =>
      match convert context.settings service (context.clock turn.holding)
          turn.holding.currencyCode target turn.holding.value with
      | .ok (some converted) => converted
      | _ => turn.holding.value
  | _, _ => turn.holding.value

/-- The market value in a currency, if it is in that currency or there is a rate. -/
def Turn.valueIn (currency : String) (turn : Turn) : Option ℚ :=
  if turn.holding.currencyCode = currency then some turn.holding.value
  else
    match turn.fxService with
    | none => none
    | some service =>
        (convert context.settings service (context.clock turn.holding)
          turn.holding.currencyCode currency turn.holding.value).toOption.join

/-- The total is the sum of the values in the reported currency, and of nothing else. -/
def InOneCurrency (turns : List Turn) (response : AllocationResponse) : Prop :=
  response.totalValue =
    (turns.map fun turn => (turn.valueIn context response.currencyCode).getD 0).sum

/-- No holding of another currency than the target has a negative value. -/
def NoForeignShorts (holdings : List Holding) : Prop :=
  ∀ target ∈ targetCurrency, ∀ holding ∈ holdings, holding.currencyCode ≠ target →
    0 ≤ holding.value

/-- The FX service after what it was asked before, if there is one. -/
def reachedService (settings : Settings)
    (history : Option (List FxRate × List FxService.Input)) : Option FxService :=
  history.map fun (rows, inputs) =>
    runAll (FxService.serve settings) (FxService.start rows) inputs

section Conversion

variable {context : AllocationContext} {targetCurrency : Option String}

theorem sound_reachedService (settings : Settings)
    (history : Option (List FxRate × List FxService.Input)) :
    ∀ service ∈ reachedService settings history, service.Sound := by
  intro service present
  obtain ⟨⟨rows, inputs⟩, -, rfl⟩ := Option.map_eq_some_iff.mp present
  exact FxService.runAll_sound settings rows inputs

/-- A sound service does not raise. -/
theorem getRate_ok {service : FxService} (sound : service.Sound) (settings : Settings)
    (clock : Clock) (fromCurrency toCurrency : String) :
    ∃ answer,
      (service.getRate settings clock fromCurrency toCurrency none).result = .ok answer := by
  by_cases same : fromCurrency = toCurrency
  · rw [FxService.getRate, if_pos same]
    exact ⟨_, rfl⟩
  · rw [FxService.getRate_result same]
    obtain ⟨answer, found, inRange⟩ := sound.found_ok settings clock
      (canonicalisePair fromCurrency toCurrency).base
      (canonicalisePair fromCurrency toCurrency).quote none
    rw [found]
    cases answer with
    | none => exact ⟨none, rfl⟩
    | some observation =>
        simp only [Except.bind, CanonicalPair.orient]
        split
        · obtain ⟨inverse, inverted, -⟩ :=
            FxRateObservation.inverse_inRange (inRange observation rfl)
          exact ⟨some inverse, by rw [inverted]; rfl⟩
        · exact ⟨_, rfl⟩

theorem convert_ok {service : FxService} (sound : service.Sound) (settings : Settings)
    (clock : Clock) (fromCurrency toCurrency : String) (amount : ℚ) :
    ∃ converted, convert settings service clock fromCurrency toCurrency amount =
      .ok converted := by
  unfold convert
  split
  · exact ⟨_, rfl⟩
  · obtain ⟨answer, result⟩ := getRate_ok sound settings clock fromCurrency toCurrency
    rw [result]
    exact ⟨_, rfl⟩

theorem quantizeHalfUp_zero : quantizeHalfUp 0 = 0 := by
  have floor : ((0 : ℚ) * 100 + 1 / 2).floor = 0 := by decide +kernel
  rw [quantizeHalfUp, if_neg (lt_irrefl 0), floor]
  simp

theorem convert_zero {settings : Settings} {service : FxService} {clock : Clock}
    {fromCurrency toCurrency : String} {converted : ℚ}
    (found : convert settings service clock fromCurrency toCurrency 0 = .ok (some converted)) :
    converted = 0 := by
  unfold convert at found
  split at found
  · exact (Option.some.inj (Except.ok.inj found)).symm
  · cases result : (service.getRate settings clock fromCurrency toCurrency none).result with
    | error error =>
        rw [result] at found
        cases found
    | ok answer =>
        rw [result] at found
        obtain ⟨observation, -, isAmount⟩ :=
          Option.map_eq_some_iff.mp (Except.ok.inj found)
        rw [← isAmount, zero_mul, quantizeHalfUp_zero]

/-- What is asked for is a positive value in another currency. -/
theorem request_eq_some {turn : Turn} {service : FxService} {target : String}
    (request : turn.request targetCurrency = some (service, target)) :
    targetCurrency = some target ∧ turn.fxService = some service := by
  unfold Turn.request at request
  split at request
  · next other otherService =>
      split at request
      · cases request
        exact ⟨rfl, otherService⟩
      · cases request
  · cases request

theorem sound_serviceAfter {turn : Turn} (sound : ∀ service ∈ turn.fxService, service.Sound) :
    ∀ service ∈ turn.serviceAfter context targetCurrency, service.Sound := by
  unfold Turn.serviceAfter
  split
  · exact sound
  · next service target request =>
      intro after isAfter
      rw [← Option.some.inj isAfter]
      exact FxService.serve_sound (sound service (request_eq_some request).2) _

/-- The service stays sound over all turns. -/
theorem sound_turns {fxService : Option FxService} (holdings : List Holding)
    (sound : ∀ service ∈ fxService, service.Sound) :
    ∀ turn ∈ turns context targetCurrency fxService holdings,
      ∀ service ∈ turn.fxService, service.Sound := by
  induction holdings generalizing fxService with
  | nil => exact nofun
  | cons holding holdings ih =>
      intro turn turnMem
      cases turnMem with
      | head => exact sound
      | tail _ later => exact ih (sound_serviceAfter sound) turn later

theorem holding_of_mem_turns {fxService : Option FxService} {holdings : List Holding} :
    ∀ turn ∈ turns context targetCurrency fxService holdings, turn.holding ∈ holdings := by
  induction holdings generalizing fxService with
  | nil => exact nofun
  | cons holding holdings ih =>
      intro turn turnMem
      cases turnMem with
      | head => exact List.mem_cons_self
      | tail _ later => exact List.mem_cons_of_mem _ (ih turn later)

variable (context targetCurrency)

/-- A turn raises nothing, and its value is the counted one, unless it is of a short
position in another currency. -/
theorem conversion_ok {turn : Turn} (sound : ∀ service ∈ turn.fxService, service.Sound) :
    ∃ converted, turn.conversion context targetCurrency = .ok converted ∧
      ((∀ target ∈ targetCurrency, turn.holding.currencyCode ≠ target →
          0 ≤ turn.holding.value) →
        converted.getD turn.holding.value = turn.countedValue context targetCurrency) := by
  unfold Turn.conversion Turn.countedValue Turn.request
  cases targetCurrency with
  | none => exact ⟨none, rfl, fun _ => rfl⟩
  | some target =>
      cases isService : turn.fxService with
      | none => exact ⟨none, rfl, fun _ => rfl⟩
      | some service =>
          obtain ⟨converted, found⟩ := convert_ok (sound service isService) context.settings
            (context.clock turn.holding) turn.holding.currencyCode target turn.holding.value
          by_cases asked : turn.holding.currencyCode ≠ target ∧ 0 < turn.holding.value
          · simp only [if_pos asked, found]
            refine ⟨converted, rfl, fun _ => ?_⟩
            cases converted with
            | none => rfl
            | some amount => rfl
          · simp only [if_neg asked, found]
            refine ⟨none, rfl, fun noShort => ?_⟩
            cases converted with
            | none => rfl
            | some amount =>
                by_cases same : turn.holding.currencyCode = target
                · rw [convert, if_pos same] at found
                  exact Option.some.inj (Except.ok.inj found)
                · have isZero : turn.holding.value = 0 :=
                    le_antisymm (not_lt.mp fun positive => asked ⟨same, positive⟩)
                      (noShort target rfl same)
                  rw [isZero] at found
                  rw [Option.getD_none, isZero, convert_zero found]

theorem countedValue_of_valueIn {turn : Turn} {target : String} {value : ℚ}
    (found : turn.valueIn context target = some value) :
    turn.countedValue context (some target) = value := by
  unfold Turn.valueIn at found
  unfold Turn.countedValue
  split at found
  · next same =>
      cases turn.fxService with
      | none => exact Option.some.inj found
      | some service =>
          simp only [convert, if_pos same]
          exact Option.some.inj found
  · cases isService : turn.fxService with
    | none =>
        rw [isService] at found
        cases found
    | some service =>
        simp only [isService] at found
        cases converted : convert context.settings service (context.clock turn.holding)
            turn.holding.currencyCode target turn.holding.value with
        | error error =>
            rw [converted] at found
            cases found
        | ok answer =>
            rw [converted] at found
            cases found
            simp only [converted]

/-- The allocations of the turns, with the counted values. -/
theorem allocs_ok {fxService : Option FxService} (holdings : List Holding)
    (sound : ∀ service ∈ fxService, service.Sound) :
    ∃ allocs, (turns context targetCurrency fxService holdings).mapM
        (holdingAlloc context targetCurrency) = .ok allocs ∧
      (NoForeignShorts targetCurrency holdings →
        totalOf allocs = ((turns context targetCurrency fxService holdings).map
          (Turn.countedValue context targetCurrency)).sum) := by
  have each : ∀ turn ∈ turns context targetCurrency fxService holdings, ∃ alloc,
      holdingAlloc context targetCurrency turn = .ok alloc ∧
        (NoForeignShorts targetCurrency holdings →
          alloc.value = turn.countedValue context targetCurrency) := by
    intro turn turnMem
    obtain ⟨converted, found, counted⟩ :=
      conversion_ok context targetCurrency (sound_turns holdings sound turn turnMem)
    rw [holdingAlloc, found]
    refine ⟨_, rfl, fun noShorts => counted fun target isTarget => ?_⟩
    exact noShorts target isTarget turn.holding (holding_of_mem_turns turn turnMem)
  refine ⟨_, (mapM_eq_ok default).mpr ⟨fun turn turnMem => ?_, rfl⟩, fun noShorts => ?_⟩
  · obtain ⟨alloc, found, -⟩ := each turn turnMem
    exact ⟨alloc, found⟩
  · rw [totalOf, List.map_map]
    congr 1
    apply List.map_congr_left
    intro turn turnMem
    obtain ⟨alloc, found, counted⟩ := each turn turnMem
    rw [Function.comp_apply, found]
    exact counted noShorts

end Conversion

def bareContext : AllocationContext where
  settings := { fxRateCacheTtlSeconds := 86400, order := OrderBy.stable _ }
  clock _ := ⟨0, 0⟩
  idText := toString
  account _ := none
  securityType _ := none
  sector _ := none
  region _ := none

/-- A thousand kronor, for which no rate to euros is stored. -/
def kronorHolding : Holding where
  id := 1
  accountId := 2
  securityId := 3
  observedAt := 0
  quantity := 10
  marketValue := some 1000
  currencyCode := "SEK"
  source := .providerSync

end FinanceSync.Portfolio
