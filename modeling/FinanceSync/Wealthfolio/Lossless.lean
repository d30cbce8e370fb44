import FinanceSync.Wealthfolio.HoldingRows

/-!
# What the rows keep of a number

The canonical numbers have up to eight decimals and the formatter keeps two.  A
row therefore says the same as its record exactly where the record has whole
cents: quantities, prices and rates included.
-/

namespace FinanceSync.Wealthfolio

/-! ## What a transaction stands for -/

/-- The unit price of a trade: that of the provider, or the principal for each
unit. -/
def tradePrice (txn : Transaction) : ℚ :=
  let principal := |txn.amount| / |txn.quantity.getD 0|
  match txn.unitPrice with
  | some price => if price ≤ 0 then principal else price
  | none => principal

/-- The quantity a transaction stands for. -/
def canonicalQuantity (txn : Transaction) : ℚ :=
  match resolveActivityType txn with
  | .buy | .sell => |txn.quantity.getD 0|
  | .adjustment | .dividend => absOrOne txn.quantity
  | _ => 1

/-- The price of one unit that a transaction stands for. -/
def canonicalUnitPrice (txn : Transaction) (security : Option Security) : ℚ :=
  match resolveActivityType txn with
  | .buy | .sell => tradePrice txn
  | .adjustment => absOrOne txn.unitPrice
  | .dividend | .unknown => |txn.amount|
  | .interest | .fee | .transferIn | .transferOut => if security.isSome then |txn.amount| else 1
  | .deposit | .withdrawal | .tax | .credit | .split => 1

theorem resolveQuantityPrice_trade {txn : Transaction} {activityType : ActivityType}
    (trade : activityType = .buy ∨ activityType = .sell) (security : Option Security) :
    resolveQuantityPrice txn activityType security =
      if txn.quantity.getD 0 = 0 then .error (.valueError "Trade heeft geen geldige quantity.")
      else if tradePrice txn ≤ 0 then
        .error (.valueError "Trade heeft geen geldige unit price.")
      else .ok (|txn.quantity.getD 0|, |tradePrice txn|) := by
  cases isQuantity : txn.quantity with
  | none =>
      cases trade with
      | inl buy => simp [resolveQuantityPrice, buy, isQuantity]
      | inr sell => simp [resolveQuantityPrice, sell, isQuantity]
  | some number =>
      cases isPrice : txn.unitPrice with
      | none =>
          cases trade with
          | inl buy => simp [resolveQuantityPrice, buy, isQuantity, isPrice, tradePrice]
          | inr sell => simp [resolveQuantityPrice, sell, isQuantity, isPrice, tradePrice]
      | some price =>
          cases trade with
          | inl buy => simp [resolveQuantityPrice, buy, isQuantity, isPrice, tradePrice]
          | inr sell => simp [resolveQuantityPrice, sell, isQuantity, isPrice, tradePrice]

theorem resolved_trade {txn : Transaction} {activityType : ActivityType}
    (trade : activityType = .buy ∨ activityType = .sell) {security : Option Security}
    {quantity unitPrice : ℚ}
    (resolved : resolveQuantityPrice txn activityType security = .ok (quantity, unitPrice)) :
    quantity = |txn.quantity.getD 0| ∧ unitPrice = tradePrice txn := by
  rw [resolveQuantityPrice_trade trade] at resolved
  split at resolved
  · cases resolved
  · split at resolved
    · cases resolved
    · next positive =>
        cases resolved
        exact ⟨rfl, abs_of_pos (not_le.mp positive)⟩

/-- The numbers of the row are those the transaction stands for. -/
theorem resolved_canonical {txn : Transaction} {security : Option Security}
    {quantity unitPrice : ℚ} (resolved : resolveQuantityPrice txn (resolveActivityType txn)
      security = .ok (quantity, unitPrice)) :
    quantity = canonicalQuantity txn ∧ unitPrice = canonicalUnitPrice txn security := by
  rw [canonicalQuantity, canonicalUnitPrice]
  generalize resolveActivityType txn = activityType at resolved
  cases activityType with
  | buy => exact resolved_trade (.inl rfl) resolved
  | sell => exact resolved_trade (.inr rfl) resolved
  | deposit | withdrawal | tax | credit | split | adjustment | dividend | unknown =>
      cases resolved
      exact ⟨rfl, rfl⟩
  | interest | fee | transferIn | transferOut =>
      cases security with
      | none =>
          cases resolved
          exact ⟨rfl, rfl⟩
      | some security =>
          cases resolved
          exact ⟨rfl, rfl⟩

/-! ## Exchange rates -/

/-- The amount of the row is converted with the rate of the transaction. -/
def ProjectedWithRate (options : MappingOptions) (txn : Transaction) : Prop :=
  resolveActivityType txn ∈ cashActivityTypes ∧ options.accountCurrency.getD "" ≠ "" ∧
    sourceCurrency txn options ≠ destinationCurrency txn options ∧
    ¬options.allowMultiCurrencyCash ∧
    (txn.amountInBase = none ∨
      (txn.baseCurrencyCode.getD "").toUpper ≠ destinationCurrency txn options)

/-- The row has the rate of the transaction: it was used for the amount, or the
transaction has a base currency of its own. -/
def FxRateExported (options : MappingOptions) (txn : Transaction) : Prop :=
  some txn.currencyCode ≠ txn.baseCurrencyCode ∨ ProjectedWithRate options txn

def baseCode (txn : Transaction) : String := (txn.baseCurrencyCode.getD "").toUpper

/-- The amount is taken from the base currency, which is that of the account. -/
def ProjectedFromBase (options : MappingOptions) (txn : Transaction) : Prop :=
  resolveActivityType txn ∈ cashActivityTypes ∧ options.accountCurrency.getD "" ≠ "" ∧
    sourceCurrency txn options ≠ destinationCurrency txn options ∧
    ¬options.allowMultiCurrencyCash ∧
    txn.amountInBase.isSome ∧ baseCode txn = destinationCurrency txn options

/-- The three ways in which the currency and the amount of a row come about. -/
theorem projection_cases {options : MappingOptions} {txn : Transaction}
    {projection : CashProjection}
    (projected : resolveCashProjection txn (resolveActivityType txn) options = .ok projection) :
    (¬ProjectedFromBase options txn ∧ ¬ProjectedWithRate options txn ∧
        projection =
          ⟨sourceCurrency txn options, resolveAmount txn (resolveActivityType txn), none⟩) ∨
      (ProjectedFromBase options txn ∧ ∃ amountInBase, txn.amountInBase = some amountInBase ∧
        projection = ⟨destinationCurrency txn options, some |amountInBase|, none⟩) ∨
      (ProjectedWithRate options txn ∧ ∃ rate, rate ≠ 0 ∧ txn.fxRate = some rate ∧
        projection =
          ⟨destinationCurrency txn options, some (|txn.amount| / |rate|), some rate⟩) := by
  have withRate {source destination : String}
      (projected : resolveCashProjection.withRate txn source destination = .ok projection) :
      ∃ rate, rate ≠ 0 ∧ txn.fxRate = some rate ∧
        projection = ⟨destination, some (|txn.amount| / |rate|), some rate⟩ := by
    rw [resolveCashProjection.withRate] at projected
    split at projected
    · next rate isRate =>
        split at projected
        · cases projected
        · next nonzero =>
            cases projected
            exact ⟨rate, nonzero, isRate, rfl⟩
    · cases projected
  simp only [resolveCashProjection] at projected
  split at projected
  · next noCash =>
      cases projected
      left
      refine ⟨?_, ?_, rfl⟩
      · rintro ⟨cash, account, -⟩
        exact noCash.elim (fun other => other cash) account
      · rintro ⟨cash, account, -⟩
        exact noCash.elim (fun other => other cash) account
  · next cash =>
      rw [not_or, not_not] at cash
      split at projected
      · next kept =>
          cases projected
          left
          refine ⟨?_, ?_, rfl⟩
          · rintro ⟨-, -, differ, single, -⟩
            exact kept.elim differ single
          · rintro ⟨-, -, differ, single, -⟩
            exact kept.elim differ single
      · next foreign =>
          rw [not_or] at foreign
          right
          split at projected
          · next amountInBase hasBase =>
              split at projected
              · next base =>
                  cases projected
                  exact .inl ⟨⟨cash.1, cash.2, foreign.1, foreign.2, by simp [hasBase], base⟩,
                    amountInBase, hasBase, rfl⟩
              · next otherBase =>
                  exact .inr ⟨⟨cash.1, cash.2, foreign.1, foreign.2, .inr otherBase⟩,
                    withRate projected⟩
          · next noBase =>
              exact .inr ⟨⟨cash.1, cash.2, foreign.1, foreign.2, .inl noBase⟩,
                withRate projected⟩

theorem not_projectedWithRate {options : MappingOptions} {txn : Transaction}
    (fromBase : ProjectedFromBase options txn) :
    ¬ProjectedWithRate options txn := by
  rintro ⟨-, -, -, -, noBase | otherBase⟩
  · have hasBase := fromBase.2.2.2.2.1
    rw [noBase] at hasBase
    cases hasBase
  · exact otherBase fromBase.2.2.2.2.2

/-- A projection has a rate exactly where the rate was needed. -/
theorem projection_fxRate {options : MappingOptions} {txn : Transaction}
    {projection : CashProjection}
    (projected : resolveCashProjection txn (resolveActivityType txn) options = .ok projection) :
    (ProjectedWithRate options txn ∧
        ∃ rate, rate ≠ 0 ∧ txn.fxRate = some rate ∧ projection.fxRate = some rate) ∨
      (¬ProjectedWithRate options txn ∧ projection.fxRate = none) := by
  rcases projection_cases projected with
    ⟨-, notRate, rfl⟩ | ⟨fromBase, -, -, rfl⟩ | ⟨withRate, rate, nonzero, isRate, rfl⟩
  · exact .inr ⟨notRate, rfl⟩
  · exact .inr ⟨not_projectedWithRate fromBase, rfl⟩
  · exact .inl ⟨withRate, rate, nonzero, isRate, rfl⟩

theorem exportedFxRate_of_exported {options : MappingOptions} {txn : Transaction}
    {projection : CashProjection}
    (projected : resolveCashProjection txn (resolveActivityType txn) options = .ok projection)
    (exported : FxRateExported options txn) : exportedFxRate txn projection = txn.fxRate := by
  cases projection_fxRate projected with
  | inl converted =>
      obtain ⟨-, rate, nonzero, isRate, isProjected⟩ := converted
      rw [exportedFxRate, isProjected, isRate]
      exact if_neg nonzero
  | inr kept =>
      rw [exportedFxRate, kept.2]
      exact if_pos (exported.resolve_right kept.1)

theorem exportedFxRate_of_not_exported {options : MappingOptions} {txn : Transaction}
    {projection : CashProjection}
    (projected : resolveCashProjection txn (resolveActivityType txn) options = .ok projection)
    (unexported : ¬FxRateExported options txn) : exportedFxRate txn projection = none := by
  rw [FxRateExported, not_or] at unexported
  cases projection_fxRate projected with
  | inl converted => exact absurd converted.1 unexported.2
  | inr kept =>
      rw [exportedFxRate, kept.2]
      exact if_neg unexported.1

/-! ## Transaction rows -/

variable {sha256 : String → String} {options : MappingOptions} {security : Option Security}

/-- The numbers of a transaction row are those of the transaction. -/
structure TransactionLossless (txn : Transaction) (security : Option Security) (row : WfRow) :
    Prop where
  quantity : readNumber row.quantity = some (canonicalQuantity txn)
  unitPrice : readNumber row.unitPrice = some (canonicalUnitPrice txn security)
  fxRate : row.fxRate ≠ "" → readNumber row.fxRate = txn.fxRate
  principal : row.activityType = .buy ∨ row.activityType = .sell →
    quantityOf row.quantity * quantityOf row.unitPrice =
      canonicalQuantity txn * canonicalUnitPrice txn security

/-- The quantity, the price and an exported rate have whole cents. -/
structure TransactionInCents (options : MappingOptions) (security : Option Security)
    (txn : Transaction) : Prop where
  quantity : WholeCents (canonicalQuantity txn)
  unitPrice : WholeCents (canonicalUnitPrice txn security)
  fxRate : FxRateExported options txn → ∀ rate, txn.fxRate = some rate → WholeCents rate

theorem fmtDecimal_ne_blank {value : ℚ} {text : String}
    (formatted : fmtDecimal (some value) = .ok text) : text ≠ "" := by
  intro blank
  have read := readNumber_fmtDecimal formatted
  rw [blank] at read
  cases read

theorem fxRate_kept_iff {txn : Transaction} {row : WfRow} {quantity unitPrice : ℚ}
    {projection : CashProjection}
    (known : RowOf sha256 options security txn row quantity unitPrice projection) :
    (row.fxRate ≠ "" → readNumber row.fxRate = txn.fxRate) ↔
      (FxRateExported options txn → ∀ rate, txn.fxRate = some rate → WholeCents rate) := by
  have isText := known.fxRate
  by_cases exported : FxRateExported options txn
  · rw [exportedFxRate_of_exported known.projected exported] at isText
    cases isRate : txn.fxRate with
    | none =>
        rw [isRate] at isText
        simp [← Except.ok.inj isText]
    | some rate =>
        rw [isRate] at isText
        simp only [ne_eq, fmtDecimal_ne_blank isText, not_false_eq_true, forall_const,
          readNumber_fmtDecimal_iff isText, exported, Option.some.injEq, forall_eq']
  · rw [exportedFxRate_of_not_exported known.projected exported] at isText
    simp [← Except.ok.inj isText, exported]

theorem transaction_lossless_iff {txn : Transaction} {row : WfRow}
    (exported : mapTransactionToWfRow sha256 options security txn = .ok row) :
    TransactionLossless txn security row ↔ TransactionInCents options security txn := by
  obtain ⟨quantity, unitPrice, projection, known⟩ := rowOf_of_ok sha256 exported
  obtain ⟨isQuantity, isPrice⟩ := resolved_canonical known.resolved
  have quantityText := known.quantity
  have priceText := known.unitPrice
  rw [isQuantity] at quantityText
  rw [isPrice] at priceText
  constructor
  · intro lossless
    exact
      { quantity := (readNumber_fmtDecimal_iff quantityText).mp lossless.quantity
        unitPrice := (readNumber_fmtDecimal_iff priceText).mp lossless.unitPrice
        fxRate := (fxRate_kept_iff known).mp lossless.fxRate }
  · intro inCents
    have quantityKept := (readNumber_fmtDecimal_iff quantityText).mpr inCents.quantity
    have priceKept := (readNumber_fmtDecimal_iff priceText).mpr inCents.unitPrice
    exact
      { quantity := quantityKept
        unitPrice := priceKept
        fxRate := (fxRate_kept_iff known).mpr inCents.fxRate
        principal := by
          intro _
          rw [quantityOf, quantityOf, quantityKept, priceKept, Option.getD_some,
            Option.getD_some] }

/-! ## Tax-lot rows -/

/-- The numbers of a sidecar row are those of the lot. -/
structure LotLossless (lot : TaxLots.TaxLot) (row : TaxLotRow) : Prop where
  quantity : readNumber row.quantity = some lot.quantity
  remainingQuantity : readNumber row.remainingQuantity = some lot.remainingQuantity
  costBasisTotal : readNumber row.costBasisTotal = some lot.costBasisTotal
  costBasisPerUnit : readNumber row.costBasisPerUnit = some lot.costBasisPerUnit
  realizedPL : readNumber row.realizedPL = lot.realizedPl
  disallowedLoss : readNumber row.disallowedLoss = lot.disallowedLoss

/-- All numbers of a lot have whole cents. -/
structure LotInCents (lot : TaxLots.TaxLot) : Prop where
  quantity : WholeCents lot.quantity
  remainingQuantity : WholeCents lot.remainingQuantity
  costBasisTotal : WholeCents lot.costBasisTotal
  costBasisPerUnit : WholeCents lot.costBasisPerUnit
  realizedPL : ∀ value ∈ lot.realizedPl, WholeCents value
  disallowedLoss : ∀ value ∈ lot.disallowedLoss, WholeCents value

theorem optional_kept_iff {value : Option ℚ} {text : String}
    (formatted : fmtDecimal value = .ok text) :
    readNumber text = value ↔ ∀ number ∈ value, WholeCents number := by
  cases value with
  | none =>
      cases formatted
      simp
      decide
  | some number => simp [readNumber_fmtDecimal_iff formatted]

theorem lot_lossless_iff {uuidText : Uuid → String} {lot : TaxLots.TaxLot} {row : TaxLotRow}
    (exported : mapTaxLotToWfRow sha256 uuidText security lot = .ok row) :
    LotLossless lot row ↔ LotInCents lot := by
  simp only [mapTaxLotToWfRow, Lib.bind_eq_ok] at exported
  obtain ⟨quantity, isQuantity, remaining, isRemaining, total, isTotal, unit, isUnit, realized,
    isRealized, disallowed, isDisallowed, isRow⟩ := exported
  cases isRow
  constructor
  · intro lossless
    exact
      { quantity := (readNumber_fmtDecimal_iff isQuantity).mp lossless.quantity
        remainingQuantity := (readNumber_fmtDecimal_iff isRemaining).mp lossless.remainingQuantity
        costBasisTotal := (readNumber_fmtDecimal_iff isTotal).mp lossless.costBasisTotal
        costBasisPerUnit := (readNumber_fmtDecimal_iff isUnit).mp lossless.costBasisPerUnit
        realizedPL := (optional_kept_iff isRealized).mp lossless.realizedPL
        disallowedLoss := (optional_kept_iff isDisallowed).mp lossless.disallowedLoss }
  · intro inCents
    exact
      { quantity := (readNumber_fmtDecimal_iff isQuantity).mpr inCents.quantity
        remainingQuantity := (readNumber_fmtDecimal_iff isRemaining).mpr inCents.remainingQuantity
        costBasisTotal := (readNumber_fmtDecimal_iff isTotal).mpr inCents.costBasisTotal
        costBasisPerUnit := (readNumber_fmtDecimal_iff isUnit).mpr inCents.costBasisPerUnit
        realizedPL := (optional_kept_iff isRealized).mpr inCents.realizedPL
        disallowedLoss := (optional_kept_iff isDisallowed).mpr inCents.disallowedLoss }

/-! ## Holdings -/

section Holdings

variable {defaultCurrency accountCurrency : String} {openCostBasis : String → Option String}
  {holding : Holding} {row : HoldingRow}

theorem sourceRow_ok (exported : sourceRow defaultCurrency accountCurrency openCostBasis security
      holding = .ok row) :
    fmtDecimal (some holding.quantity) = .ok row.quantity ∧
      row.snapshotPrice = (snapshotPrice accountCurrency holding).1 := by
  simp only [sourceRow, mapHoldingToWfRow, Lib.bind_eq_ok] at exported
  obtain ⟨mapped, ⟨symbol, -, quantity, isQuantity, cost, -, isMapped⟩, isRow⟩ := exported
  cases isMapped
  cases isRow
  exact ⟨isQuantity, rfl⟩

/-- In the destination a manual holding is worth its market value times the
quantity in two decimals for the quantity. -/
theorem exportedValue_sourceRow {marketValue : ℚ}
    (exported : sourceRow defaultCurrency accountCurrency openCostBasis security holding = .ok row)
    (valued : holding.marketValue = some marketValue) :
    exportedValue (manualHoldingsPayload (snapshotPositions [row])) =
      marketValue * ((cents holding.quantity : ℚ) / 100 / holding.quantity) := by
  obtain ⟨isQuantity, isPrice⟩ := sourceRow_ok exported
  have quantity : quantityOf row.quantity = (cents holding.quantity : ℚ) / 100 := by
    rw [quantityOf, readNumber_fmtDecimal isQuantity, Option.getD_some]
  by_cases closed : cents holding.quantity = 0
  · simp [snapshotPositions, manualHoldingsPayload, exportedValue, quantity, closed]
  · have held : holding.quantity ≠ 0 := by
      intro none
      apply closed
      rw [cents_eq_zero_iff, none]
      norm_num
    have units : (cents holding.quantity : ℚ) ≠ 0 := by exact_mod_cast closed
    have price : row.snapshotPrice = some (marketValue / holding.quantity) := by
      rw [isPrice, snapshotPrice, valued]
      simp [held]
    simp [snapshotPositions, manualHoldingsPayload, exportedValue, units, quantity, price,
      cents_of_units]
    field_simp

theorem exportedValue_near_iff {marketValue : ℚ}
    (exported : sourceRow defaultCurrency accountCurrency openCostBasis security holding = .ok row)
    (valued : holding.marketValue = some marketValue) :
    |exportedValue (manualHoldingsPayload (snapshotPositions [row])) - marketValue| ≤ 1 / 100 ↔
      |marketValue| * |(cents holding.quantity : ℚ) / 100 / holding.quantity - 1| ≤ 1 / 100 := by
  rw [exportedValue_sourceRow exported valued, ← abs_mul, mul_sub, mul_one]

/-- The payload of several rows is the payload of each. -/
theorem manualHoldingsPayload_eq (rows : List HoldingRow) :
    manualHoldingsPayload (snapshotPositions rows) =
      rows.flatMap fun row => manualHoldingsPayload (snapshotPositions [row]) := by
  induction rows with
  | nil => rfl
  | cons row rows ih =>
      rw [List.flatMap_cons, ← ih]
      by_cases closed : quantityOf row.quantity = 0
      · simp [snapshotPositions, manualHoldingsPayload, closed]
      · simp [snapshotPositions, manualHoldingsPayload, closed]

end Holdings

/-! ## All rows -/

/-- The rows of a transaction, a holding and a tax lot give back the canonical
numbers exactly if these have whole cents.  The value of a manual holding is
kept to within a cent exactly if rounding the quantity moves it by a cent at
most. -/
theorem export_lossless_iff (sha256 : String → String) (uuidText : Uuid → String)
    (options : MappingOptions) (accountCurrency : String) (openCostBasis : String → Option String)
    (txnSecurity holdingSecurity lotSecurity : Option Security) (txn : Transaction)
    (holding : Holding) (lot : TaxLots.TaxLot) (row : WfRow) (holdingRow : HoldingRow)
    (lotRow : TaxLotRow) (exported : mapTransactionToWfRow sha256 options txnSecurity txn = .ok row)
    (held : sourceRow options.defaultCurrency accountCurrency openCostBasis holdingSecurity
      holding = .ok holdingRow)
    (sided : mapTaxLotToWfRow sha256 uuidText lotSecurity lot = .ok lotRow) :
    (TransactionLossless txn txnSecurity row ↔ TransactionInCents options txnSecurity txn) ∧
      (readNumber holdingRow.quantity = some holding.quantity ↔ WholeCents holding.quantity) ∧
      (LotLossless lot lotRow ↔ LotInCents lot) ∧
      ∀ marketValue, holding.marketValue = some marketValue →
        (|exportedValue (manualHoldingsPayload (snapshotPositions [holdingRow])) - marketValue| ≤
            1 / 100 ↔
          |marketValue| * |(cents holding.quantity : ℚ) / 100 / holding.quantity - 1| ≤
            1 / 100) := by
  refine ⟨transaction_lossless_iff exported, ?_, lot_lossless_iff sided, ?_⟩
  · exact readNumber_fmtDecimal_iff (sourceRow_ok held).1
  · intro marketValue valued
    exact exportedValue_near_iff held valued

def worldEtf : Security where
  id := "security-1"
  isin := some "IE00BK5BQT80"
  ticker := some "VWCE"
  name := "All-World"
  securityType := "etf"

/-- A purchase of a part of a share. -/
def fractionalPurchase : Transaction where
  id := "transaction-2"
  tenantId := "tenant-1"
  providerKey := "trading212"
  externalTransactionId := "B-1"
  accountId := "account-1"
  securityId := some "security-1"
  amount := -10
  currencyCode := "EUR"
  baseCurrencyCode := some "EUR"
  quantity := some 0.12345678
  unitPrice := some 81
  occurredAt := 1704067200000000
  transactionType := .purchase
  status := .booked

/-- The position that the purchase opened. -/
def fractionalHolding : Holding where
  id := "holding-1"
  accountId := "account-1"
  securityId := "security-1"
  observedAt := 1704067200000000
  quantity := 0.12345678
  costBasis := some 10
  marketValue := some 10
  currencyCode := "EUR"
  price := some 81

/-- The lot that the purchase opened. -/
def fractionalLot : TaxLots.TaxLot where
  id := 1
  accountId := 1
  securityId := 1
  quantity := 0.12345678
  remainingQuantity := 0.12345678
  costBasisTotal := 10
  costBasisPerUnit := 81
  currencyCode := "EUR"
  acquiredAt := 1704067200000000

/-- The key of the purchase. -/
def purchaseHash (_ : String) : String :=
  "22c4ed8c0faf62dc69cb82a739a05bbf09c1465ff292d8cda9d78a2802efad6a"

theorem export_lossless_of_half : ∃ row holdingRow lotRow,
    TransactionLossless { fractionalPurchase with quantity := some 0.5 } (some worldEtf) row ∧
      readNumber holdingRow.quantity = some 0.5 ∧
      LotLossless
        { fractionalLot with quantity := 0.5, remainingQuantity := 0.5 } lotRow ∧
      |exportedValue (manualHoldingsPayload (snapshotPositions [holdingRow])) - 10| ≤ 1 / 100 := by
  obtain ⟨row, exported⟩ : ∃ row, mapTransactionToWfRow purchaseHash
      { accountCurrency := some "EUR" } (some worldEtf)
      { fractionalPurchase with quantity := some 0.5 } = .ok row :=
    Lib.exists_ok_of_isSome (by decide +kernel)
  obtain ⟨holdingRow, held⟩ : ∃ row, sourceRow "EUR" "EUR" (fun _ => none) (some worldEtf)
      { fractionalHolding with quantity := 0.5 } = .ok row :=
    Lib.exists_ok_of_isSome (by decide +kernel)
  obtain ⟨lotRow, sided⟩ : ∃ row, mapTaxLotToWfRow purchaseHash toString (some worldEtf)
      { fractionalLot with quantity := 0.5, remainingQuantity := 0.5 } = .ok row :=
    Lib.exists_ok_of_isSome (by decide +kernel)
  have lossless := export_lossless_iff purchaseHash toString { accountCurrency := some "EUR" } "EUR"
    (fun _ => none) (some worldEtf) (some worldEtf) (some worldEtf) _ _ _ row holdingRow lotRow
    exported held sided
  have isHalf : WholeCents 0.5 := ⟨50, by norm_num⟩
  have isPrice : WholeCents 81 := ⟨8100, by norm_num⟩
  have isTotal : WholeCents 10 := ⟨1000, by norm_num⟩
  refine ⟨row, holdingRow, lotRow, lossless.1.mpr ⟨⟨50, ?_⟩, ⟨8100, ?_⟩, ?_⟩,
    lossless.2.1.mpr isHalf,
    lossless.2.2.1.mpr ⟨isHalf, isHalf, isTotal, isPrice, by simp [fractionalLot],
      by simp [fractionalLot]⟩,
    (lossless.2.2.2 10 rfl).mpr ?_⟩
  · decide +kernel
  · decide +kernel
  · simp [fractionalPurchase]
  · decide +kernel

/-- A quantity of 0.12345678 is exported as 0.12, also by the lossless sidecar, and
a manual holding of 10 euro as one of 9.72. -/
theorem fractional_quantity_lost :
    ∃ row holdingRow lotRow,
      mapTransactionToWfRow purchaseHash { accountCurrency := some "EUR" } (some worldEtf)
          fractionalPurchase = .ok row ∧
        sourceRow "EUR" "EUR" (fun _ => none) (some worldEtf) fractionalHolding =
          .ok holdingRow ∧
        mapTaxLotToWfRow purchaseHash toString (some worldEtf) fractionalLot = .ok lotRow ∧
        readNumber row.quantity = some 0.12 ∧ readNumber holdingRow.quantity = some 0.12 ∧
        readNumber lotRow.quantity = some 0.12 ∧
        ¬TransactionLossless fractionalPurchase (some worldEtf) row ∧
        ¬readNumber holdingRow.quantity = some fractionalHolding.quantity ∧
        ¬LotLossless fractionalLot lotRow ∧
        ¬|exportedValue (manualHoldingsPayload (snapshotPositions [holdingRow])) - 10| ≤
          1 / 100 := by
  obtain ⟨row, exported, isQuantity⟩ : ∃ row, mapTransactionToWfRow purchaseHash
      { accountCurrency := some "EUR" } (some worldEtf) fractionalPurchase = .ok row ∧
      readNumber row.quantity = some 0.12 :=
    Lib.exists_ok_of_map (by decide +kernel)
  obtain ⟨holdingRow, held, isHolding⟩ : ∃ row, sourceRow "EUR" "EUR" (fun _ => none)
      (some worldEtf) fractionalHolding = .ok row ∧
      (readNumber row.quantity = some 0.12 ∧
        ¬|exportedValue (manualHoldingsPayload (snapshotPositions [row])) - 10| ≤ 1 / 100) :=
    Lib.exists_ok_of_map (by decide +kernel)
  obtain ⟨lotRow, sided, isLot⟩ : ∃ row, mapTaxLotToWfRow purchaseHash toString (some worldEtf)
      fractionalLot = .ok row ∧ readNumber row.quantity = some 0.12 :=
    Lib.exists_ok_of_map (by decide +kernel)
  have differ : (0.12 : ℚ) ≠ 0.12345678 := by norm_num
  refine ⟨row, holdingRow, lotRow, exported, held, sided, isQuantity, isHolding.1, isLot, ?_, ?_,
    ?_, isHolding.2⟩
  · intro lossless
    have kept := isQuantity.symm.trans lossless.quantity
    exact absurd kept (by decide +kernel)
  · intro kept
    exact differ (Option.some.inj (isHolding.1.symm.trans kept))
  · intro lossless
    exact differ (Option.some.inj (isLot.symm.trans lossless.quantity))

end FinanceSync.Wealthfolio
