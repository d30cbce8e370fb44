import FinanceSync.Wealthfolio.Lossless

/-!
# The currency of a row

Cash in a foreign currency is projected to the currency of the account, but only in
the column `amount`: tax, gross and net amount, and a unit price that stands for the
amount, stay in the currency of the transaction.  A row is in one currency exactly
where its projection changes none of them by a cent, the rate is what the projection
used, and the fee of a trade is in a currency that the transaction relates to its own.
-/

namespace FinanceSync.Wealthfolio

/-! ## What the data say of an amount -/

/-- The factor by which the amount of a transaction becomes one in a currency.  The
rate of a transaction is quoted as its currency for each unit of its base currency,
or of the currency of the account where it has none. -/
def conversionFactor (options : MappingOptions) (txn : Transaction) (currency : String) :
    Option ℚ :=
  if currency = sourceCurrency txn options then some 1
  else
    match txn.amountInBase with
    | some amountInBase =>
        if baseCode txn = currency then some (|amountInBase| / |txn.amount|) else byRate
    | none => byRate
where
  byRate : Option ℚ :=
    if baseCode txn = "" ∨ baseCode txn = currency then
      txn.fxRate.bind fun rate => if rate = 0 then none else some (1 / |rate|)
    else none

def IsTrade (txn : Transaction) : Prop :=
  txn.transactionType = .purchase ∨ txn.transactionType = .sale

instance (txn : Transaction) : Decidable (IsTrade txn) := inferInstanceAs (Decidable (_ ∨ _))

/-- The currency of a fee, which is that of the transaction where none is given. -/
def feeCode (options : MappingOptions) (txn : Transaction) : String :=
  if txn.feeCurrencyCode.getD "" = "" then sourceCurrency txn options
  else (txn.feeCurrencyCode.getD "").toUpper

/-- The fee of a trade in the currency of the trade, where the data relate the two. -/
def feeInCurrency (options : MappingOptions) (txn : Transaction) : Option ℚ :=
  let fee := |txn.feeAmount.getD 0|
  if ¬IsTrade txn ∨ fee = 0 then some 0
  else if feeCode options txn = sourceCurrency txn options then some fee
  else if feeCode options txn = baseCode txn then
    txn.fxRate.bind fun rate => if 0 < rate then some (fee * rate) else none
  else none

/-- The unit price is the amount. -/
def UnitPriceIsAmount (security : Option Security) (activityType : ActivityType) : Prop :=
  activityType ∈ [.dividend, .unknown] ∨
    activityType ∈ [.interest, .fee, .transferIn, .transferOut] ∧ security.isSome

instance (security : Option Security) (activityType : ActivityType) :
    Decidable (UnitPriceIsAmount security activityType) :=
  inferInstanceAs (Decidable (_ ∨ _))

/-! ## Rows in one currency -/

/-- The columns that have the amount of the transaction. -/
def amountColumns (security : Option Security) (txn : Transaction) (row : WfRow) : List String :=
  ([row.amount, row.tax, row.grossAmount, row.netAmount].filter (· ≠ "")) ++
    if UnitPriceIsAmount security (resolveActivityType txn) then [row.unitPrice] else []

/-- The amount in every column is converted with one factor, and a rate beside a
converted amount is that of the factor. -/
structure ConvertedBy (options : MappingOptions) (security : Option Security) (txn : Transaction)
    (row : WfRow) (factor : ℚ) : Prop where
  isFactor : conversionFactor options txn row.currency = some factor
  amounts : ∀ column ∈ amountColumns security txn row,
    fmtDecimal (some (|txn.amount| * factor)) = .ok column
  fxRate : row.currency ≠ sourceCurrency txn options → row.fxRate ≠ "" →
    factor ≠ 0 ∧ fmtDecimal (some (1 / factor)) = .ok row.fxRate

/-- All monetary columns of a row are in its currency. -/
structure InOneCurrency (options : MappingOptions) (security : Option Security) (txn : Transaction)
    (row : WfRow) : Prop where
  converted : ∃ factor, ConvertedBy options security txn row factor
  fee : ∃ fee, feeInCurrency options txn = some fee ∧ fmtDecimal (some fee) = .ok row.fee

/-! ## When they are -/

/-- The row has the amount in columns besides `amount`. -/
def RawColumns (security : Option Security) (txn : Transaction) : Prop :=
  txn.transactionType = .tax ∨ txn.transactionType = .dividend ∨
    UnitPriceIsAmount security (resolveActivityType txn)

/-- The numbers are the same to the cent. -/
def SameCents (first second : ℚ) : Prop := fmtDecimal (some first) = fmtDecimal (some second)

/-- The fee is multiplied by the rate. -/
def FeeMultiplied (txn : Transaction) (rate : ℚ) : Prop :=
  txn.feeCurrencyCode.getD "" ≠ "" ∧ txn.feeCurrencyCode ≠ some txn.currencyCode ∧
    txn.feeCurrencyCode = txn.baseCurrencyCode ∧ txn.fxRate = some rate

/-- The fee of a trade is in the currency of the trade, or in the base currency with a
rate, and is converted accordingly. -/
def FeeConverts (options : MappingOptions) (txn : Transaction) : Prop :=
  IsTrade txn → txn.feeAmount.getD 0 ≠ 0 →
    (feeCode options txn = sourceCurrency txn options ∧
      ∀ rate, FeeMultiplied txn rate →
        SameCents (|txn.feeAmount.getD 0| * rate) |txn.feeAmount.getD 0|) ∨
    (feeCode options txn ≠ sourceCurrency txn options ∧ feeCode options txn = baseCode txn ∧
      ∃ rate, txn.fxRate = some rate ∧ 0 < rate ∧
        (FeeMultiplied txn rate ∨
          SameCents |txn.feeAmount.getD 0| (|txn.feeAmount.getD 0| * rate)))

/-- A projection keeps the other columns to the cent and goes with its rate. -/
structure ConvertsAlike (options : MappingOptions) (security : Option Security)
    (txn : Transaction) : Prop where
  base : ProjectedFromBase options txn → ∀ amountInBase, txn.amountInBase = some amountInBase →
    (txn.amount = 0 → SameCents 0 |amountInBase|) ∧
      (RawColumns security txn → txn.amount ≠ 0 → SameCents |amountInBase| |txn.amount|) ∧
      ∀ rate, txn.fxRate = some rate → txn.amount ≠ 0 ∧ amountInBase ≠ 0 ∧
        SameCents (|txn.amount| / |amountInBase|) rate
  rate : ProjectedWithRate options txn → ∀ rate, txn.fxRate = some rate →
    0 < rate ∧ (baseCode txn = "" ∨ baseCode txn = destinationCurrency txn options) ∧
      (RawColumns security txn → SameCents (|txn.amount| / rate) |txn.amount|)
  fee : FeeConverts options txn

/-! ## The columns of a row -/

variable {sha256 : String → String} {options : MappingOptions} {security : Option Security}
  {txn : Transaction} {row : WfRow}

/-- The numbers whose texts are the monetary columns. -/
structure ColumnsOf (options : MappingOptions) (security : Option Security) (txn : Transaction)
    (row : WfRow) (projection : CashProjection) : Prop where
  projected : resolveCashProjection txn (resolveActivityType txn) options = .ok projection
  currency : row.currency = projection.currency
  amount : fmtDecimal projection.amount = .ok row.amount
  fee : fmtDecimal (some (resolveFee txn)) = .ok row.fee
  fxRate : fmtDecimal (exportedFxRate txn projection) = .ok row.fxRate
  tax : fmtDecimal (if txn.transactionType = .tax then some |txn.amount| else none) = .ok row.tax
  grossAmount : fmtDecimal (if txn.transactionType = .dividend then some |txn.amount| else none) =
    .ok row.grossAmount
  netAmount : fmtDecimal (if txn.transactionType = .dividend then some |txn.amount| else none) =
    .ok row.netAmount
  unitPrice : fmtDecimal (some (canonicalUnitPrice txn security)) = .ok row.unitPrice

theorem columnsOf_of_ok (mapped : mapTransactionToWfRow sha256 options security txn = .ok row) :
    ∃ projection, ColumnsOf options security txn row projection := by
  simp only [mapTransactionToWfRow, Lib.bind_eq_ok] at mapped
  obtain ⟨info, -, ⟨quantity, unitPrice⟩, resolved, projection, projected, mapped⟩ := mapped
  obtain ⟨quantityText, -, priceText, isPrice, feeText, isFee, amountText, isAmount,
    rateText, isRate, taxText, isTax, grossText, isGross, netText, isNet, isRow⟩ := mapped
  cases isRow
  rw [(resolved_canonical resolved).2] at isPrice
  exact ⟨projection,
    { projected
      currency := rfl
      amount := isAmount
      fee := isFee
      fxRate := isRate
      tax := isTax
      grossAmount := isGross
      netAmount := isNet
      unitPrice := isPrice }⟩

/-- A text says a number exactly if the number of the text is the same to the cent. -/
theorem says_iff {value : Option ℚ} {text : String} (formatted : fmtDecimal value = .ok text)
    (converted : ℚ) :
    (text ≠ "" → fmtDecimal (some converted) = .ok text) ↔
      ∀ number, value = some number → SameCents converted number := by
  cases value with
  | none =>
      cases formatted
      simp
  | some number =>
      simp only [SameCents, ne_eq, fmtDecimal_ne_blank formatted, not_false_eq_true, forall_const,
        Option.some.injEq, forall_eq', formatted]

theorem canonicalUnitPrice_of_amount
    (isAmount : UnitPriceIsAmount security (resolveActivityType txn)) :
    canonicalUnitPrice txn security = |txn.amount| := by
  rw [canonicalUnitPrice]
  rcases isAmount with kind | ⟨kind, hasSecurity⟩
  · simp only [List.mem_cons, List.not_mem_nil, or_false] at kind
    rcases kind with kind | kind
    · rw [kind]
    · rw [kind]
  · simp only [List.mem_cons, List.not_mem_nil, or_false] at kind
    rcases kind with kind | kind | kind | kind
    all_goals
      rw [kind]
      exact if_pos hasSecurity

/-- The columns have a converted amount exactly if `amount` does, and the others keep
the amount to the cent. -/
theorem amountColumns_iff {projection : CashProjection}
    (columns : ColumnsOf options security txn row projection) (converted : ℚ) :
    (∀ column ∈ amountColumns security txn row, fmtDecimal (some converted) = .ok column) ↔
      (∀ amount, projection.amount = some amount → SameCents converted amount) ∧
        (RawColumns security txn → SameCents converted |txn.amount|) := by
  have split : (∀ column ∈ amountColumns security txn row,
        fmtDecimal (some converted) = .ok column) ↔
      ((row.amount ≠ "" → fmtDecimal (some converted) = .ok row.amount) ∧
        (row.tax ≠ "" → fmtDecimal (some converted) = .ok row.tax) ∧
        (row.grossAmount ≠ "" → fmtDecimal (some converted) = .ok row.grossAmount) ∧
        (row.netAmount ≠ "" → fmtDecimal (some converted) = .ok row.netAmount)) ∧
      (UnitPriceIsAmount security (resolveActivityType txn) →
        fmtDecimal (some converted) = .ok row.unitPrice) := by
    rw [amountColumns, List.forall_mem_append]
    refine and_congr ?_ ?_
    · simp only [List.mem_filter, decide_eq_true_eq, List.mem_cons, List.not_mem_nil, or_false,
        and_imp, forall_eq_or_imp, forall_eq]
    · by_cases isAmount : UnitPriceIsAmount security (resolveActivityType txn)
      · simp [isAmount]
      · simp [isAmount]
  rw [split, says_iff columns.amount, says_iff columns.tax, says_iff columns.grossAmount,
    says_iff columns.netAmount]
  have unitPrice : (UnitPriceIsAmount security (resolveActivityType txn) →
        fmtDecimal (some converted) = .ok row.unitPrice) ↔
      (UnitPriceIsAmount security (resolveActivityType txn) →
        SameCents converted |txn.amount|) := by
    refine forall_congr' fun isAmount => ?_
    rw [← columns.unitPrice, canonicalUnitPrice_of_amount isAmount]
    rfl
  have only (kind : Prop) [Decidable kind] :
      (∀ number, (if kind then some |txn.amount| else none) = some number →
        SameCents converted number) ↔ (kind → SameCents converted |txn.amount|) := by
    by_cases isKind : kind
    · simp [isKind]
    · simp [isKind]
  rw [only, only, unitPrice]
  constructor
  · rintro ⟨⟨amount, tax, gross, -⟩, price⟩
    refine ⟨amount, ?_⟩
    rintro (isTax | isDividend | isAmount)
    · exact tax isTax
    · exact gross isDividend
    · exact price isAmount
  · rintro ⟨amount, raw⟩
    exact ⟨⟨amount, fun isTax => raw (.inl isTax), fun isDividend => raw (.inr (.inl isDividend)),
      fun isDividend => raw (.inr (.inl isDividend))⟩, fun isAmount => raw (.inr (.inr isAmount))⟩

/-! ## Fees -/

theorem resolveFee_of_trade (trade : IsTrade txn) :
    (∀ rate, FeeMultiplied txn rate → resolveFee txn = |txn.feeAmount.getD 0| * rate) ∧
      ((∀ rate, ¬FeeMultiplied txn rate) → resolveFee txn = |txn.feeAmount.getD 0|) := by
  have isTrade : txn.transactionType = .purchase ∨ txn.transactionType = .sale := trade
  rw [resolveFee, if_pos isTrade]
  dsimp only
  constructor
  · rintro rate ⟨named, other, base, isRate⟩
    rw [isRate]
    exact if_pos ⟨named, other, base⟩
  · intro unmultiplied
    split
    · next rate isRate =>
        refine if_neg fun condition => unmultiplied rate ?_
        exact ⟨condition.1, condition.2.1, condition.2.2, isRate⟩
    · rfl

theorem feeMultiplied_at {rate other : ℚ} (isRate : txn.fxRate = some rate)
    (multiplied : FeeMultiplied txn other) : FeeMultiplied txn rate := by
  have same : other = rate := Option.some.inj (multiplied.2.2.2.symm.trans isRate)
  exact same ▸ multiplied

/-- The fee of a row is in its currency exactly if it converts. -/
theorem fee_iff {text : String} (formatted : fmtDecimal (some (resolveFee txn)) = .ok text) :
    (∃ fee, feeInCurrency options txn = some fee ∧ fmtDecimal (some fee) = .ok text) ↔
      FeeConverts options txn := by
  rw [← formatted]
  change (∃ fee, feeInCurrency options txn = some fee ∧ SameCents fee (resolveFee txn)) ↔ _
  by_cases attached : IsTrade txn ∧ txn.feeAmount.getD 0 ≠ 0
  · obtain ⟨trade, nonzero⟩ := attached
    obtain ⟨multiplied, kept⟩ := resolveFee_of_trade trade
    have noZero : ¬(¬IsTrade txn ∨ |txn.feeAmount.getD 0| = 0) := by
      simp [trade, nonzero]
    rw [feeInCurrency, if_neg noZero, FeeConverts]
    simp only [trade, nonzero, ne_eq, not_false_eq_true, forall_const]
    by_cases own : feeCode options txn = sourceCurrency txn options
    · rw [if_pos own]
      simp only [own, Option.some.injEq, exists_eq_left', not_true_eq_false, false_and, or_false,
        true_and]
      by_cases converted : ∃ rate, FeeMultiplied txn rate
      · obtain ⟨rate, isMultiplied⟩ := converted
        rw [multiplied rate isMultiplied]
        constructor
        · intro same other otherMultiplied
          have sameRate : other = rate :=
            Option.some.inj (otherMultiplied.2.2.2.symm.trans isMultiplied.2.2.2)
          rw [sameRate]
          exact same.symm
        · intro all
          exact (all rate isMultiplied).symm
      · push Not at converted
        rw [kept converted]
        exact iff_of_true rfl fun rate isMultiplied => absurd isMultiplied (converted rate)
    · rw [if_neg own]
      simp only [own, false_and, false_or, not_false_eq_true, true_and]
      by_cases base : feeCode options txn = baseCode txn
      · rw [if_pos base]
        simp only [base, true_and]
        constructor
        · rintro ⟨fee, isFee, same⟩
          obtain ⟨rate, isRate, isFee⟩ := Option.bind_eq_some_iff.mp isFee
          split at isFee
          · next positive =>
              cases isFee
              refine ⟨rate, isRate, positive, ?_⟩
              by_cases isMultiplied : FeeMultiplied txn rate
              · exact .inl isMultiplied
              · right
                rw [kept fun other multiplied => isMultiplied (feeMultiplied_at isRate multiplied)]
                  at same
                exact same.symm
          · cases isFee
        · rintro ⟨rate, isRate, positive, how⟩
          refine ⟨|txn.feeAmount.getD 0| * rate, ?_, ?_⟩
          · rw [isRate, Option.bind_some, if_pos positive]
          · by_cases isMultiplied : FeeMultiplied txn rate
            · rw [multiplied rate isMultiplied]
              rfl
            · rw [kept fun other multiplied => isMultiplied (feeMultiplied_at isRate multiplied)]
              exact (how.resolve_left isMultiplied).symm
      · rw [if_neg base]
        simp [base]
  · rw [not_and_or, not_ne_iff] at attached
    have zero : resolveFee txn = 0 := by
      rcases attached with noTrade | noFee
      · exact if_neg noTrade
      · rw [resolveFee, noFee]
        split
        · split
          · simp
          · simp
        · rfl
    have isZero : ¬IsTrade txn ∨ |txn.feeAmount.getD 0| = 0 := attached.imp_right abs_eq_zero.mpr
    rw [feeInCurrency, if_pos isZero, zero]
    refine iff_of_true ⟨0, rfl, rfl⟩ fun trade nonzero => ?_
    exact absurd (attached.resolve_left (not_not.mpr trade)) nonzero

/-! ## Converted amounts -/

/-- The text of a negative number has a sign. -/
theorem sameCents_abs_iff {number : ℚ} {text : String}
    (formatted : fmtDecimal (some number) = .ok text) : SameCents |number| number ↔ 0 ≤ number := by
  constructor
  · intro same
    by_contra negative
    have isNegative : (number < 0) = True := eq_true (not_le.mp negative)
    have positive : (|number| < 0) = False := eq_false (not_lt.mpr (abs_nonneg number))
    have absFormatted : fmtDecimal (some |number|) = .ok text := Eq.trans same formatted
    rw [fmtDecimal] at formatted absFormatted
    split at formatted
    · cases formatted
    · split at absFormatted
      · cases absFormatted
      · have texts := (Except.ok.inj absFormatted).trans (Except.ok.inj formatted).symm
        simp only [String.ofList_inj, isNegative, positive, decide_true, decide_false,
          Decimal.signed, if_true, Bool.false_eq_true, if_false] at texts
        exact Decimal.unsignedChars_ne_minus _ _ texts
  · intro nonneg
    rw [abs_of_nonneg nonneg]
    rfl

/-- A transaction in the account's base currency needs no projection. -/
theorem currencyCode_ne_base (fromBase : ProjectedFromBase options txn) :
    some txn.currencyCode ≠ txn.baseCurrencyCode := by
  obtain ⟨-, account, foreign, -, -, base⟩ := fromBase
  intro same
  rw [baseCode, ← same, Option.getD_some] at base
  by_cases blank : txn.currencyCode = ""
  · -- The destination has a name, and upper case keeps it.
    rw [blank] at base
    have named : destinationCurrency txn options ≠ "" := by
      rw [destinationCurrency, orText.eq_def]
      split
      · next isBlank =>
          rw [isBlank] at account
          exact absurd rfl account
      · next isNone =>
          rw [isNone] at account
          exact absurd rfl account
      · next code isCode isAccount =>
          intro upper
          exact isCode (String.map_eq_empty.mp upper)
    exact named (base.symm.trans (String.map_eq_empty.mpr rfl))
  · refine foreign ?_
    rw [← base, sourceCurrency, orText.eq_def]
    split
    · next isBlank => exact absurd (Option.some.inj isBlank) blank
    · next isNone => cases isNone
    · next code _ isCode => rw [Option.some.inj isCode]

variable {projection : CashProjection}

theorem converted_of_unprojected
    (columns : ColumnsOf options security txn row
      ⟨sourceCurrency txn options, resolveAmount txn (resolveActivityType txn), none⟩) :
    ConvertedBy options security txn row 1 where
  isFactor := by rw [conversionFactor, if_pos columns.currency]
  amounts := by
    rw [mul_one]
    refine (amountColumns_iff columns _).mpr ⟨fun amount isAmount => ?_, fun _ => rfl⟩
    dsimp only at isAmount
    rw [resolveAmount] at isAmount
    split at isAmount
    · cases isAmount
      rfl
    · split at isAmount
      · cases isAmount
        rfl
      · cases isAmount
  fxRate foreign := absurd columns.currency foreign

/-- What the base amount leaves consistent. -/
theorem converted_fromBase_iff (fromBase : ProjectedFromBase options txn) {amountInBase : ℚ}
    (hasBase : txn.amountInBase = some amountInBase)
    (columns : ColumnsOf options security txn row
      ⟨destinationCurrency txn options, some |amountInBase|, none⟩) :
    (∃ factor, ConvertedBy options security txn row factor) ↔
      (txn.amount = 0 → SameCents 0 |amountInBase|) ∧
        (RawColumns security txn → txn.amount ≠ 0 → SameCents |amountInBase| |txn.amount|) ∧
        ∀ rate, txn.fxRate = some rate → txn.amount ≠ 0 ∧ amountInBase ≠ 0 ∧
          SameCents (|txn.amount| / |amountInBase|) rate := by
  have foreign : row.currency ≠ sourceCurrency txn options := by
    rw [columns.currency]
    exact fromBase.2.2.1.symm
  have isFactor : conversionFactor options txn row.currency =
      some (|amountInBase| / |txn.amount|) := by
    rw [conversionFactor, if_neg foreign, hasBase]
    exact if_pos (fromBase.2.2.2.2.2.trans columns.currency.symm)
  have rates : (row.fxRate ≠ "" → |amountInBase| / |txn.amount| ≠ 0 ∧
        fmtDecimal (some (1 / (|amountInBase| / |txn.amount|))) = .ok row.fxRate) ↔
      ∀ rate, txn.fxRate = some rate → txn.amount ≠ 0 ∧ amountInBase ≠ 0 ∧
        SameCents (|txn.amount| / |amountInBase|) rate := by
    have isText := columns.fxRate
    rw [show exportedFxRate txn ⟨destinationCurrency txn options, some |amountInBase|, none⟩ =
      txn.fxRate from if_pos (currencyCode_ne_base fromBase)] at isText
    rw [one_div_div, imp_and, says_iff isText]
    cases isRate : txn.fxRate with
    | none =>
        rw [isRate] at isText
        have blank : row.fxRate = "" := (Except.ok.inj isText).symm
        simp [blank]
    | some rate =>
        rw [isRate] at isText
        simp only [ne_eq, fmtDecimal_ne_blank isText, not_false_eq_true, forall_const,
          Option.some.injEq, forall_eq', div_eq_zero_iff, abs_eq_zero, not_or]
        exact ⟨fun ⟨⟨base, amount⟩, same⟩ => ⟨amount, base, same⟩,
          fun ⟨amount, base, same⟩ => ⟨⟨base, amount⟩, same⟩⟩
  have amounts : (∀ column ∈ amountColumns security txn row,
        fmtDecimal (some (|txn.amount| * (|amountInBase| / |txn.amount|))) = .ok column) ↔
      (txn.amount = 0 → SameCents 0 |amountInBase|) ∧
        (RawColumns security txn → txn.amount ≠ 0 → SameCents |amountInBase| |txn.amount|) := by
    rw [amountColumns_iff columns]
    simp only [Option.some.injEq, forall_eq']
    by_cases nothing : txn.amount = 0
    · rw [nothing, abs_zero, zero_mul]
      simp only [forall_const, ne_eq, not_true_eq_false, false_implies, implies_true, and_true]
      exact and_iff_left fun _ => rfl
    · rw [mul_div_cancel₀ _ (abs_ne_zero.mpr nothing)]
      simp only [nothing, false_implies, ne_eq, not_false_eq_true, forall_const, true_and]
      exact and_iff_right rfl
  constructor
  · rintro ⟨factor, converted⟩
    have same : factor = |amountInBase| / |txn.amount| :=
      Option.some.inj (converted.isFactor.symm.trans isFactor)
    subst same
    have ⟨zero, raw⟩ := amounts.mp converted.amounts
    exact ⟨zero, raw, rates.mp (converted.fxRate foreign)⟩
  · rintro ⟨zero, raw, rate⟩
    exact ⟨_, isFactor, amounts.mpr ⟨zero, raw⟩, fun _ => rates.mpr rate⟩

/-- What the rate leaves consistent. -/
theorem converted_withRate_iff (withRate : ProjectedWithRate options txn) {rate : ℚ}
    (nonzero : rate ≠ 0) (isRate : txn.fxRate = some rate)
    (columns : ColumnsOf options security txn row
      ⟨destinationCurrency txn options, some (|txn.amount| / |rate|), some rate⟩) :
    (∃ factor, ConvertedBy options security txn row factor) ↔
      0 < rate ∧ (baseCode txn = "" ∨ baseCode txn = destinationCurrency txn options) ∧
        (RawColumns security txn → SameCents (|txn.amount| / rate) |txn.amount|) := by
  have foreign : row.currency ≠ sourceCurrency txn options := by
    rw [columns.currency]
    exact withRate.2.2.1.symm
  have isFactor : conversionFactor options txn row.currency =
      if baseCode txn = "" ∨ baseCode txn = destinationCurrency txn options then
        some (1 / |rate|) else none := by
    have byRate : conversionFactor.byRate txn row.currency =
        if baseCode txn = "" ∨ baseCode txn = destinationCurrency txn options then
          some (1 / |rate|) else none := by
      rw [conversionFactor.byRate, isRate, Option.bind_some, if_neg nonzero, columns.currency]
    rw [conversionFactor, if_neg foreign, ← byRate]
    split
    · next amountInBase hasBase =>
        refine if_neg fun base => ?_
        rcases withRate.2.2.2.2 with noBase | otherBase
        · rw [hasBase] at noBase
          cases noBase
        · exact otherBase (base.trans columns.currency)
    · rfl
  have isText : fmtDecimal (some rate) = .ok row.fxRate := by
    have isText := columns.fxRate
    rwa [show exportedFxRate txn ⟨destinationCurrency txn options, some (|txn.amount| / |rate|),
      some rate⟩ = some rate from if_neg nonzero] at isText
  have amounts : (∀ column ∈ amountColumns security txn row,
        fmtDecimal (some (|txn.amount| * (1 / |rate|))) = .ok column) ↔
      (RawColumns security txn → SameCents (|txn.amount| / |rate|) |txn.amount|) := by
    rw [amountColumns_iff columns, mul_one_div]
    simp only [Option.some.injEq, forall_eq']
    exact and_iff_right rfl
  constructor
  · rintro ⟨factor, converted⟩
    have hasFactor := isFactor.symm.trans converted.isFactor
    split at hasFactor
    · next base =>
        cases hasFactor
        obtain ⟨-, rateText⟩ := converted.fxRate foreign (fmtDecimal_ne_blank isText)
        rw [one_div_one_div, ← isText] at rateText
        have positive : 0 < rate := lt_of_le_of_ne ((sameCents_abs_iff isText).mp rateText)
          nonzero.symm
        have raw := amounts.mp converted.amounts
        rw [abs_of_pos positive] at raw
        exact ⟨positive, base, raw⟩
    · cases hasFactor
  · rintro ⟨positive, base, raw⟩
    rw [if_pos base] at isFactor
    refine ⟨_, isFactor, amounts.mpr ?_, fun _ _ => ⟨?_, ?_⟩⟩
    · rwa [abs_of_pos positive]
    · exact one_div_ne_zero (abs_ne_zero.mpr nonzero)
    · rw [one_div_one_div, abs_of_pos positive]
      exact isText

/-- All monetary columns of a row are in the currency of the row exactly where the
projection converts alike. -/
theorem inOneCurrency_iff (sha256 : String → String) (options : MappingOptions)
    (security : Option Security) (txn : Transaction) (row : WfRow)
    (mapped : mapTransactionToWfRow sha256 options security txn = .ok row) :
    InOneCurrency options security txn row ↔ ConvertsAlike options security txn := by
  obtain ⟨projection, columns⟩ := columnsOf_of_ok mapped
  have fee : (∃ fee, feeInCurrency options txn = some fee ∧
      fmtDecimal (some fee) = .ok row.fee) ↔ FeeConverts options txn := fee_iff columns.fee
  suffices converted : (∃ factor, ConvertedBy options security txn row factor) ↔
      (ProjectedFromBase options txn → ∀ amountInBase, txn.amountInBase = some amountInBase →
        (txn.amount = 0 → SameCents 0 |amountInBase|) ∧
          (RawColumns security txn → txn.amount ≠ 0 → SameCents |amountInBase| |txn.amount|) ∧
          ∀ rate, txn.fxRate = some rate → txn.amount ≠ 0 ∧ amountInBase ≠ 0 ∧
            SameCents (|txn.amount| / |amountInBase|) rate) ∧
      (ProjectedWithRate options txn → ∀ rate, txn.fxRate = some rate →
        0 < rate ∧ (baseCode txn = "" ∨ baseCode txn = destinationCurrency txn options) ∧
          (RawColumns security txn → SameCents (|txn.amount| / rate) |txn.amount|)) by
    constructor
    · rintro ⟨isConverted, isFee⟩
      obtain ⟨base, rate⟩ := converted.mp isConverted
      exact ⟨base, rate, fee.mp isFee⟩
    · rintro ⟨base, rate, isFee⟩
      exact ⟨converted.mpr ⟨base, rate⟩, fee.mpr isFee⟩
  rcases projection_cases columns.projected with
    ⟨notBase, notRate, rfl⟩ | ⟨fromBase, amountInBase, hasBase, rfl⟩ |
      ⟨withRate, rate, nonzero, isRate, rfl⟩
  · exact iff_of_true ⟨1, converted_of_unprojected columns⟩
      ⟨fun fromBase => absurd fromBase notBase, fun withRate => absurd withRate notRate⟩
  · rw [converted_fromBase_iff fromBase hasBase columns]
    simp only [fromBase, not_projectedWithRate fromBase, hasBase, Option.some.injEq, forall_eq',
      forall_const, false_implies, and_true]
  · have notBase : ¬ProjectedFromBase options txn :=
      fun fromBase => not_projectedWithRate fromBase withRate
    rw [converted_withRate_iff withRate nonzero isRate columns]
    simp only [notBase, withRate, isRate, Option.some.injEq, forall_eq', forall_const,
      false_implies, true_and]

/-- Fifty dollars of interest, with the dollars for a euro. -/
def foreignInterest : Transaction where
  id := "transaction-3"
  tenantId := "tenant-1"
  providerKey := "degiro"
  externalTransactionId := "I-2"
  accountId := "account-1"
  amount := 50
  currencyCode := "USD"
  fxRate := some 1.25
  occurredAt := 1704067200000000
  transactionType := .interest
  status := .booked

/-- A dividend of fifty dollars, which were 46.20 euro. -/
def foreignDividend : Transaction where
  id := "transaction-4"
  tenantId := "tenant-1"
  providerKey := "degiro"
  externalTransactionId := "D-2"
  accountId := "account-1"
  securityId := some "security-1"
  amount := 50
  currencyCode := "USD"
  amountInBase := some 46.2
  baseCurrencyCode := some "EUR"
  occurredAt := 1704067200000000
  transactionType := .dividend
  status := .booked

/-- The keys of the two transactions. -/
def foreignHash (text : String) : String :=
  if text = "tenant-1|degiro||account-1|I-2" then
    "a4a56746d8f9108f30dc6f8cb37bc13935b25c5f924d8f60463ddc6dbab5a25e"
  else "8b36af65c896d51fa5b53107380871a480f074cb2b3ec53401d046b2a1b92177"

def euroAccount : MappingOptions where
  accountCurrency := some "EUR"

/-- Interest without a security has its amount in one column. -/
theorem foreignInterest_inOneCurrency :
    ∃ row, mapTransactionToWfRow foreignHash euroAccount none foreignInterest = .ok row ∧
      InOneCurrency euroAccount none foreignInterest row := by
  obtain ⟨row, mapped⟩ : ∃ row,
      mapTransactionToWfRow foreignHash euroAccount none foreignInterest = .ok row :=
    Lib.exists_ok_of_isSome (by decide +kernel)
  refine ⟨row, mapped, (inOneCurrency_iff foreignHash euroAccount none foreignInterest row
    mapped).mpr ⟨?_, ?_, ?_⟩⟩
  · rintro ⟨-, -, -, -, hasBase, -⟩
    cases hasBase
  · intro _ rate isRate
    rw [← Option.some.inj (isRate : some 1.25 = some rate)]
    refine ⟨by norm_num, .inl (by decide +kernel), fun raw => ?_⟩
    have noRaw : ¬RawColumns none foreignInterest := by
      rw [RawColumns]
      decide +kernel
    exact absurd raw noRaw
  · intro trade
    have noTrade : ¬IsTrade foreignInterest := by decide
    exact absurd trade noTrade

/-- A dividend of 46.20 euro has a gross and a net amount of 50 and a unit price of 50. -/
theorem foreignDividend_in_two_currencies :
    ∃ row, mapTransactionToWfRow foreignHash euroAccount (some worldEtf) foreignDividend = .ok row ∧
      (row.currency, row.amount, row.grossAmount, row.netAmount, row.unitPrice) =
        ("EUR", "46.20", "50.00", "50.00", "50.00") ∧
      ¬InOneCurrency euroAccount (some worldEtf) foreignDividend row := by
  obtain ⟨row, mapped, columns⟩ : ∃ row, mapTransactionToWfRow foreignHash euroAccount
      (some worldEtf) foreignDividend = .ok row ∧
        (row.currency, row.amount, row.grossAmount, row.netAmount, row.unitPrice) =
          ("EUR", "46.20", "50.00", "50.00", "50.00") :=
    Lib.exists_ok_of_map (by decide +kernel)
  refine ⟨row, mapped, columns, ?_⟩
  rintro ⟨⟨factor, converted⟩, -⟩
  simp only [Prod.mk.injEq] at columns
  obtain ⟨-, amount, gross, -⟩ := columns
  have isAmount := converted.amounts "46.20" (by simp [amountColumns, amount])
  have isGross := converted.amounts "50.00" (by simp [amountColumns, gross])
  rw [isAmount] at isGross
  exact absurd (Except.ok.inj isGross) (by decide)

end FinanceSync.Wealthfolio
