import FinanceSync.Wealthfolio.TransactionMapper

/-!
# The sign of exported cash

The destination adds up the amounts of the rows, each in the direction of its
activity type.  The mapping keeps the sign of an amount exactly where the type of
the transaction looks at it or has the direction of the amount anyway.
-/

namespace FinanceSync.Wealthfolio

/-! ## The balance of the destination -/

/-- Whether the destination counts the amount of an activity as an inflow or as
an outflow. -/
def ActivityType.direction : ActivityType → Int
  | .deposit | .dividend | .interest | .credit | .transferIn => 1
  | .withdrawal | .fee | .tax | .transferOut => -1
  | .buy | .sell | .split | .adjustment | .unknown => 0

/-- What a row adds to the cash balance of the destination. -/
def WfRow.cashEffect (row : WfRow) : ℚ :=
  row.activityType.direction * (readNumber row.amount).getD 0

/-- The types of the transactions that only move cash. -/
def cashTypes : List TransactionType :=
  [.deposit, .withdrawal, .dividend, .interest, .fee, .tax, .payment, .cardPayment,
    .scheduledPayment, .other, .transfer]

def InAccountCurrency (options : MappingOptions) (txn : Transaction) : Prop :=
  sourceCurrency txn options = destinationCurrency txn options

/-! ## One row -/

theorem resolveAmount_of_cash {txn : Transaction} (cash : txn.transactionType ∈ cashTypes) :
    resolveAmount txn (resolveActivityType txn) = some |txn.amount| := by
  generalize kind : txn.transactionType = type at cash
  cases type with
  | other =>
      simp only [resolveActivityType, kind, if_true]
      split
      · rfl
      · rfl
  | transfer =>
      simp only [resolveActivityType, kind, reduceCtorEq, if_false, if_true]
      split
      · rfl
      · rfl
  | deposit | withdrawal | dividend | interest | fee | tax | payment | cardPayment
  | scheduledPayment =>
      simp only [resolveActivityType, kind]
      rfl
  | purchase | sale | split | adjustment | corporateAction => simp [cashTypes] at cash

/-- In the currency of the account the amount is not converted. -/
theorem resolveCashProjection_of_same {options : MappingOptions} {txn : Transaction}
    (same : InAccountCurrency options txn) (activityType : ActivityType) :
    resolveCashProjection txn activityType options =
      .ok ⟨sourceCurrency txn options, resolveAmount txn activityType, none⟩ := by
  simp only [resolveCashProjection]
  split
  · rfl
  · rw [if_pos (.inl same)]

variable {sha256 : String → String} {options : MappingOptions}

theorem cashEffect_of_cash {security : Option Security} {txn : Transaction} {row : WfRow}
    (exported : mapTransactionToWfRow sha256 options security txn = .ok row)
    (cash : txn.transactionType ∈ cashTypes) (same : InAccountCurrency options txn) :
    row.cashEffect = (resolveActivityType txn).direction * ((cents |txn.amount| : ℚ) / 100) := by
  obtain ⟨_, _, projection, known⟩ := rowOf_of_ok sha256 exported
  have isProjection := known.projected
  rw [resolveCashProjection_of_same same, resolveAmount_of_cash cash] at isProjection
  have isAmount := known.amount
  rw [← Except.ok.inj isProjection] at isAmount
  rw [WfRow.cashEffect, known.activityType, readNumber_fmtDecimal isAmount, Option.getD_some]

/-- A magnitude in cents, taken as an inflow, is within half a cent of a number
exactly if the number is no outflow of more than half a cent. -/
theorem inflow_near_iff (amount : ℚ) :
    |(cents |amount| : ℚ) / 100 - amount| ≤ 1 / 200 ↔ 0 ≤ amount ∨ |amount| ≤ 1 / 200 := by
  rcases le_or_gt 0 amount with inflow | outflow
  · rw [abs_of_nonneg inflow]
    exact iff_of_true (abs_cents_sub_le amount) (.inl inflow)
  · have nonneg : (0 : ℚ) ≤ cents |amount| := by exact_mod_cast cents_nonneg (abs_nonneg amount)
    constructor
    · intro near
      right
      have within := (abs_le.mp near).2
      rw [abs_of_neg outflow]
      linarith
    · intro small
      have magnitude : |amount| ≤ 1 / 200 := small.resolve_left outflow.not_ge
      have zero : cents |amount| = 0 := (cents_eq_zero_iff _).mpr (by rwa [abs_abs])
      rw [zero, Int.cast_zero, zero_div, zero_sub, abs_neg]
      exact magnitude

/-- The same for a magnitude taken as an outflow. -/
theorem outflow_near_iff (amount : ℚ) :
    |-((cents |amount| : ℚ) / 100) - amount| ≤ 1 / 200 ↔ amount ≤ 0 ∨ |amount| ≤ 1 / 200 := by
  have mirrored : |-((cents |amount| : ℚ) / 100) - amount| =
      |(cents |-amount| : ℚ) / 100 - -amount| := by
    rw [abs_neg amount, ← abs_neg]
    congr 1
    ring
  rw [mirrored, inflow_near_iff, abs_neg, neg_nonneg]

/-- The type of the transaction looks at the sign, or has the direction of the
amount, or the amount is less than a cent. -/
def SignCarried (txn : Transaction) : Prop :=
  txn.transactionType ∈ [.other, .transfer] ∨
    txn.transactionType ∈ [.deposit, .dividend, .interest] ∧ 0 ≤ txn.amount ∨
    txn.transactionType ∈ [.withdrawal, .fee, .tax, .payment, .cardPayment, .scheduledPayment] ∧
      txn.amount ≤ 0 ∨
    |txn.amount| ≤ 1 / 200

/-- An activity type that follows the sign of the amount has its direction. -/
theorem near_of_signed (inward outward : ActivityType) (into : inward.direction = 1)
    (out : outward.direction = -1) (amount : ℚ) :
    |((if 0 ≤ amount then inward else outward).direction : ℚ) * ((cents |amount| : ℚ) / 100) -
      amount| ≤ 1 / 200 := by
  split
  · next inflow =>
      rw [into, Int.cast_one, one_mul]
      exact (inflow_near_iff amount).mpr (.inl inflow)
  · next outflow =>
      rw [out, Int.cast_neg, Int.cast_one, neg_one_mul]
      exact (outflow_near_iff amount).mpr (.inl (not_le.mp outflow).le)

theorem direction_near_iff {txn : Transaction} (cash : txn.transactionType ∈ cashTypes) :
    |((resolveActivityType txn).direction : ℚ) * ((cents |txn.amount| : ℚ) / 100) - txn.amount| ≤
      1 / 200 ↔ SignCarried txn := by
  have inflow : (1 : ℚ) * ((cents |txn.amount| : ℚ) / 100) - txn.amount =
      (cents |txn.amount| : ℚ) / 100 - txn.amount := by rw [one_mul]
  have outflow : (-1 : ℚ) * ((cents |txn.amount| : ℚ) / 100) - txn.amount =
      -((cents |txn.amount| : ℚ) / 100) - txn.amount := by rw [neg_one_mul]
  generalize kind : txn.transactionType = type at cash
  cases type with
  | other =>
      simp only [resolveActivityType, kind, SignCarried, if_true]
      simpa using near_of_signed .deposit .withdrawal rfl rfl txn.amount
  | transfer =>
      simp only [resolveActivityType, kind, SignCarried, if_true]
      simpa using near_of_signed .transferIn .transferOut rfl rfl txn.amount
  | deposit | dividend | interest =>
      have isType : ((resolveActivityType txn).direction : ℚ) = 1 := by
        simp only [resolveActivityType, kind]
        rfl
      rw [isType, inflow, inflow_near_iff, SignCarried, kind]
      simp
  | withdrawal | fee | tax | payment | cardPayment | scheduledPayment =>
      have isType : ((resolveActivityType txn).direction : ℚ) = -1 := by
        simp only [resolveActivityType, kind]
        rfl
      rw [isType, outflow, outflow_near_iff, SignCarried, kind]
      simp
  | purchase | sale | split | adjustment | corporateAction => simp [cashTypes] at cash

/-! ## Any list of rows -/

/-- Rows that are each within half a cent add up to within half a cent for each. -/
theorem sum_near_of_forall {txns : List Transaction} {rows : List WfRow}
    (near : List.Forall₂ (fun txn row => |row.cashEffect - txn.amount| ≤ 1 / 200) txns rows) :
    |(rows.map WfRow.cashEffect).sum - (txns.map Transaction.amount).sum| ≤
      txns.length / 200 := by
  induction near with
  | nil => simp
  | @cons txn row txns rows first others ih =>
      simp only [List.map_cons, List.sum_cons, List.length_cons]
      push_cast
      have split : row.cashEffect + (rows.map WfRow.cashEffect).sum -
          (txn.amount + (txns.map Transaction.amount).sum) =
          row.cashEffect - txn.amount +
            ((rows.map WfRow.cashEffect).sum - (txns.map Transaction.amount).sum) := by ring
      rw [split]
      have triangle := abs_add_le (row.cashEffect - txn.amount)
        ((rows.map WfRow.cashEffect).sum - (txns.map Transaction.amount).sum)
      linarith

/-- The rows of cash transactions in the currency of the account have the signed
amounts of the transactions, and add up to the same cash, exactly if the sign of
every transaction is carried. -/
theorem cashEffect_near_iff (sha256 : String → String) (options : MappingOptions)
    (security : Transaction → Option Security) (txns : List Transaction) (rows : List WfRow)
    (exported : List.Forall₂
      (fun txn row => mapTransactionToWfRow sha256 options (security txn) txn = .ok row) txns rows)
    (cash : ∀ txn ∈ txns, txn.transactionType ∈ cashTypes)
    (same : ∀ txn ∈ txns, InAccountCurrency options txn) :
    (List.Forall₂ (fun txn row => |row.cashEffect - txn.amount| ≤ 1 / 200) txns rows ∧
      |(rows.map WfRow.cashEffect).sum - (txns.map Transaction.amount).sum| ≤
        txns.length / 200) ↔ ∀ txn ∈ txns, SignCarried txn := by
  have rowwise : List.Forall₂ (fun txn row => |row.cashEffect - txn.amount| ≤ 1 / 200) txns rows ↔
      ∀ txn ∈ txns, SignCarried txn := by
    induction exported with
    | nil => simp
    | @cons txn row txns rows first others inductionHypothesis =>
        have near := direction_near_iff (cash txn List.mem_cons_self)
        rw [← cashEffect_of_cash first (cash txn List.mem_cons_self)
          (same txn List.mem_cons_self)] at near
        rw [List.forall₂_cons, near, List.forall_mem_cons,
          inductionHypothesis (fun other otherMem => cash other (List.mem_cons_of_mem _ otherMem))
            fun other otherMem => same other (List.mem_cons_of_mem _ otherMem)]
  constructor
  · intro kept
    exact rowwise.mp kept.1
  · intro carried
    exact ⟨rowwise.mpr carried, sum_near_of_forall (rowwise.mpr carried)⟩

/-- Interest that the account was charged. -/
def chargedInterest : Transaction where
  id := "transaction-1"
  tenantId := "tenant-1"
  providerKey := "saxo"
  externalTransactionId := "I-1"
  accountId := "account-1"
  amount := -12.5
  currencyCode := "EUR"
  occurredAt := 1704067200000000
  transactionType := .interest
  description := some "Debit interest"
  status := .booked

/-- The key of the charged interest. -/
def interestHash (_ : String) : String :=
  "80e33f2a26effc0875c1a0a44a7f6f564ca8694caa24f78bb01e2ba0514fddf5"

/-- The row of the charged interest, and of interest of the same amount that the
account received. -/
def interestRow : WfRow where
  date := 19723
  symbol := ""
  instrumentType := ""
  quantity := "1.00"
  activityType := .interest
  unitPrice := "1.00"
  currency := "EUR"
  fee := "0.00"
  amount := "12.50"
  fxRate := ""
  settlementDate := none
  status := "POSTED"
  needsReview := false
  tax := ""
  sourceType := "INTEREST"
  subtype := ""
  grossAmount := ""
  netAmount := ""
  sourceSystem := "FINANCE_SYNC"
  sourceRecordId := "I-1"
  sourceGroupId := "saxo:account-1"
  idempotencyKey := interestHash ""
  importRunId := ""
  comment := "Debit interest | ID: I-1"
  isin := ""

private theorem mapped_interest :
    mapTransactionToWfRow interestHash { accountCurrency := some "EUR" } none chargedInterest =
        .ok interestRow ∧
      mapTransactionToWfRow interestHash { accountCurrency := some "EUR" } none
        { chargedInterest with amount := 12.5 } = .ok interestRow ∧
      interestRow.cashEffect = 12.5 := by
  decide +kernel

theorem cashEffect_near_received : List.Forall₂
    (fun txn row => |WfRow.cashEffect row - Transaction.amount txn| ≤ 1 / 200)
    [{ chargedInterest with amount := 12.5 }] [interestRow] := by
  apply And.left
  apply (cashEffect_near_iff interestHash { accountCurrency := some "EUR" } (fun _ => none)
    [{ chargedInterest with amount := 12.5 }] [interestRow] (.cons mapped_interest.2.1 .nil)
    (by simp [chargedInterest, cashTypes]) (by simp only [List.forall_mem_singleton]; rfl)).mpr
  simp only [List.mem_singleton, forall_eq]
  exact .inr (.inl ⟨by decide, by norm_num⟩)

/-- The charged interest is exported as received interest. -/
theorem chargedInterest_received :
    mapTransactionToWfRow interestHash { accountCurrency := some "EUR" } none chargedInterest =
        .ok interestRow ∧
      chargedInterest.transactionType ∈ cashTypes ∧
      InAccountCurrency { accountCurrency := some "EUR" } chargedInterest ∧
      interestRow.cashEffect = 12.5 ∧ chargedInterest.amount = -12.5 ∧
      ¬|interestRow.cashEffect - chargedInterest.amount| ≤ 1 / 200 := by
  refine ⟨mapped_interest.1, by decide, rfl, mapped_interest.2.2, rfl, ?_⟩
  rw [mapped_interest.2.2]
  norm_num [chargedInterest]

end FinanceSync.Wealthfolio
