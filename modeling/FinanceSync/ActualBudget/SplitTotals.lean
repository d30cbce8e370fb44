import FinanceSync.ActualBudget.TransactionMapper
import FinanceSync.Ynab.TransactionMapper

/-!
# Split totals after the mapping

The parent and the parts of a transaction are rounded on their own, to cents for
Actual Budget and to milliunits for YNAB.  The rounded parts add up to the rounded
parent where what was rounded off them cancels.
-/

namespace FinanceSync.SplitTotals

/-- How far a number lies above the nearest whole one; negative where it lies below. -/
def offWhole (number : ℚ) : ℚ := number - roundHalfEven number

/-- What rounding takes off all parts. -/
def drift (scale : ℚ) (amounts : List ℚ) : ℚ :=
  (amounts.map fun amount => offWhole (amount * scale)).sum

/-- The parts lie less than half a unit off in total, or half a unit and the amount
lies that half away from an even number of units. -/
def Cancels (scale : ℚ) (amounts : List ℚ) : Prop :=
  |drift scale amounts| < 1 / 2 ∨
    |drift scale amounts| = 1 / 2 ∧
      ∃ even : Int, amounts.sum * scale = (2 * even : Int) + drift scale amounts

/-- The parts in whole units. -/
def rounded (scale : ℚ) (amounts : List ℚ) : List Int :=
  amounts.map fun amount => roundHalfEven (amount * scale)

theorem drift_eq (scale : ℚ) (amounts : List ℚ) :
    drift scale amounts = amounts.sum * scale - ((rounded scale amounts).sum : Int) := by
  induction amounts with
  | nil => simp [drift, rounded]
  | cons amount rest ih =>
      simp only [drift, rounded, List.map_cons, List.sum_cons] at ih ⊢
      rw [ih, offWhole]
      push_cast
      ring

/-- The rounded parts add up to the rounded total exactly where their drift cancels. -/
theorem sum_rounded_iff (scale : ℚ) (amounts : List ℚ) :
    (rounded scale amounts).sum = roundHalfEven (amounts.sum * scale) ↔ Cancels scale amounts := by
  have drifted := drift_eq scale amounts
  rw [eq_comm, roundHalfEven_eq_iff, IsNearest, ← drifted, Cancels]
  refine or_congr_right (and_congr_right fun _ => ?_)
  have total : amounts.sum * scale = ((rounded scale amounts).sum : Int) + drift scale amounts := by
    rw [drifted]
    ring
  rw [total]
  constructor
  · intro isEven
    refine ⟨(rounded scale amounts).sum / 2, ?_⟩
    rw [Int.mul_ediv_cancel' (Int.dvd_of_emod_eq_zero isEven)]
  · rintro ⟨even, same⟩
    have same : (rounded scale amounts).sum = 2 * even := by exact_mod_cast add_right_cancel same
    omega

/-! ## The two mappers -/

/-- What the two mappers read of one transaction: the amount and the parts. -/
structure SameAmounts (txn : ActualBudget.Transaction) (transaction : Ynab.Transaction) : Prop where
  amount : txn.amount.value = transaction.amount
  splits : txn.splits.map (·.amount) = transaction.splits.map (·.amount)

theorem actualBudget_sum (categoryName : Option String) (txn : ActualBudget.Transaction)
    (accountName : String) :
    ((ActualBudget.mapTransaction txn accountName categoryName).splits.map (·.amount)).sum =
        (ActualBudget.mapTransaction txn accountName categoryName).amount ↔
      (rounded 100 (txn.splits.map (·.amount))).sum = roundHalfEven (txn.amount.value * 100) := by
  have parts (splits : List ActualBudget.TransactionSplit) :
      ((splits.map (ActualBudget.mapSplit categoryName)).map (·.amount)).sum =
        ((rounded 100 (splits.map (·.amount))).sum : Int) *
          (if categoryName.isSome then (1 : ℚ) / 100 else 1) := by
    induction splits with
    | nil => simp [rounded]
    | cons split rest ih =>
        simp only [rounded, List.map_cons, List.sum_cons] at ih ⊢
        rw [ih]
        simp only [ActualBudget.mapSplit, ActualBudget.payloadAmount, ActualBudget.majorAmount,
          Wealthfolio.cents]
        push_cast
        split_ifs <;> ring
  have parent : ActualBudget.payloadAmount categoryName txn.amount.value =
      (roundHalfEven (txn.amount.value * 100) : ℚ) *
        (if categoryName.isSome then (1 : ℚ) / 100 else 1) := by
    simp only [ActualBudget.payloadAmount, ActualBudget.majorAmount, Wealthfolio.cents]
    split_ifs <;> ring
  have unit : (if categoryName.isSome then (1 : ℚ) / 100 else 1) ≠ 0 := by
    split_ifs <;> norm_num
  simp only [ActualBudget.mapTransaction]
  rw [parts, parent, mul_left_inj' unit, Int.cast_inj]

theorem ynab_sum (transaction : Ynab.Transaction) (accountId : String)
    (categoryId transferAccountId : Option String) :
    ((Ynab.mapTransaction transaction accountId categoryId
          transferAccountId).subtransactions.map (·.amount)).sum =
        (Ynab.mapTransaction transaction accountId categoryId transferAccountId).amount ↔
      (rounded 1000 (transaction.splits.map (·.amount))).sum =
        roundHalfEven (transaction.amount * 1000) := by
  simp only [Ynab.mapTransaction, List.map_map, rounded]
  rfl

/-- The parts of a transaction that add up to its amount still do so for both
destinations exactly where what is rounded off them cancels, in cents and in
milliunits. -/
theorem totals_survive_iff (txn : ActualBudget.Transaction) (transaction : Ynab.Transaction)
    (same : SameAmounts txn transaction)
    (exact : (transaction.splits.map (·.amount)).sum = transaction.amount)
    (accountName accountId : String) (categoryName categoryId transferAccountId : Option String) :
    ((ActualBudget.mapTransaction txn accountName categoryName).splits.map (·.amount)).sum =
          (ActualBudget.mapTransaction txn accountName categoryName).amount ∧
        ((Ynab.mapTransaction transaction accountId categoryId
          transferAccountId).subtransactions.map (·.amount)).sum =
          (Ynab.mapTransaction transaction accountId categoryId transferAccountId).amount ↔
      Cancels 100 (transaction.splits.map (·.amount)) ∧
        Cancels 1000 (transaction.splits.map (·.amount)) := by
  rw [actualBudget_sum, ynab_sum, same.amount, same.splits, ← sum_rounded_iff, ← sum_rounded_iff,
    exact]

/-! ### A payment in two halves -/

/-- A payment of 10.01 in two halves. -/
def halvedPayment : ActualBudget.Transaction where
  id := "tx-1"
  accountId := "account-1"
  providerKey := "bunq"
  externalTransactionId := "1"
  amount := ⟨-1001, -2⟩
  currencyCode := "EUR"
  occurredAt := 0
  transactionType := .payment
  splits := [⟨-5.005, none, none⟩, ⟨-5.005, none, none⟩]

/-- The same payment as YNAB's mapper reads it. -/
def halvedPaymentYnab : Ynab.Transaction where
  providerKey := "bunq"
  externalTransactionId := "1"
  amount := -10.01
  occurredAt := 0
  transactionType := .payment
  splits := [⟨-5.005, none, none⟩, ⟨-5.005, none, none⟩]

/-- Each half loses half a cent, so that the parts come to 10.00. -/
theorem halves_lose_cent :
    (halvedPayment.splits.map (·.amount)).sum = halvedPayment.amount.value ∧
      ((ActualBudget.mapTransaction halvedPayment "Checking" none).splits.map (·.amount)).sum =
        -1000 ∧
      (ActualBudget.mapTransaction halvedPayment "Checking" none).amount = -1001 := by
  decide +kernel

theorem totals_survive_halved :
    ((ActualBudget.mapTransaction halvedPayment "Checking" none).splits.map (·.amount)).sum =
          (ActualBudget.mapTransaction halvedPayment "Checking" none).amount ∧
        ((Ynab.mapTransaction halvedPaymentYnab "account" none none).subtransactions.map
          (·.amount)).sum = (Ynab.mapTransaction halvedPaymentYnab "account" none none).amount ↔
      Cancels 100 [-5.005, -5.005] ∧ Cancels 1000 [-5.005, -5.005] :=
  totals_survive_iff halvedPayment halvedPaymentYnab ⟨by decide +kernel, rfl⟩
    (by norm_num [halvedPaymentYnab]) "Checking" "account" none none none

end FinanceSync.SplitTotals
