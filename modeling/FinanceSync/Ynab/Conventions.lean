import FinanceSync.Ynab.Connector
import FinanceSync.Ynab.TransactionMapper
import Mathlib.Algebra.BigOperators.Group.List.Basic
import Mathlib.Algebra.Ring.Rat
import Mathlib.Data.Int.ConditionallyCompleteOrder
import Mathlib.Data.Sign.Defs
import Mathlib.Tactic.FieldSimp
import Mathlib.Tactic.Ring

/-!
# Signs on the way to YNAB and back

The exporter keeps the sign of an amount and the importer inverts it; the importer
drops the sign of a balance.  So an amount comes back as it was only if it is zero,
and the balance of an account agrees with what is imported of it only if YNAB
reports no positive balance.
-/

namespace FinanceSync.Ynab

/-- A number of milliunits. -/
def Milliunits (amount : ℚ) : Prop := ∃ units : Int, amount = units / 1000

/-- Reading a transaction gives the amount of the canonical transaction. -/
def ReadsBack (budgetCurrency budgetId : String) (data : TransactionData)
    (transaction : Transaction) : Prop :=
  (parseTransaction budgetCurrency data budgetId).amount = transaction.amount

/-- The imported balance has the sign of the reported one. -/
def KeepsSign (budgetCurrency budgetId : String) (account : AccountData) : Prop :=
  SignType.sign (parseAccount budgetCurrency account budgetId).currentBalance =
    SignType.sign (account.balance.getD 0)

/-- The imported balance is the sum of the imported transactions. -/
def BalanceAgrees (budgetCurrency budgetId : String) (account : AccountData)
    (transactions : List TransactionData) : Prop :=
  (parseAccount budgetCurrency account budgetId).currentBalance =
    (transactions.map fun data => (parseTransaction budgetCurrency data budgetId).amount).sum

section Signs

variable (budgetCurrency budgetId : String)

theorem milliunits_of_units (units : Int) : milliunits (units / 1000) = units := by
  have whole : ((units : ℚ) / 1000) * 1000 = units := by ring
  rw [milliunits, whole]
  exact le_antisymm (roundHalfEven_le le_rfl) (le_roundHalfEven le_rfl)

/-- An amount in whole milliunits comes back with the opposite sign. -/
theorem amount_parseTransaction {transaction : Transaction} (whole : Milliunits transaction.amount)
    {data : TransactionData} {accountId : String} {categoryId transferAccountId : Option String}
    (stored : data.amount =
      some (mapTransaction transaction accountId categoryId transferAccountId).amount) :
    (parseTransaction budgetCurrency data budgetId).amount = -transaction.amount := by
  obtain ⟨units, isUnits⟩ := whole
  have sent : (mapTransaction transaction accountId categoryId transferAccountId).amount = units := by
    rw [mapTransaction, isUnits]
    exact milliunits_of_units units
  rw [parseTransaction, stored, sent, isUnits, Option.getD_some]

theorem readsBack_iff {transaction : Transaction} (whole : Milliunits transaction.amount)
    {data : TransactionData} {accountId : String} {categoryId transferAccountId : Option String}
    (stored : data.amount =
      some (mapTransaction transaction accountId categoryId transferAccountId).amount) :
    ReadsBack budgetCurrency budgetId data transaction ↔ transaction.amount = 0 := by
  rw [ReadsBack, amount_parseTransaction budgetCurrency budgetId whole stored]
  constructor
  · intro same
    linarith
  · intro zero
    rw [zero, neg_zero]

theorem keepsSign_iff (account : AccountData) :
    KeepsSign budgetCurrency budgetId account ↔ 0 ≤ account.balance.getD 0 := by
  have reported : (parseAccount budgetCurrency account budgetId).currentBalance =
      |((account.balance.getD 0 : Int) : ℚ)| / 1000 := by
    rw [parseAccount, abs_div, abs_of_pos (by norm_num : (0 : ℚ) < 1000)]
  rw [KeepsSign, reported]
  rcases lt_trichotomy (account.balance.getD 0) 0 with negative | zero | positive
  · have imported : (0 : ℚ) < |((account.balance.getD 0 : Int) : ℚ)| / 1000 := by
      have nonzero : ((account.balance.getD 0 : Int) : ℚ) ≠ 0 := by exact_mod_cast negative.ne
      positivity
    rw [sign_pos imported, sign_neg negative]
    simp [negative]
  · simp [zero]
  · have imported : (0 : ℚ) < |((account.balance.getD 0 : Int) : ℚ)| / 1000 := by
      have nonzero : ((account.balance.getD 0 : Int) : ℚ) ≠ 0 := by exact_mod_cast positive.ne'
      positivity
    rw [sign_pos imported, sign_pos positive]
    simp [positive.le]

theorem sum_amount_parseTransaction (transactions : List TransactionData) :
    (transactions.map fun data => (parseTransaction budgetCurrency data budgetId).amount).sum =
      -((transactions.map fun data => data.amount.getD 0).sum : Int) / 1000 := by
  induction transactions with
  | nil => simp
  | cons data rest ih =>
      rw [List.map_cons, List.sum_cons, ih, List.map_cons, List.sum_cons,
        parseTransaction]
      push_cast
      ring

theorem balanceAgrees_iff {account : AccountData} {transactions : List TransactionData}
    (full : account.balance.getD 0 = (transactions.map fun data => data.amount.getD 0).sum) :
    BalanceAgrees budgetCurrency budgetId account transactions ↔ account.balance.getD 0 ≤ 0 := by
  rw [BalanceAgrees, sum_amount_parseTransaction, ← full, parseAccount, abs_div,
    abs_of_pos (by norm_num : (0 : ℚ) < 1000), div_left_inj' (by norm_num), abs_eq_neg_self]
  exact Int.cast_nonpos

end Signs

/-- An amount comes back as it was exactly if it is zero, a balance keeps its sign
exactly if it is not negative, and the balance of a fully imported account agrees with
its transactions exactly if it is not positive. -/
theorem conventions_agree_iff (budgetCurrency budgetId accountId : String)
    (categoryId transferAccountId : Option String) {transaction : Transaction}
    (whole : Milliunits transaction.amount) {data : TransactionData}
    (stored : data.amount =
      some (mapTransaction transaction accountId categoryId transferAccountId).amount)
    {account : AccountData} {transactions : List TransactionData}
    (full : account.balance.getD 0 = (transactions.map fun data => data.amount.getD 0).sum) :
    (ReadsBack budgetCurrency budgetId data transaction ↔ transaction.amount = 0) ∧
      (KeepsSign budgetCurrency budgetId account ↔ 0 ≤ account.balance.getD 0) ∧
      (BalanceAgrees budgetCurrency budgetId account transactions ↔
        account.balance.getD 0 ≤ 0) :=
  ⟨readsBack_iff budgetCurrency budgetId whole stored,
    keepsSign_iff budgetCurrency budgetId account,
    balanceAgrees_iff budgetCurrency budgetId full⟩

section Runs

private def groceries : Transaction where
  providerKey := "bunq"
  externalTransactionId := "pay-1"
  amount := -1234 / 100
  occurredAt := 0
  merchantName := some "Example Shop"
  transactionType := .payment
  status := .booked
  splits := [{ amount := -7, destination := some "food" }]

/-- What YNAB returns for the payment. -/
private def ynabGroceries : TransactionData where
  id := some "t-1"
  accountId := some "a-1"
  date := some "1970-01-01"
  amount := some (-12340)
  payeeName := some "Example Shop"
  cleared := some "cleared"

private def overdrawn : AccountData where
  id := some "a-1"
  name := some "Checking"
  balance := some (-12340)

private def salary : TransactionData where
  id := some "t-2"
  accountId := some "a-2"
  amount := some 42500

private def funded : AccountData where
  id := some "a-2"
  name := some "Savings"
  balance := some 42500

private theorem groceries_units : groceries.amount = (-12340 : Int) / 1000 := by
  norm_num [groceries]

private theorem ynabGroceries_stored :
    ynabGroceries.amount = some (mapTransaction groceries "a-1" none none).amount := by
  rw [mapTransaction, groceries_units, milliunits_of_units]
  rfl

theorem conventions_agree_iff_of_groceries :
    (ReadsBack "EUR" "budget" ynabGroceries groceries ↔ groceries.amount = 0) ∧
      (KeepsSign "EUR" "budget" overdrawn ↔ 0 ≤ overdrawn.balance.getD 0) ∧
      (BalanceAgrees "EUR" "budget" overdrawn [ynabGroceries] ↔ overdrawn.balance.getD 0 ≤ 0) :=
  conventions_agree_iff "EUR" "budget" "a-1" none none ⟨-12340, groceries_units⟩
    ynabGroceries_stored rfl

/-- A payment of 12.34 comes back as an income, an overdrawn account as one with
money in it, and a salary of 42.50 is taken off an account that holds it. -/
theorem payment_reads_back_as_income :
    (parseTransaction "EUR" ynabGroceries "budget").amount = 1234 / 100 ∧
      ynabGroceries.amount = some (mapTransaction groceries "a-1" none none).amount ∧
      ¬ReadsBack "EUR" "budget" ynabGroceries groceries ∧
      (parseAccount "EUR" overdrawn "budget").currentBalance = 1234 / 100 ∧
      ¬KeepsSign "EUR" "budget" overdrawn ∧ ¬BalanceAgrees "EUR" "budget" funded [salary] := by
  refine ⟨by decide +kernel, ynabGroceries_stored, ?_, by decide +kernel, ?_, ?_⟩
  · rw [ReadsBack]
    decide +kernel
  · rw [KeepsSign]
    decide +kernel
  · rw [BalanceAgrees]
    decide +kernel

end Runs

end FinanceSync.Ynab
