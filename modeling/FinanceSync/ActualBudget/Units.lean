import FinanceSync.ActualBudget.Client

/-!
# The unit of stored amounts

The client converts the amount of every payload from major units to cents.  The
payload of a transaction with a category is in major units, and what is stored is
its amount in cents.  Without a category the payload is in cents already, and what
is stored is a hundred times the amount.
-/

namespace FinanceSync.ActualBudget

open Lib
open Wealthfolio (cents cents_of_units)

/-- Major units with two decimals are converted to their cents. -/
def ConvertsCents (decimalToCents : ℚ → Int) : Prop :=
  ∀ units : Int, decimalToCents (units / 100) = units

theorem convertsCents_cents : ConvertsCents cents := cents_of_units

/-- The amounts of the children of a row. -/
def childAmounts (row : Option ImportedRow) : List Int :=
  ((row.map (·.children)).getD []).map (·.amount)

/-- After a batch that a transaction is part of, the row of the transaction has its
amount in cents, and one new child in cents for each of its splits. -/
def StoredInCents (decimalToCents : ℚ → Int) (budget : Budget) (account : String)
    (before after : List Payload) (txn : Transaction) (category : Option String) : Prop :=
  let key := (account, buildImportedId txn)
  let earlier := (budget.importTransactionsBatch decimalToCents account before).imported key
  let stored := (budget.importTransactionsBatch decimalToCents account
    (before ++ mapTransaction txn account category :: after)).imported key
  stored.map (·.amount) = some (cents txn.amount.value) ∧
    childAmounts stored =
      childAmounts earlier ++ txn.splits.map fun split => cents split.amount

section Conversion

variable {decimalToCents : ℚ → Int}

/-- Without a category the conversion is made twice. -/
theorem decimalToCents_payloadAmount (converts : ConvertsCents decimalToCents)
    (category : Option String) (amount : ℚ) :
    decimalToCents (payloadAmount category amount) =
      if category.isSome then cents amount else cents amount * 100 := by
  rw [payloadAmount]
  split
  · rw [majorAmount, converts]
  · have inMajorUnits : (cents amount : ℚ) = ((cents amount * 100 : Int) : ℚ) / 100 := by
      push_cast
      ring
    rw [inMajorUnits, converts]

theorem decimalToCents_payloadAmount_iff (converts : ConvertsCents decimalToCents)
    (category : Option String) (amount : ℚ) :
    decimalToCents (payloadAmount category amount) = cents amount ↔
      category.isSome ∨ cents amount = 0 := by
  rw [decimalToCents_payloadAmount converts]
  cases category with
  | some name => simp
  | none =>
      simp only [Option.isSome_none, Bool.false_eq_true, if_false, false_or]
      omega

/-- The row that a batch leaves for a transaction is the one its own payload
makes. -/
theorem imported_of_last {account : String} {after : List Payload} {txn : Transaction}
    (last : ∀ later ∈ after, buildImportedId txn ≠ later.importedId) (budget : Budget)
    (before : List Payload) (category : Option String) :
    (budget.importTransactionsBatch decimalToCents account
        (before ++ mapTransaction txn account category :: after)).imported
        (account, buildImportedId txn) =
      some (importedRow decimalToCents (mapTransaction txn account category)
        ((budget.importTransactionsBatch decimalToCents account before).imported
          (account, buildImportedId txn))) := by
  have lastWrite : ∀ later ∈ after.map (importWrite decimalToCents account),
      (importWrite decimalToCents account (mapTransaction txn account category)).key ≠
        later.key := by
    intro later laterMem sameKey
    obtain ⟨payload, payloadMem, rfl⟩ := List.mem_map.mp laterMem
    exact last payload payloadMem (Prod.mk.inj sameKey).2
  rw [Budget.importTransactionsBatch, List.map_append, List.map_cons]
  exact Write.applyAll_at (importWrite decimalToCents account (mapTransaction txn account category))
    lastWrite budget.imported

end Conversion

section Runs

/-- A payment without a category. -/
private def uncategorizedPayment : Transaction where
  id := "11111111-1111-1111-1111-111111111111"
  accountId := "checking"
  providerKey := "bunq"
  externalTransactionId := "pay-1"
  amount := ⟨-1234, -2⟩
  currencyCode := "EUR"
  occurredAt := 0
  transactionType := .payment
  description := some "Example Shop"
  status := .booked

/-- What is stored for the payment in an empty budget. -/
private def storedPayment : Option ImportedRow :=
  (Budget.empty.importTransactionsBatch cents "Checking"
    [mapTransaction uncategorizedPayment "Checking" (categoryName uncategorizedPayment)]).imported
    ("Checking", buildImportedId uncategorizedPayment)

end Runs

end FinanceSync.ActualBudget
