import FinanceSync.Wealthfolio.TransactionMapper

/-!
# Easy Budgeting movements

Bunq moves money between budgets with transactions of its own.  They are told by
what the sync wrote into their metadata or by their description.
-/

namespace FinanceSync.Wealthfolio

/-- The text is the two ends with a name of one line between them, `(.+?)`. -/
def namesBetween (head ending text : List Char) : Bool :=
  let tail := text.drop head.length
  let name := tail.take (tail.length - ending.length)
  head.isPrefixOf text && ending.isSuffixOf tail && name ≠ [] && !name.contains '\n'

/-- A full match of the head, a name and `budget`, with or without a full stop. -/
def namesBudget (head text : List Char) : Bool :=
  namesBetween head " budget".toList text || namesBetween head " budget.".toList text

/-- `_EASY_BUDGETING_PATTERNS`, on a text in lower case. -/
def matchesEasyBudgeting (text : List Char) : Bool :=
  namesBudget "automatic top-up of your ".toList text ||
    text = "automatic budget top up".toList || text = "automatic budget top up.".toList ||
    namesBudget "remainder of your ".toList text

/-- Return whether the transaction is a Bunq Easy Budgeting movement. -/
def isBunqEasyBudgetingTransaction (txn : Transaction) : Bool :=
  let metadata := txn.providerMetadata.getD []
  let detection := ((dictGet metadata "internal_transfer_detection").map Json.str).getD ""
  let description := (strip (txn.description.getD "").toList).map Char.toLower
  txn.providerKey.toLower = "bunq" &&
    ("bunq_easy_budgeting".toList.isPrefixOf detection.toList || matchesEasyBudgeting description)

example : matchesEasyBudgeting "remainder of your holiday budget.".toList = true ∧
    matchesEasyBudgeting "remainder of your order".toList = false := by
  decide +kernel

end FinanceSync.Wealthfolio
