import FinanceSync.ActualBudget.TransactionMapper
import FinanceSync.Lib.Writes

/-!
# The budget that is exported to

The rows of an Actual budget as far as the client's calls reach them.  A
transaction that was imported is found again by its account and its imported id; a
native transfer is found by its note.  Amounts are stored in cents, and every call
converts the major units it is given.
-/

namespace FinanceSync.ActualBudget

open Lib

/-- A row under a parent row. -/
structure ChildRow where
  date : Int
  notes : Option String
  category : Option String
  amount : Int
  cleared : Bool
deriving DecidableEq, Repr

/-- An imported row with its children, in the order they were created. -/
structure ImportedRow where
  date : Int
  payee : String
  notes : Option String
  category : Option String
  amount : Int
  cleared : Bool
  importedPayee : Option String
  isParent : Bool
  children : List ChildRow
deriving DecidableEq, Repr

/-- The two rows of a native transfer. -/
structure Transfer where
  date : Int
  sourceAccount : String
  destinationAccount : String
  amount : Int
  notes : String
deriving DecidableEq, Repr

structure Budget where
  accounts : List String
  /-- The imported rows by account and imported id. -/
  imported : String × String → Option ImportedRow
  transfers : List Transfer

/-- A budget without accounts. -/
def Budget.empty : Budget := ⟨[], fun _ => none, []⟩

section Client

/- actualpy's conversion of major units. -/
variable (decimalToCents : ℚ → Int)

/-! ## Accounts and transfers -/

/-- Return an existing account or create one with the name. -/
def Budget.getOrCreateAccount (budget : Budget) (name : String) : Budget :=
  if name ∈ budget.accounts then budget
  else { budget with accounts := budget.accounts ++ [name] }

/-- Whether a transfer has the import reference as its note.  No other call writes a
reference. -/
def Budget.transferExists (budget : Budget) (reference : String) : Bool :=
  budget.transfers.any (·.notes = reference)

/-- Create a native transfer pair. -/
def Budget.createTransfer (budget : Budget) (date : Int)
    (sourceAccount destinationAccount : String) (amount : ℚ) (notes : String) : Budget :=
  { budget with
    transfers := budget.transfers ++
      [⟨date, sourceAccount, destinationAccount, decimalToCents amount, notes⟩] }

/-! ## Imported transactions -/

/-- `reconcile_transaction`: the metadata of the row with the imported id is
updated and its amount left as it is; where there is none, a row is created. -/
def reconcileTransaction (payload : Payload) (existing : Option ImportedRow) : ImportedRow :=
  { date := payload.date
    payee := payload.payee
    notes := payload.notes
    category := payload.category
    amount := (existing.map (·.amount)).getD (decimalToCents payload.amount)
    cleared := payload.cleared
    importedPayee := payload.importedPayee
    isParent := (existing.map (·.isParent)).getD false
    children := (existing.map (·.children)).getD [] }

/-- The row that `create_transaction` makes for a split. -/
def createSplitChild (parent : ImportedRow) (split : SplitPayload) : ChildRow where
  date := parent.date
  notes := split.notes
  category := split.category
  amount := decimalToCents split.amount
  cleared := parent.cleared

/-- Attach canonical split lines to a parent row. -/
def createSplitChildren (parent : ImportedRow) (splits : List SplitPayload) : ImportedRow :=
  { parent with
    isParent := true
    children := parent.children ++ splits.map (createSplitChild decimalToCents parent) }

/-- The row that importing a payload leaves. -/
def importedRow (payload : Payload) (existing : Option ImportedRow) : ImportedRow :=
  let parent := { reconcileTransaction decimalToCents payload existing with
    amount := decimalToCents payload.amount }
  if payload.splits.isEmpty then parent
  else createSplitChildren decimalToCents parent payload.splits

/-- The import of one payload into an account. -/
def importWrite (account : String) (payload : Payload) :
    Write (String × String) ImportedRow where
  key := (account, payload.importedId)
  entry := importedRow decimalToCents payload

/-- Import transactions using the reconcile-aware flow. -/
def Budget.importTransactionsBatch (budget : Budget) (account : String)
    (transactions : List Payload) : Budget :=
  { budget with
    imported := Write.applyAll budget.imported
      (transactions.map (importWrite decimalToCents account)) }

end Client

/-! ## What an import leaves -/

section Lemmas

variable {decimalToCents : ℚ → Int}

@[simp] theorem importWrite_key (account : String) (payload : Payload) :
    (importWrite decimalToCents account payload).key = (account, payload.importedId) := rfl

@[simp] theorem importWrite_entry (account : String) (payload : Payload) :
    (importWrite decimalToCents account payload).entry = importedRow decimalToCents payload := rfl

theorem importedRow_of_splits_nil {payload : Payload} (noSplits : payload.splits = [])
    (existing : Option ImportedRow) :
    importedRow decimalToCents payload existing =
      { reconcileTransaction decimalToCents payload existing with
        amount := decimalToCents payload.amount } := by
  rw [importedRow, noSplits, List.isEmpty_nil, if_pos rfl]

theorem amount_importedRow (payload : Payload) (existing : Option ImportedRow) :
    (importedRow decimalToCents payload existing).amount = decimalToCents payload.amount := by
  rw [importedRow]
  split
  · rfl
  · rfl

/-- The children of a row stay, and every split of the payload adds one. -/
theorem children_importedRow (payload : Payload) (existing : Option ImportedRow) :
    (importedRow decimalToCents payload existing).children =
      (existing.map (·.children)).getD [] ++
        payload.splits.map fun split =>
          ⟨payload.date, split.notes, split.category, decimalToCents split.amount,
            payload.cleared⟩ := by
  rw [importedRow]
  cases isSplits : payload.splits with
  | nil => simp [reconcileTransaction]
  | cons split rest => rfl

/-- Importing a payload without splits makes the row from the children that are
there. -/
theorem importWrite_absorbs {account other : String} {first second : Payload}
    (noSplits : first.splits = []) (alsoNone : second.splits = []) :
    Write.Absorbs (importWrite decimalToCents other second)
      (importWrite decimalToCents account first) := by
  intro _ entry
  simp only [importWrite_entry, importedRow_of_splits_nil noSplits,
    importedRow_of_splits_nil alsoNone, reconcileTransaction]
  rfl

end Lemmas

end FinanceSync.ActualBudget
