import FinanceSync.Data.CsvReader
import FinanceSync.Data.QuantityEvent
import FinanceSync.Lib.Markers
import FinanceSync.Sync.Sources

/-!
# Reading a CSV file

`_parse_csv` of the CSV connector, row by row.  The transaction of a row is named by the
number of the row, so that a row keeps its name in a later version of the file where
no row was added before it.  A row that is too short for one of the columns, and an
amount that is no number, leave the connector with an exception that it does not catch.
-/

namespace FinanceSync.Sync

open Csv

namespace CsvImport

/-- What the connector takes from the Python runtime. -/
structure Runtime where
  /-- `datetime.strptime(text, format).replace(tzinfo=UTC)` -/
  strptime : String → String → Option Instant
  lower : String → String
  /-- The ASCII digit of a decimal digit of any script, and every other character itself. -/
  digit : Char → Char

/-- The options of the connector and the name of the file. -/
structure Options where
  fileName : String
  dateFormat : String := "%Y-%m-%d"
  delimiter : Char := ','
  hasHeader : Bool := true
  currency : String := "EUR"
  dateCol : String := "Date"
  descCol : String := "Description"
  amountCol : String := "Amount"
  /-- A column of types, where a name for it is configured. -/
  typeCol : Option String := none

/-- The lines of a file, and whether the file cannot be decoded after them. -/
structure Source where
  lines : List (List Char)
  undecodable : Bool := false

/-- The exceptions that a row raises. -/
inductive RowException
  /-- `ValueError`, of the format of the date -/
  | date
  /-- `ValueError`, of the validation of the transaction -/
  | amountNotFinite
  | attributeError
  | invalidOperation
deriving DecidableEq

def RowException.isValueError : RowException → Bool
  | date | amountNotFinite => true
  | attributeError | invalidOperation => false

/-- The exceptions that an import raises. -/
inductive ImportException
  /-- `TransientError`, `Failed to parse CSV row … in …` -/
  | transient (rowNum : Nat) (fileName : String) (cause : RowException)
  | escaped (exception : RowException)
  | reader (error : ReadError)

def ImportException.isTransient : ImportException → Bool
  | transient .. => true
  | escaped _ | reader _ => false

/-- `row.get(name, default).strip()` -/
def stripped (row : DictRow) (name : String) (default : List Char) :
    Except RowException (List Char) :=
  match row.get name with
  | .absent => .ok (strip default)
  | .none => .error .attributeError
  | .text content => .ok (strip content)

/-- The amount without currency symbols and with a decimal point. -/
def plainAmount (text : List Char) : List Char :=
  (strip (text.filter fun char => char ∉ ['€', '$', '\u00A0'])).map fun char =>
    if char = ',' then '.' else char

variable (runtime : Runtime) (options : Options)

/-- `Decimal(raw_amount.replace(",", "."))` -/
def readAmount (text : List Char) : Except RowException ParsedDecimal :=
  match parseDecimal ((plainAmount text).map runtime.digit) with
  | none => .error .invalidOperation
  | some amount => .ok amount

/-- `amount > 0` -/
def isPositive : ParsedDecimal → Except RowException Bool
  | .finite amount => .ok (0 < amount.value)
  | .infinity negative => .ok !negative
  | .nan => .error .invalidOperation

def transactionType (row : DictRow) (amount : ParsedDecimal) : Except RowException String :=
  match options.typeCol with
  | some typeCol => do return runtime.lower (String.ofList (← stripped row typeCol []))
  | none => do return if ← isPositive amount then "credit" else "debit"

/-- Amounts of a `RawTransaction` are finite. -/
def finiteAmount : ParsedDecimal → Except RowException Decimal
  | .finite amount => .ok amount
  | .infinity _ | .nan => .error .amountNotFinite

def txnId (rowNum : Nat) : String := "csv_" ++ options.fileName ++ "_" ++ toString rowNum

/-- The transaction of a row with its moment. -/
def buildTransaction (rowNum : Nat) (row : DictRow) (occurredAt : Instant) :
    Except RowException RawTransaction := do
  let amount ← readAmount runtime (← stripped row options.amountCol ['0'])
  let description ← stripped row options.descCol []
  let transactionType ← transactionType runtime options row amount
  return {
    externalTransactionId := txnId options rowNum
    externalAccountId := "csv_" ++ options.fileName
    amount := ← finiteAmount amount
    currencyCode := options.currency
    occurredAt
    description := some (String.ofList description)
    transactionType
    status := "booked" }

/-- The transaction of a row of the window; rows without a date and rows from before
the window are skipped. -/
def readRow (since : Instant) (rowNum : Nat) (row : DictRow) :
    Except RowException (Option RawTransaction) :=
  match stripped row options.dateCol [] with
  | .error exception => .error exception
  | .ok rawDate =>
      if rawDate = [] then .ok none
      else
        match runtime.strptime (String.ofList rawDate) options.dateFormat with
        | none => .error .date
        | some occurredAt =>
            if occurredAt < since then .ok none
            else (buildTransaction runtime options rowNum row occurredAt).map some

/-- The loop over the rows from a number on, and what the reader raises after them. -/
def readRows (since : Instant) (failure : Option ReadError) :
    Nat → List DictRow → Except ImportException (List RawTransaction)
  | _, [] =>
      match failure with
      | none => .ok []
      | some error => .error (.reader error)
  | rowNum, row :: rows =>
      match readRow runtime options since rowNum row with
      | .error exception =>
          if exception.isValueError then
            .error (.transient rowNum options.fileName exception)
          else .error (.escaped exception)
      | .ok transaction =>
          (readRows since failure (rowNum + 1) rows).map (transaction.toList ++ ·)

/-- The rows that the reader gives, and what it raises after them. -/
def sourceRows (source : Source) : List DictRow × Option ReadError :=
  let (records, failure) :=
    reader options.delimiter source.lines (if source.undecodable then some .undecodable else none)
  let fieldnames :=
    if options.hasHeader then none
    else some [options.dateCol, options.descCol, options.amountCol]
  (dictRows fieldnames records, failure)

/-- `_parse_csv` -/
def parseCsv (since : Instant) (source : Source) :
    Except ImportException (List RawTransaction) :=
  let (rows, failure) := sourceRows options source
  readRows runtime options since failure 1 rows

/-! ## What the cells of a row say -/

/-- The row is long enough for the column, or the file has no such column. -/
def Present (row : DictRow) (name : String) : Prop := row.get name ≠ .none

/-- The row has a date of the format, from the window. -/
def InWindow (since : Instant) (row : DictRow) : Prop :=
  ∃ rawDate occurredAt, stripped row options.dateCol [] = .ok rawDate ∧ rawDate ≠ [] ∧
    runtime.strptime (String.ofList rawDate) options.dateFormat = some occurredAt ∧
    since ≤ occurredAt

/-- The row has a date that is not of the format. -/
def Misdated (row : DictRow) : Prop :=
  ∃ rawDate, stripped row options.dateCol [] = .ok rawDate ∧ rawDate ≠ [] ∧
    runtime.strptime (String.ofList rawDate) options.dateFormat = none

/-- The cells that a transaction is built from are there. -/
def Complete (row : DictRow) : Prop :=
  ∀ name ∈ options.amountCol :: options.descCol :: options.typeCol.toList, Present row name

/-- The number in the cell of the amount. -/
def amountOf (row : DictRow) : Option ParsedDecimal :=
  match row.get options.amountCol with
  | .absent => (readAmount runtime ['0']).toOption
  | .none => none
  | .text content => (readAmount runtime (strip content)).toOption

def Imports (since : Instant) (row : DictRow) : Prop :=
  InWindow runtime options since row ∧ Complete options row ∧
    ∃ amount, amountOf runtime options row = some (.finite amount)

/-- The row ends the import with a `TransientError`. -/
def Refused (since : Instant) (row : DictRow) : Prop :=
  Misdated runtime options row ∨
    InWindow runtime options since row ∧ Complete options row ∧
      ((∃ negative, amountOf runtime options row = some (.infinity negative)) ∨
        options.typeCol ≠ none ∧ amountOf runtime options row = some .nan)

/-- The row ends the import with another exception: a cell that is read is not there, or
the amount is no number. -/
def Escapes (since : Instant) (row : DictRow) : Prop :=
  ¬ Present row options.dateCol ∨
    InWindow runtime options since row ∧
      (¬ Complete options row ∨ amountOf runtime options row = none ∨
        options.typeCol = none ∧ amountOf runtime options row = some .nan)

section Rows

variable {runtime : Runtime} {options : Options} {row : DictRow}

theorem stripped_of_present {name : String} (default : List Char) (present : Present row name) :
    ∃ text, stripped row name default = .ok text := by
  unfold stripped
  cases found : row.get name with
  | absent => exact ⟨_, rfl⟩
  | none => exact absurd found present
  | text content => exact ⟨_, rfl⟩

theorem stripped_of_not_present {name : String} {default : List Char}
    (notPresent : ¬ Present row name) :
    stripped row name default = .error .attributeError := by
  rw [stripped, not_not.mp notPresent]

theorem amountOf_of_stripped {text : List Char}
    (found : stripped row options.amountCol ['0'] = .ok text) :
    amountOf runtime options row = (readAmount runtime text).toOption := by
  unfold stripped at found
  unfold amountOf
  cases cell : row.get options.amountCol with
  | absent =>
      rw [cell] at found
      rw [← Except.ok.inj found]
      rfl
  | none =>
      rw [cell] at found
      cases found
  | text content =>
      rw [cell] at found
      rw [← Except.ok.inj found]

theorem readAmount_error {text : List Char} {exception : RowException}
    (failed : readAmount runtime text = .error exception) : exception = .invalidOperation := by
  unfold readAmount at failed
  split at failed
  · exact (Except.error.inj failed).symm
  · cases failed

/-- A transaction that is built depends on the cells through the amount only. -/
theorem buildTransaction_of_complete (runtime : Runtime) (complete : Complete options row)
    (rowNum : Nat) (occurredAt : Instant) :
    match amountOf runtime options row with
    | none => buildTransaction runtime options rowNum row occurredAt = .error .invalidOperation
    | some (.finite _) =>
        ∃ transaction, buildTransaction runtime options rowNum row occurredAt = .ok transaction ∧
          transaction.externalTransactionId = txnId options rowNum
    | some (.infinity _) =>
        buildTransaction runtime options rowNum row occurredAt = .error .amountNotFinite
    | some .nan =>
        buildTransaction runtime options rowNum row occurredAt =
          .error (if options.typeCol = none then .invalidOperation else .amountNotFinite) := by
  obtain ⟨amountText, amountFound⟩ :=
    stripped_of_present ['0'] (complete options.amountCol (by simp))
  obtain ⟨description, descriptionFound⟩ :=
    stripped_of_present [] (complete options.descCol (by simp))
  rw [amountOf_of_stripped amountFound]
  unfold buildTransaction
  rw [amountFound, descriptionFound]
  simp only [bind, Except.bind]
  cases read : readAmount runtime amountText with
  | error exception =>
      rw [readAmount_error read]
      rfl
  | ok amount =>
      unfold transactionType
      cases typed : options.typeCol with
      | none =>
          cases amount with
          | finite amount => exact ⟨_, rfl, rfl⟩
          | infinity negative => rfl
          | nan => rfl
      | some typeCol =>
          obtain ⟨kind, kindFound⟩ :=
            stripped_of_present [] (complete typeCol (by simp [typed]))
          simp only [bind, Except.bind, kindFound]
          cases amount with
          | finite amount => exact ⟨_, rfl, rfl⟩
          | infinity negative => rfl
          | nan => rfl

theorem buildTransaction_of_not_complete (runtime : Runtime)
    (notComplete : ¬ Complete options row) (rowNum : Nat) (occurredAt : Instant) :
    ∃ exception, buildTransaction runtime options rowNum row occurredAt = .error exception ∧
      exception.isValueError = false := by
  unfold buildTransaction
  by_cases amountPresent : Present row options.amountCol
  · obtain ⟨amountText, amountFound⟩ := stripped_of_present ['0'] amountPresent
    simp only [bind, Except.bind, amountFound]
    cases read : readAmount runtime amountText with
    | error exception => exact ⟨exception, rfl, readAmount_error read ▸ rfl⟩
    | ok amount =>
        by_cases descriptionPresent : Present row options.descCol
        · obtain ⟨description, descriptionFound⟩ :=
            stripped_of_present [] descriptionPresent
          cases typed : options.typeCol with
          | none =>
              apply absurd _ notComplete
              simp [Complete, typed, amountPresent, descriptionPresent]
          | some typeCol =>
              have typeMissing : ¬ Present row typeCol := by
                intro typePresent
                apply notComplete
                simp [Complete, typed, amountPresent, descriptionPresent, typePresent]
              refine ⟨.attributeError, ?_, rfl⟩
              simp only [descriptionFound, transactionType, typed, bind, Except.bind,
                stripped_of_not_present typeMissing]
        · refine ⟨.attributeError, ?_, rfl⟩
          simp only [stripped_of_not_present descriptionPresent]
  · refine ⟨.attributeError, ?_, rfl⟩
    simp only [bind, Except.bind, stripped_of_not_present amountPresent]

variable {since : Instant}

theorem readRow_of_inWindow (inWindow : InWindow runtime options since row) :
    ∃ occurredAt, ∀ rowNum, readRow runtime options since rowNum row =
      (buildTransaction runtime options rowNum row occurredAt).map some := by
  obtain ⟨rawDate, occurredAt, found, notBlank, dated, notBefore⟩ := inWindow
  refine ⟨occurredAt, fun rowNum => ?_⟩
  simp only [readRow, found, if_neg notBlank, dated, if_neg (not_lt.mpr notBefore)]

theorem readRow_of_misdated (misdated : Misdated runtime options row) (rowNum : Nat) :
    readRow runtime options since rowNum row = .error .date := by
  obtain ⟨rawDate, found, notBlank, notDated⟩ := misdated
  simp only [readRow, found, if_neg notBlank, notDated]

/-- A row that is read without its date in the window is skipped. -/
theorem readRow_of_outside (present : Present row options.dateCol)
    (notMisdated : ¬ Misdated runtime options row)
    (outside : ¬ InWindow runtime options since row) (rowNum : Nat) :
    readRow runtime options since rowNum row = .ok none := by
  obtain ⟨rawDate, found⟩ := stripped_of_present [] present
  simp only [readRow, found]
  split
  · rfl
  · next notBlank =>
      cases dated : runtime.strptime (String.ofList rawDate) options.dateFormat with
      | none => exact absurd ⟨rawDate, found, notBlank, dated⟩ notMisdated
      | some occurredAt =>
          apply if_pos
          rw [← not_le]
          intro notBefore
          exact outside ⟨rawDate, occurredAt, found, notBlank, dated, notBefore⟩

theorem readRow_of_escapes (escapes : Escapes runtime options since row) (rowNum : Nat) :
    ∃ exception, readRow runtime options since rowNum row = .error exception ∧
      exception.isValueError = false := by
  cases escapes with
  | inl noDate =>
      refine ⟨.attributeError, ?_, rfl⟩
      simp only [readRow, stripped_of_not_present noDate]
  | inr escapes =>
      obtain ⟨inWindow, escapes⟩ := escapes
      obtain ⟨occurredAt, reads⟩ := readRow_of_inWindow inWindow
      rw [reads]
      by_cases complete : Complete options row
      · have built := buildTransaction_of_complete runtime complete rowNum occurredAt
        refine ⟨.invalidOperation, ?_, rfl⟩
        rcases escapes with notComplete | noNumber | ⟨noType, isNan⟩
        · exact absurd complete notComplete
        · rw [noNumber] at built
          rw [built]
          rfl
        · rw [isNan] at built
          rw [built, if_pos noType]
          rfl
      · obtain ⟨exception, built, escaped⟩ :=
          buildTransaction_of_not_complete runtime complete rowNum occurredAt
        exact ⟨exception, by rw [built]; rfl, escaped⟩

theorem readRow_of_refused (refused : Refused runtime options since row) (rowNum : Nat) :
    ∃ exception, readRow runtime options since rowNum row = .error exception ∧
      exception.isValueError = true := by
  cases refused with
  | inl misdated => exact ⟨.date, readRow_of_misdated misdated rowNum, rfl⟩
  | inr refused =>
      obtain ⟨inWindow, complete, notFinite⟩ := refused
      obtain ⟨occurredAt, reads⟩ := readRow_of_inWindow inWindow
      have built := buildTransaction_of_complete runtime complete rowNum occurredAt
      refine ⟨.amountNotFinite, ?_, rfl⟩
      rw [reads]
      rcases notFinite with ⟨negative, isInfinite⟩ | ⟨typed, isNan⟩
      · rw [isInfinite] at built
        rw [built]
        rfl
      · rw [isNan] at built
        rw [built, if_neg typed]
        rfl

theorem readRow_of_imports (imports : Imports runtime options since row) (rowNum : Nat) :
    ∃ transaction, readRow runtime options since rowNum row = .ok (some transaction) ∧
      transaction.externalTransactionId = txnId options rowNum := by
  obtain ⟨inWindow, complete, amount, isFinite⟩ := imports
  obtain ⟨occurredAt, reads⟩ := readRow_of_inWindow inWindow
  have built := buildTransaction_of_complete runtime complete rowNum occurredAt
  rw [isFinite] at built
  obtain ⟨transaction, built, named⟩ := built
  exact ⟨transaction, by rw [reads, built]; rfl, named⟩

/-- Every other row is skipped. -/
theorem readRow_of_other (notEscapes : ¬ Escapes runtime options since row)
    (notRefused : ¬ Refused runtime options since row)
    (notImports : ¬ Imports runtime options since row) (rowNum : Nat) :
    readRow runtime options since rowNum row = .ok none := by
  apply readRow_of_outside
  · intro noDate
    exact notEscapes (.inl (not_not.mpr noDate))
  · intro misdated
    exact notRefused (.inl misdated)
  · intro inWindow
    have complete : Complete options row := by
      by_contra notComplete
      exact notEscapes (.inr ⟨inWindow, .inl notComplete⟩)
    cases read : amountOf runtime options row with
    | none => exact notEscapes (.inr ⟨inWindow, .inr (.inl read)⟩)
    | some amount =>
        cases amount with
        | finite amount => exact notImports ⟨inWindow, complete, amount, read⟩
        | infinity negative =>
            exact notRefused (.inr ⟨inWindow, complete, .inl ⟨negative, read⟩⟩)
        | nan =>
            by_cases typed : options.typeCol = none
            · exact notEscapes (.inr ⟨inWindow, .inr (.inr ⟨typed, read⟩)⟩)
            · exact notRefused (.inr ⟨inWindow, complete, .inr ⟨typed, read⟩⟩)

end Rows

/-! ## Runs over the rows -/

/-- The import returns transactions or raises a `TransientError`. -/
def FailsCleanly {α : Type} (result : Except ImportException α) : Prop :=
  ∀ exception, result = .error exception → exception.isTransient = true

/-- Where a row escapes, or the reader fails, another row was refused before. -/
def EndsWell (since : Instant) (failure : Option ReadError) (rows : List DictRow) : Prop :=
  (∀ before row after, rows = before ++ row :: after → Escapes runtime options since row →
    ∃ earlier ∈ before, Refused runtime options since earlier) ∧
  (failure ≠ none → ∃ row ∈ rows, Refused runtime options since row)

section Runs

variable {runtime : Runtime} {options : Options} {since : Instant} {failure : Option ReadError}

theorem not_escapes_of_refused {row : DictRow} (refused : Refused runtime options since row) :
    ¬ Escapes runtime options since row := by
  intro escapes
  obtain ⟨exception, raised, isValueError⟩ := readRow_of_refused refused 1
  obtain ⟨other, otherRaised, notValueError⟩ := readRow_of_escapes escapes 1
  rw [raised, Except.error.injEq] at otherRaised
  rw [otherRaised, notValueError] at isValueError
  cases isValueError

theorem endsWell_cons_iff {row : DictRow} {rows : List DictRow} :
    EndsWell runtime options since failure (row :: rows) ↔
      Refused runtime options since row ∨
        ¬ Escapes runtime options since row ∧ EndsWell runtime options since failure rows := by
  constructor
  · intro endsWell
    by_cases refused : Refused runtime options since row
    · exact .inl refused
    · refine .inr ⟨?_, ?_, ?_⟩
      · intro escapes
        obtain ⟨earlier, earlierMem, -⟩ := endsWell.1 [] row rows rfl escapes
        cases earlierMem
      · intro before other after split escapes
        obtain ⟨earlier, earlierMem, earlierRefused⟩ :=
          endsWell.1 (row :: before) other after (congrArg (row :: ·) split) escapes
        cases earlierMem with
        | head => exact absurd earlierRefused refused
        | tail _ earlierMem => exact ⟨earlier, earlierMem, earlierRefused⟩
      · intro failed
        obtain ⟨other, otherMem, otherRefused⟩ := endsWell.2 failed
        cases otherMem with
        | head => exact absurd otherRefused refused
        | tail _ otherMem => exact ⟨other, otherMem, otherRefused⟩
  · intro cases
    constructor
    · intro before other after split escapes
      cases before with
      | nil =>
          obtain ⟨rfl, rfl⟩ := List.cons.inj split
          cases cases with
          | inl refused => exact absurd escapes (not_escapes_of_refused refused)
          | inr endsWell => exact absurd escapes endsWell.1
      | cons first before =>
          obtain ⟨rfl, rfl⟩ := List.cons.inj split
          cases cases with
          | inl refused => exact ⟨row, List.mem_cons_self, refused⟩
          | inr endsWell =>
              obtain ⟨earlier, earlierMem, refused⟩ := endsWell.2.1 before other after rfl escapes
              exact ⟨earlier, List.mem_cons_of_mem _ earlierMem, refused⟩
    · intro failed
      cases cases with
      | inl refused => exact ⟨row, List.mem_cons_self, refused⟩
      | inr endsWell =>
          obtain ⟨other, otherMem, refused⟩ := endsWell.2.2 failed
          exact ⟨other, List.mem_cons_of_mem _ otherMem, refused⟩

theorem failsCleanly_map_iff {α β : Type} {result : Except ImportException α} {change : α → β} :
    FailsCleanly (result.map change) ↔ FailsCleanly result := by
  cases result with
  | error exception => simp [FailsCleanly, Except.map]
  | ok value => simp [FailsCleanly, Except.map]

/-- The loop ends with the first row that is refused or escapes. -/
theorem failsCleanly_readRows_iff (rows : List DictRow) (rowNum : Nat) :
    FailsCleanly (readRows runtime options since failure rowNum rows) ↔
      EndsWell runtime options since failure rows := by
  induction rows generalizing rowNum with
  | nil =>
      cases failure with
      | none => simp [FailsCleanly, EndsWell, readRows]
      | some error => simp [FailsCleanly, EndsWell, readRows, ImportException.isTransient]
  | cons row rows ih =>
      rw [endsWell_cons_iff, readRows]
      by_cases refused : Refused runtime options since row
      · obtain ⟨exception, raised, isValueError⟩ := readRow_of_refused refused rowNum
        simp [raised, isValueError, refused, FailsCleanly, ImportException.isTransient]
      · by_cases escapes : Escapes runtime options since row
        · obtain ⟨exception, raised, notValueError⟩ := readRow_of_escapes escapes rowNum
          simp [raised, notValueError, refused, escapes, FailsCleanly, ImportException.isTransient]
        · have goesOn : ∃ transaction,
              readRow runtime options since rowNum row = .ok transaction := by
            by_cases imports : Imports runtime options since row
            · obtain ⟨transaction, read, -⟩ := readRow_of_imports imports rowNum
              exact ⟨some transaction, read⟩
            · exact ⟨none, readRow_of_other escapes refused imports rowNum⟩
          obtain ⟨transaction, read⟩ := goesOn
          simp only [read, failsCleanly_map_iff, ih, refused, escapes, false_or, not_false_eq_true,
            true_and]

end Runs

/-! ## Names of the rows in two versions of a file -/

inductive Version
  | earlier
  | later
deriving DecidableEq

/-- The rows of a version, each with whether it is in the earlier version already. -/
abbrev History := List (DictRow × Bool)

def Version.has : Version → DictRow × Bool → Bool
  | earlier, entry => entry.2
  | later, _ => true

def rowsOf (version : Version) (history : History) : List DictRow :=
  (history.filter version.has).map Prod.fst

/-- The transaction that the row becomes under a number. -/
def transactionOf (since : Instant) (rowNum : Nat) (row : DictRow) : Option RawTransaction :=
  (readRow runtime options since rowNum row).toOption.join

/-- The `external_transaction_id` of the row at a place, when a version is imported. -/
def idAt (since : Instant) (version : Version) (history : History) (place : Nat) :
    Option String :=
  match history[place]? with
  | none => none
  | some entry =>
      if version.has entry then
        (transactionOf runtime options since
          ((rowsOf version (history.take place)).length + 1) entry.1).map
            RawTransaction.externalTransactionId
      else none

/-- Rows have one id in both versions, and different rows have different ids. -/
def IdsFollowRows (since : Instant) (history : History) : Prop :=
  ∀ version otherVersion place otherPlace id otherId,
    idAt runtime options since version history place = some id →
    idAt runtime options since otherVersion history otherPlace = some otherId →
    (id = otherId ↔ place = otherPlace)

/-- No row was added before a row that was imported already. -/
def AddedBehind (since : Instant) (history : History) : Prop :=
  ∀ place row, history[place]? = some (row, true) → Imports runtime options since row →
    ∀ entry ∈ history.take place, entry.2 = true

section Names

variable {runtime : Runtime} {options : Options} {since : Instant} {history : History}

theorem readRows_eq {failure : Option ReadError} {rowNum : Nat} {rows : List DictRow}
    {transactions : List RawTransaction}
    (read : readRows runtime options since failure rowNum rows = .ok transactions) :
    transactions = (rows.zipIdx rowNum).filterMap fun (row, number) =>
      transactionOf runtime options since number row := by
  induction rows generalizing rowNum transactions with
  | nil =>
      cases failure with
      | none => exact (Except.ok.inj read).symm
      | some error => cases read
  | cons row rows ih =>
      rw [readRows] at read
      cases first : readRow runtime options since rowNum row with
      | error exception =>
          simp only [first] at read
          split at read
          · cases read
          · cases read
      | ok transaction =>
          simp only [first] at read
          cases rest : readRows runtime options since failure (rowNum + 1) rows with
          | error exception =>
              rw [rest] at read
              cases read
          | ok later =>
              rw [rest] at read
              have opened : transactionOf runtime options since rowNum row = transaction := by
                rw [transactionOf, first]
                rfl
              rw [List.zipIdx_cons, List.filterMap_cons, ← ih rest, ← Except.ok.inj read]
              simp only [opened]
              cases transaction with
              | none => rfl
              | some transaction => rfl

theorem rowsOf_append (version : Version) (first second : History) :
    rowsOf version (first ++ second) = rowsOf version first ++ rowsOf version second := by
  simp [rowsOf]

theorem idAt_append {version : Version} {later : History} {place : Nat}
    (within : place < history.length) :
    idAt runtime options since version (history ++ later) place =
      idAt runtime options since version history place := by
  rw [idAt, idAt, List.getElem?_append_left within, List.take_append_of_le_length within.le]

/-- The ids of the transactions of a version, place by place. -/
theorem ids_eq (version : Version) (history : History) :
    (((rowsOf version history).zipIdx 1).filterMap fun (row, number) =>
      transactionOf runtime options since number row).map RawTransaction.externalTransactionId =
      (List.range history.length).filterMap
        (idAt runtime options since version history) := by
  induction history using List.reverseRecOn with
  | nil => rfl
  | append_singleton history entry ih =>
      have before : (List.range history.length).filterMap
          (idAt runtime options since version (history ++ [entry])) =
          (List.range history.length).filterMap (idAt runtime options since version history) := by
        apply List.filterMap_congr
        intro place placeMem
        exact idAt_append (List.mem_range.mp placeMem)
      rw [rowsOf_append, List.zipIdx_append, List.filterMap_append, List.map_append, ih,
        List.length_append, List.length_singleton, List.range_succ, List.filterMap_append, before]
      congr 1
      rw [List.filterMap_cons, List.filterMap_nil, idAt, List.getElem?_concat_length,
        List.take_left]
      cases has : version.has entry with
      | false => simp [rowsOf, has]
      | true =>
          simp only [rowsOf, has, List.filter_cons_of_pos, List.filter_nil, List.map_cons,
            List.map_nil, List.zipIdx_cons, List.zipIdx_nil, List.filterMap_cons,
            List.filterMap_nil, if_true]
          rw [Nat.add_comm]
          cases transactionOf runtime options since _ entry.1 with
          | none => rfl
          | some transaction => rfl

theorem transactionOf_id {rowNum : Nat} {row : DictRow} {transaction : RawTransaction}
    (found : transactionOf runtime options since rowNum row = some transaction) :
    Imports runtime options since row ∧
      transaction.externalTransactionId = txnId options rowNum := by
  rw [transactionOf] at found
  by_cases imports : Imports runtime options since row
  · obtain ⟨other, read, named⟩ := readRow_of_imports imports rowNum
    rw [read] at found
    cases found
    exact ⟨imports, named⟩
  · by_cases refused : Refused runtime options since row
    · obtain ⟨exception, raised, -⟩ := readRow_of_refused refused rowNum
      rw [raised] at found
      cases found
    · by_cases escapes : Escapes runtime options since row
      · obtain ⟨exception, raised, -⟩ := readRow_of_escapes escapes rowNum
        rw [raised] at found
        cases found
      · rw [readRow_of_other escapes refused imports] at found
        cases found

theorem idAt_eq_some_iff {version : Version} {place : Nat} {id : String} :
    idAt runtime options since version history place = some id ↔
      ∃ entry, history[place]? = some entry ∧ version.has entry = true ∧
        Imports runtime options since entry.1 ∧
        id = txnId options ((rowsOf version (history.take place)).length + 1) := by
  rw [idAt]
  cases found : history[place]? with
  | none => simp
  | some entry =>
      simp only [Option.some.injEq, exists_eq_left']
      cases has : version.has entry with
      | false => simp
      | true =>
          simp only [if_true, true_and, Option.map_eq_some_iff]
          constructor
          · rintro ⟨transaction, built, rfl⟩
            exact transactionOf_id built
          · rintro ⟨imports, rfl⟩
            obtain ⟨transaction, read, named⟩ := readRow_of_imports imports
              ((rowsOf version (history.take place)).length + 1)
            exact ⟨transaction, by rw [transactionOf, read]; rfl, named⟩

theorem txnId_injective {first second : Nat} (same : txnId options first = txnId options second) :
    first = second :=
  Lib.eq_of_append_toString _ same

/-- Among the rows of a version that stand before a place are all rows, or one was added. -/
theorem length_rowsOf_take_iff (version : Version) {place : Nat} {entry : DictRow × Bool}
    (found : history[place]? = some entry) :
    (rowsOf version (history.take place)).length = place ↔
      ∀ entry ∈ history.take place, version.has entry = true := by
  have within : place < history.length := (List.getElem?_eq_some_iff.mp found).1
  have isLength : (history.take place).length = place := List.length_take_of_le within.le
  rw [rowsOf, List.length_map, ← List.countP_eq_length_filter]
  conv => enter [1, 2]; rw [← isLength]
  rw [List.countP_eq_length]

theorem idsFollowRows_iff :
    IdsFollowRows runtime options since history ↔ AddedBehind runtime options since history := by
  constructor
  · intro follow place row found imports
    have inVersion (version : Version) :
        idAt runtime options since version history place =
          some (txnId options ((rowsOf version (history.take place)).length + 1)) := by
      refine idAt_eq_some_iff.mpr ⟨(row, true), found, ?_, imports, rfl⟩
      cases version with
      | earlier => rfl
      | later => rfl
    have sameId := (follow .earlier .later place place _ _ (inVersion _) (inVersion _)).mpr rfl
    have sameNumber := Nat.succ.inj (txnId_injective sameId)
    rw [(length_rowsOf_take_iff .later found).mpr fun _ _ => rfl] at sameNumber
    exact (length_rowsOf_take_iff .earlier found).mp sameNumber
  · intro behind
    have numbered {version : Version} {place : Nat} {id : String}
        (isId : idAt runtime options since version history place = some id) :
        id = txnId options (place + 1) := by
      obtain ⟨entry, found, has, imports, isName⟩ := idAt_eq_some_iff.mp isId
      have allBefore : ∀ other ∈ history.take place, version.has other = true := by
        cases version with
        | later => exact fun _ _ => rfl
        | earlier =>
            obtain ⟨row, kept⟩ := entry
            cases has
            exact behind place row found imports
      rw [isName, (length_rowsOf_take_iff version found).mpr allBefore]
    intro version otherVersion place otherPlace id otherId isId isOtherId
    rw [numbered isId, numbered isOtherId]
    constructor
    · intro same
      exact Nat.succ.inj (txnId_injective same)
    · rintro rfl
      rfl

end Names

/-- Rows keep their ids exactly where no row was added before an imported one, and a
file fails cleanly exactly where no row escapes first. -/
theorem ids_and_failures_iff (since : Instant) :
    (∀ history, IdsFollowRows runtime options since history ↔
      AddedBehind runtime options since history) ∧
    ∀ source, FailsCleanly (parseCsv runtime options since source) ↔
      EndsWell runtime options since (sourceRows options source).2
        (sourceRows options source).1 :=
  ⟨fun _ => idsFollowRows_iff, fun _ => failsCleanly_readRows_iff _ _⟩

/-! ## Where the ids and the failures go wrong -/

def march : Runtime where
  strptime text _ :=
    if text = "2026-03-01" then some 0 else if text = "2026-03-02" then some 1 else none
  lower := id
  digit := id

def bankFile : Options := { fileName := "bank.csv" }

def bankRow (cells : List String) : DictRow :=
  { fieldnames := ["Date", "Description", "Amount"], values := cells.map String.toList }

/-- A salary that the bank exports above the rent of the day before. -/
def salaryOnTop : History :=
  [(bankRow ["2026-03-02", "Salary", "2100"], false),
    (bankRow ["2026-03-01", "Rent", "-850"], true)]

/-- A row that ends before its amount. -/
def shortRow : Source where
  lines := ["Date,Description,Amount\n".toList, "2026-03-01,Rent\n".toList]

/-- The salary gets the id of the rent, and the short row raises an `AttributeError`. -/
theorem salary_takes_id_of_rent :
    (idAt march bankFile 0 .earlier salaryOnTop 1 = some "csv_bank.csv_1" ∧
      idAt march bankFile 0 .later salaryOnTop 0 = some "csv_bank.csv_1" ∧
      ¬ IdsFollowRows march bankFile 0 salaryOnTop) ∧
    ¬ FailsCleanly (parseCsv march bankFile 0 shortRow) := by
  have rent : idAt march bankFile 0 .earlier salaryOnTop 1 = some "csv_bank.csv_1" := by
    decide +kernel
  have salary : idAt march bankFile 0 .later salaryOnTop 0 = some "csv_bank.csv_1" := by
    decide +kernel
  refine ⟨⟨rent, salary, ?_⟩, ?_⟩
  · intro follow
    have samePlace := (follow .earlier .later 1 0 _ _ rent salary).mp rfl
    cases samePlace
  · intro clean
    have raised : parseCsv march bankFile 0 shortRow = .error (.escaped .attributeError) := by
      rfl
    cases clean _ raised

end CsvImport

end FinanceSync.Sync
