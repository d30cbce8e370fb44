import FinanceSync.Saxo.RepeatedExports
import Mathlib.Data.List.GetD

/-!
# The two readers of a workbook

A workbook that openpyxl refuses is read from its XML instead.  The XML reader keeps
a number as the text has it, where openpyxl goes through an integer or a float, and
leaves a date as its serial number.  Since the external id hashes the texts of the
values, a booking keeps its id exactly if those texts survive both ways.
-/

namespace FinanceSync.Saxo

/-! ## What a file stores -/

/-- The text of a number in a worksheet. -/
structure NumberText where
  raw : String
  decimal : Decimal
  parsed : parseDecimal raw.toList = some (.finite decimal)

inductive Stored
  | missing
  | shared (text : String)
  | number (number : NumberText)
  | date (serial : NumberText)

abbrev Worksheet := List (List Stored)

/-- An export file: the worksheet `sheet1.xml` among the others. -/
structure Package where
  name : String
  before : List Worksheet
  sheet1 : Worksheet
  after : List Worksheet

/-- What is taken from openpyxl. -/
structure Openpyxl where
  /-- `str(float(text))` of a number -/
  floatStr : ℚ → String
  /-- The date of a serial number. -/
  fromExcel : ℚ → Instant

/-! ## The readers -/

/-- `openpyxl` reads a text without a point and an exponent as an integer. -/
def NumberText.isInteger (number : NumberText) : Bool :=
  number.raw.toList.all fun char => char ∉ ['.', 'e', 'E']

def NumberText.str (openpyxl : Openpyxl) (number : NumberText) : String :=
  if number.isInteger then (⟨number.decimal.coefficient, 0⟩ : Decimal).str
  else openpyxl.floatStr number.decimal.value

namespace Stored

/-- The value that openpyxl gives. -/
def value (openpyxl : Openpyxl) : Stored → Cell
  | .missing => .empty
  | .shared text => .text text
  | .number numeral => .number (numeral.str openpyxl)
  | .date serial => .datetime (openpyxl.fromExcel serial.decimal.value)

/-- The value that the XML reader gives: a `Decimal` of every number. -/
def xmlValue : Stored → Cell
  | .missing => .empty
  | .shared text => .text text
  | .number numeral => .number numeral.decimal.str
  | .date serial => .number serial.decimal.str

def isMissing : Stored → Bool
  | .missing => true
  | _ => false

end Stored

def sheetValues (openpyxl : Openpyxl) (sheet : Worksheet) : List Row :=
  sheet.map fun row => row.map (Stored.value openpyxl)

/-- A row of the XML reader ends with its last value. -/
def readXmlValues (sheet : Worksheet) : List Row :=
  sheet.map fun row => (row.rdropWhile Stored.isMissing).map Stored.xmlValue

/-- `_read_workbook` where openpyxl succeeds. -/
def readWorkbook (openpyxl : Openpyxl) (package : Package) : Workbook :=
  ⟨package.name,
    (package.before ++ package.sheet1 :: package.after).map (sheetValues openpyxl)⟩

/-- `_read_workbook` where openpyxl fails. -/
def readFallback (package : Package) : Workbook :=
  ⟨package.name, [readXmlValues package.sheet1]⟩

/-! ## What both readers should agree about -/

/-- The part of a transaction by which a later import knows it again. -/
structure Identity where
  externalTransactionId : String
  occurredAt : Instant
  amount : ℚ
  quantity : Option ℚ
  unitPrice : Option ℚ
deriving DecidableEq

def Booking.identity (booking : Booking) : Identity :=
  ⟨booking.externalTransactionId, booking.occurredAt, booking.amount.value,
    booking.quantity.map Decimal.value, booking.unitPrice.map Decimal.value⟩

variable (runtime : Runtime) (config : Config) (openpyxl : Openpyxl)

/-- The transactions that the import of a file emits, or none if it refuses the
file. -/
def transactionsRead (workbook : Workbook) : Option (List Identity) :=
  (load runtime config [workbook]).toOption.map fun loaded =>
    loaded.transactions.map fun transaction => transaction.booking.identity

def ReadersAgree (package : Package) : Prop :=
  transactionsRead runtime config (readWorkbook openpyxl package) =
    transactionsRead runtime config (readFallback package)

instance (package : Package) : Decidable (ReadersAgree runtime config openpyxl package) :=
  inferInstanceAs (Decidable (_ = _))

/-! ## The conditions -/

def Refused (workbook : Workbook) : Prop :=
  ∀ loaded, load runtime config [workbook] ≠ .ok loaded

/-- A text as the fingerprint takes it. -/
def folded (text : String) : String := runtime.casefold (cleanText text)

/-- The cell of a row in the first of the columns that the sheet has. -/
def storedIn (headers : List String) (row : List Stored) (columns : List String) : Stored :=
  (columns.findSome? fun header =>
    (column headers header).map fun position => row.getD position .missing).getD .missing

/-- Both readers give the fingerprint the same text. -/
def Stored.SameText (stored : Stored) : Prop :=
  folded runtime ((stored.value openpyxl).str runtime) =
    folded runtime (stored.xmlValue.str runtime)

/-- Both readers give the same code of a currency or an instrument. -/
def Stored.SameCode (stored : Stored) : Prop :=
  folded runtime (runtime.upper (clean runtime (stored.value openpyxl))) =
    folded runtime (runtime.upper (clean runtime stored.xmlValue))

/-- The columns whose texts the fingerprint takes. -/
def textColumns : List (List String) :=
  [["Transactie-ID", "Order-ID", "Bk Record Id"], ["Booking Id", "Bk Record Id"],
    ["Transactietype", "Type"], ["Acties"], ["Instrumentsymbool"], ["Instrument"]]

def codeColumns : List (List String) := [["Valuta"], ["Instrument ISIN"]]

/-- The description of a row through one of the readers. -/
def descriptionOf (read : Stored → Cell) (headers : List String) (row : List Stored) : String :=
  let text (header : String) : String := clean runtime (read (storedIn headers row [header]))
  " ".intercalate ([text "Acties", text "Opmerking"].filter (· ≠ ""))

/-- The quantity and the price in a description. -/
def tradeValues (description : String) : Option (Option ℚ × Option ℚ) :=
  (tradeDetails runtime description).toOption.map fun (quantity, price) =>
    (quantity.map Decimal.value, price.map Decimal.value)

/-- The values that identify the booking of a row are the same through both readers:
its date, the text of its amount, its texts and its trade. -/
structure RowAlike (headers : List String) (row : List Stored) : Prop where
  occurredAt :
    (asDatetime runtime ((storedIn headers row ["Transactiedatum"]).value openpyxl)).toOption =
      (asDatetime runtime (storedIn headers row ["Transactiedatum"]).xmlValue).toOption
  amount :
    (decimal runtime ((storedIn headers row ["Boekingsbedrag"]).value openpyxl) "").toOption =
      (decimal runtime (storedIn headers row ["Boekingsbedrag"]).xmlValue "").toOption
  texts : ∀ columns ∈ textColumns, (storedIn headers row columns).SameText runtime openpyxl
  codes : ∀ columns ∈ codeColumns, (storedIn headers row columns).SameCode runtime openpyxl
  trade :
    tradeValues runtime (descriptionOf runtime (Stored.value openpyxl) headers row) =
      tradeValues runtime (descriptionOf runtime Stored.xmlValue headers row)

/-- The row of a worksheet carries a booking amount. -/
def Carries (sheet : Worksheet) (row : List Stored) : Prop :=
  clean runtime ((storedIn (headersOf runtime (sheetValues openpyxl sheet)) row
    ["Boekingsbedrag"]).value openpyxl) ∉ blanks

instance (sheet : Worksheet) : DecidablePred (Carries runtime openpyxl sheet) :=
  fun _ => inferInstanceAs (Decidable (_ ∉ _))

def bookedRows (sheet : Worksheet) : List (List Stored) :=
  if isTransactionSheet runtime (sheetValues openpyxl sheet) then
    sheet.tail.filter fun row => Carries runtime openpyxl sheet row
  else []

/-- Only the worksheet that the XML reader sees has bookings, and the two readers
identify each of them the same way. -/
structure BookingsAlike (package : Package) : Prop where
  others : ∀ sheet ∈ package.before ++ package.after, bookedRows runtime openpyxl sheet = []
  rows : ∀ row ∈ bookedRows runtime openpyxl package.sheet1,
    RowAlike runtime openpyxl (headersOf runtime (sheetValues openpyxl package.sheet1)) row

/-! ## Names in cells -/

structure Openpyxl.Lawful (openpyxl : Openpyxl) : Prop where
  /-- The text of a float has a digit unless the number is too large for it. -/
  floatStr_digit : ∀ number, (∃ digit ∈ (openpyxl.floatStr number).toList, digit.isDigit) ∨
    openpyxl.floatStr number ∈ ["inf", "-inf"]

/-- The text of a date has a digit. -/
def Runtime.NaiveDigits (runtime : Runtime) : Prop :=
  ∀ instant, ∃ digit ∈ (runtime.naiveStr instant).toList, digit.isDigit

/-- A text that neither a number nor a date has. -/
def IsName (text : String) : Prop :=
  text.toList.any Char.isDigit = false ∧ text ∉ ["inf", "-inf"]

instance (text : String) : Decidable (IsName text) := inferInstanceAs (Decidable (_ ∧ _))

section Names

variable {runtime} {openpyxl}

theorem digit_mem_cleanText {text : String} {digit : Char} (isMem : digit ∈ text.toList)
    (isDigit : digit.isDigit = true) : digit ∈ (cleanText text).toList := by
  rw [cleanText, String.toList_ofList]
  apply mem_strip _ (isSpace_of_isDigit isDigit)
  apply List.mem_map.mpr
  refine ⟨digit, isMem, if_neg ?_⟩
  rintro rfl
  cases isDigit

/-- Text with a digit is no name. -/
theorem cleanText_ne_of_digit {text name : String} (isName : IsName name)
    (digits : ∃ digit ∈ text.toList, digit.isDigit) : cleanText text ≠ name := by
  obtain ⟨digit, isMem, isDigit⟩ := digits
  rintro rfl
  exact List.any_eq_false.mp isName.1 digit (digit_mem_cleanText isMem isDigit) isDigit

theorem numberStr_ne {numeral : NumberText} {name : String} (lawful : openpyxl.Lawful)
    (isName : IsName name) : cleanText (numeral.str openpyxl) ≠ name := by
  rw [NumberText.str]
  split
  · exact cleanText_ne_of_digit isName (Decimal.exists_digit_str _)
  · cases lawful.floatStr_digit numeral.decimal.value with
    | inl digits => exact cleanText_ne_of_digit isName digits
    | inr infinite =>
        have unchanged : ∀ text ∈ ["inf", "-inf"], cleanText text = text := by decide +kernel
        rw [unchanged _ infinite]
        rintro rfl
        exact isName.2 infinite

/-- A name stands in a cell through one reader if it does through the other. -/
theorem clean_eq_name_iff (lawful : openpyxl.Lawful) (naive : runtime.NaiveDigits) {name : String}
    (isName : IsName name) (stored : Stored) :
    clean runtime (stored.value openpyxl) = name ↔ clean runtime stored.xmlValue = name := by
  cases stored with
  | missing => rfl
  | shared text => rfl
  | number numeral =>
      exact iff_of_false (numberStr_ne lawful isName)
        (cleanText_ne_of_digit isName (Decimal.exists_digit_str _))
  | date serial =>
      exact iff_of_false (cleanText_ne_of_digit isName (naive _))
        (cleanText_ne_of_digit isName (Decimal.exists_digit_str _))

end Names

/-! ## The sheets through both readers -/

section Sheets

variable {runtime} {openpyxl}

/-- The column of a header is the last one with it. -/
theorem column_concat (headers : List String) (last header : String) :
    column (headers ++ [last]) header =
      if last = header then some headers.length else column headers header := by
  rw [column, List.zipIdx_append, List.filter_append, List.getLast?_append]
  by_cases here : last = header
  · simp [here]
  · simp [here, column]

theorem column_eq_some_iff {headers : List String} {header : String} {position : Nat} :
    column headers header = some position ↔
      headers[position]? = some header ∧
        ∀ later : Nat, position < later → headers[later]? ≠ some header := by
  induction headers using List.reverseRecOn with
  | nil => simp [column]
  | append_singleton headers last ih =>
      rw [column_concat]
      split
      · next here =>
          rw [Option.some_inj, here]
          constructor
          · rintro rfl
            refine ⟨by simp, ?_⟩
            intro later isLater
            rw [List.getElem?_eq_none (by simp; omega)]
            simp
          · rintro ⟨found, isLast⟩
            by_contra other
            have inside : position < (headers ++ [header]).length :=
              (List.getElem?_eq_some_iff.mp found).1
            rw [List.length_append, List.length_singleton] at inside
            exact isLast headers.length (by omega) (by simp)
      · next elsewhere =>
          rw [ih]
          have same : ∀ place : Nat, (headers ++ [last])[place]? = some header ↔
              headers[place]? = some header := by
            intro place
            rw [List.getElem?_append]
            split
            · rfl
            · next outside =>
                rw [List.getElem?_eq_none (not_lt.mp outside), List.getElem?_singleton]
                simp [elsewhere]
          simp only [same, ne_eq]

theorem column_congr {headers others : List String} {header : String}
    (same : ∀ position : Nat,
      headers[position]? = some header ↔ others[position]? = some header) :
    column headers header = column others header := by
  apply Option.ext
  intro position
  simp only [column_eq_some_iff, same, ne_eq]

theorem getD_rdropWhile (row : List Stored) (position : Nat) :
    (row.rdropWhile Stored.isMissing).getD position .missing = row.getD position .missing := by
  induction row using List.reverseRecOn with
  | nil => rfl
  | append_singleton row last ih =>
      rw [List.rdropWhile_concat]
      split
      · next missing =>
          rw [ih]
          cases last with
          | missing =>
              by_cases inside : position < row.length
              · rw [List.getD_append _ _ _ _ inside]
              · rw [List.getD_append_right _ _ _ _ (not_lt.mp inside),
                  List.getD_eq_default _ _ (not_lt.mp inside)]
                cases position - row.length <;> rfl
          | shared text => cases missing
          | number numeral => cases missing
          | date serial => cases missing
      · rfl

theorem getElem?_eq_name_iff {headers : List String} {name : String} (nonempty : name ≠ "")
    (position : Nat) : headers[position]? = some name ↔ headers.getD position "" = name := by
  rw [List.getD_eq_getElem?_getD]
  cases headers[position]? with
  | none => simp [nonempty.symm]
  | some header => simp

theorem getD_map_clean (read : Stored → Cell) (missing : read .missing = .empty)
    (row : List Stored) (position : Nat) :
    ((row.map read).map (clean runtime)).getD position "" =
      clean runtime (read (row.getD position .missing)) := by
  have empty : clean runtime (read .missing) = "" := by
    rw [missing]
    rfl
  rw [List.map_map, ← empty]
  exact List.getD_map _ _ (clean runtime ∘ read)

theorem headers_iff (lawful : openpyxl.Lawful) (naive : runtime.NaiveDigits) {name : String}
    (isName : IsName name) (nonempty : name ≠ "") (sheet : Worksheet) (position : Nat) :
    (headersOf runtime (sheetValues openpyxl sheet))[position]? = some name ↔
      (headersOf runtime (readXmlValues sheet))[position]? = some name := by
  rw [getElem?_eq_name_iff nonempty, getElem?_eq_name_iff nonempty]
  cases sheet with
  | nil => rfl
  | cons row rest =>
      change ((row.map (Stored.value openpyxl)).map (clean runtime)).getD position "" = name ↔
        (((row.rdropWhile Stored.isMissing).map Stored.xmlValue).map (clean runtime)).getD
          position "" = name
      rw [getD_map_clean _ rfl, getD_map_clean _ rfl, getD_rdropWhile]
      exact clean_eq_name_iff lawful naive isName _

theorem mem_headers_iff (lawful : openpyxl.Lawful) (naive : runtime.NaiveDigits) {name : String}
    (isName : IsName name) (nonempty : name ≠ "") (sheet : Worksheet) :
    name ∈ headersOf runtime (sheetValues openpyxl sheet) ↔
      name ∈ headersOf runtime (readXmlValues sheet) := by
  rw [List.mem_iff_getElem?, List.mem_iff_getElem?]
  exact exists_congr (headers_iff lawful naive isName nonempty sheet)

theorem isTransactionSheet_iff (lawful : openpyxl.Lawful) (naive : runtime.NaiveDigits)
    (sheet : Worksheet) :
    isTransactionSheet runtime (sheetValues openpyxl sheet) ↔
      isTransactionSheet runtime (readXmlValues sheet) := by
  have subset : ∀ names : List String, (∀ name ∈ names, IsName name ∧ name ≠ "") →
      (names ⊆ headersOf runtime (sheetValues openpyxl sheet) ↔
        names ⊆ headersOf runtime (readXmlValues sheet)) := by
    intro names areNames
    apply forall₂_congr
    intro name isMem
    obtain ⟨isName, nonempty⟩ := areNames name isMem
    exact mem_headers_iff lawful naive isName nonempty sheet
  rw [isTransactionSheet, isTransactionSheet, subset requiredHeaders (by decide),
    subset transactionHeaders (by decide)]
  simp [sheetValues, readXmlValues]

/-- A row of values holds what a reader gives for the stored cells, in the columns of
the names. -/
def ReadsAs (read : Stored → Cell) (headers : List String) (stored : List Stored)
    (readHeaders : List String) (row : Row) : Prop :=
  ∀ header, IsName header → header ≠ "" → cellOf readHeaders row header =
    (column headers header).map fun position => read (stored.getD position .missing)

theorem readsAs_value (headers : List String) (row : List Stored) :
    ReadsAs (Stored.value openpyxl) headers row headers (row.map (Stored.value openpyxl)) := by
  intro header _ _
  rw [cellOf]
  congr 1
  funext position
  exact List.getD_map row .missing (Stored.value openpyxl)

theorem readsAs_xmlValue (lawful : openpyxl.Lawful) (naive : runtime.NaiveDigits)
    (sheet : Worksheet) (row : List Stored) :
    ReadsAs Stored.xmlValue (headersOf runtime (sheetValues openpyxl sheet)) row
      (headersOf runtime (readXmlValues sheet))
      ((row.rdropWhile Stored.isMissing).map Stored.xmlValue) := by
  intro header isName nonempty
  rw [cellOf, ← column_congr (headers_iff lawful naive isName nonempty sheet)]
  congr 1
  funext position
  rw [← getD_rdropWhile]
  exact List.getD_map _ .missing Stored.xmlValue

end Sheets

/-! ## The booking of a row -/

section Rows

variable {runtime} {config} {openpyxl}

def BookedRow.identity (runtime : Runtime) (booked : BookedRow) : Identity :=
  ⟨booked.externalId runtime, booked.occurredAt, booked.amount.value,
    booked.quantity.map Decimal.value, booked.unitPrice.map Decimal.value⟩

/-- What a row that carries a booking says. -/
structure Identified (runtime : Runtime) (config : Config) (headers : List String) (row : Row)
    (booked : BookedRow) : Prop where
  carries : clean runtime ((cellOf headers row "Boekingsbedrag").getD .empty) ∉ blanks
  occurredAt : asDatetime runtime ((cellOf headers row "Transactiedatum").getD .empty) =
    .ok booked.occurredAt
  amount : ∃ field, decimal runtime ((cellOf headers row "Boekingsbedrag").getD .empty) field =
    .ok booked.amount
  currency : (∃ value, cellOf headers row "Valuta" = some value ∧
      booked.bookingCurrency = runtime.upper (clean runtime value)) ∨
    (cellOf headers row "Valuta" = none ∧
      configuredCurrency runtime config = .ok booked.bookingCurrency)
  action : booked.action = textOf runtime headers row "Acties"
  trade : tradeDetails runtime (" ".intercalate
      ([textOf runtime headers row "Acties", textOf runtime headers row "Opmerking"].filter
        (· ≠ ""))) = .ok (booked.quantity, booked.unitPrice)
  nativeType : booked.nativeType =
    clean runtime (firstColumn headers row ["Transactietype", "Type"])
  isin : booked.isin = runtime.upper (textOf runtime headers row "Instrument ISIN")
  symbol : booked.symbol = textOf runtime headers row "Instrumentsymbool"
  instrument : booked.instrument = textOf runtime headers row "Instrument"
  sourceId : booked.sourceId =
    (firstColumn headers row ["Transactie-ID", "Order-ID", "Bk Record Id"]).str runtime
  bookingId : booked.bookingId =
    (firstColumn headers row ["Booking Id", "Bk Record Id"]).str runtime

theorem currency_eq_ok {value : Cell} {code : String} (read : currency runtime value = .ok code) :
    code = runtime.upper (clean runtime value) := by
  rw [currency] at read
  split at read
  · exact (Except.ok.inj read).symm
  · cases read

/-- The currency of a booking. -/
def currencyOf (runtime : Runtime) (config : Config) (headers : List String) (row : Row) :
    Except String String :=
  match cellOf headers row "Valuta" with
  | some value => currency runtime value
  | none => configuredCurrency runtime config

/-- The steps of a row that carries a booking, one after the other. -/
theorem identify_eq {headers : List String} {row : Row} {line : Nat}
    (carries : clean runtime ((cellOf headers row "Boekingsbedrag").getD .empty) ∉ blanks) :
    identify runtime config headers row line = (do
      let occurredAt ← asDatetime runtime ((cellOf headers row "Transactiedatum").getD .empty)
      let bookingCurrency ← currencyOf runtime config headers row
      let amount ← decimal runtime ((cellOf headers row "Boekingsbedrag").getD .empty)
        (onLine "Boekingsbedrag" line)
      let action := textOf runtime headers row "Acties"
      let description := " ".intercalate
        ([action, textOf runtime headers row "Opmerking"].filter (· ≠ ""))
      let trade ← tradeDetails runtime description
      let reference ← securityReference runtime headers row
      .ok (some
        { occurredAt, bookingCurrency, amount, action, description
          quantity := trade.1
          unitPrice := trade.2
          nativeType := clean runtime (firstColumn headers row ["Transactietype", "Type"])
          isin := runtime.upper (textOf runtime headers row "Instrument ISIN")
          symbol := textOf runtime headers row "Instrumentsymbool"
          instrument := textOf runtime headers row "Instrument"
          reference
          sourceId :=
            (firstColumn headers row ["Transactie-ID", "Order-ID", "Bk Record Id"]).str runtime
          bookingId :=
            (firstColumn headers row ["Booking Id", "Bk Record Id"]).str runtime })) := by
  unfold identify currencyOf
  rw [if_neg carries]
  cases cellOf headers row "Valuta" <;> rfl

theorem identify_eq_some {headers : List String} {row : Row} {line : Nat} {booked : BookedRow}
    (read : identify runtime config headers row line = .ok (some booked)) :
    Identified runtime config headers row booked := by
  by_cases carries : clean runtime ((cellOf headers row "Boekingsbedrag").getD .empty) ∈ blanks
  · rw [identify] at read
    simp only [if_pos carries] at read
    cases read
  · rw [identify_eq carries] at read
    obtain ⟨occurredAt, isDate, read⟩ := Lib.bind_eq_ok.mp read
    obtain ⟨bookingCurrency, isCurrency, read⟩ := Lib.bind_eq_ok.mp read
    obtain ⟨amount, isAmount, read⟩ := Lib.bind_eq_ok.mp read
    obtain ⟨trade, isTrade, read⟩ := Lib.bind_eq_ok.mp read
    obtain ⟨reference, -, read⟩ := Lib.bind_eq_ok.mp read
    cases read
    refine ⟨carries, isDate, ⟨_, isAmount⟩, ?_, rfl, isTrade, rfl, rfl, rfl, rfl, rfl, rfl⟩
    rw [currencyOf] at isCurrency
    split at isCurrency
    · next value found => exact .inl ⟨value, found, currency_eq_ok isCurrency⟩
    · next absent => exact .inr ⟨absent, isCurrency⟩

theorem identify_eq_none {headers : List String} {row : Row} {line : Nat}
    (read : identify runtime config headers row line = .ok none) :
    clean runtime ((cellOf headers row "Boekingsbedrag").getD .empty) ∈ blanks := by
  by_contra carries
  rw [identify_eq carries] at read
  obtain ⟨occurredAt, -, read⟩ := Lib.bind_eq_ok.mp read
  obtain ⟨bookingCurrency, -, read⟩ := Lib.bind_eq_ok.mp read
  obtain ⟨amount, -, read⟩ := Lib.bind_eq_ok.mp read
  obtain ⟨trade, -, read⟩ := Lib.bind_eq_ok.mp read
  obtain ⟨reference, -, read⟩ := Lib.bind_eq_ok.mp read
  cases read

theorem identity_of_complete {headers : List String} {row : Row} {booked : BookedRow}
    {booking : Booking} (read : complete runtime config headers row booked = .ok booking) :
    booking.identity = booked.identity runtime := by
  rw [complete] at read
  obtain ⟨valueDate, -, read⟩ := Lib.bind_eq_ok.mp read
  generalize cellOf headers row "Totale kosten" = fee at read
  generalize cellOf headers row "Omrekeningskoers" = rate at read
  cases fee <;> cases rate <;>
  · obtain ⟨fee, -, read⟩ := Lib.bind_eq_ok.mp read
    obtain ⟨rate, -, read⟩ := Lib.bind_eq_ok.mp read
    cases read
    rfl

/-- The bookings of a sheet are those of its rows, but for further rows of a booking. -/
theorem parseRows_identities {headers : List String} {seen : List String}
    {rows : List (Row × Nat)} {bookings : List Booking}
    (read : parseRows runtime config headers seen rows = .ok bookings) :
    (∀ entry ∈ rows, ∃ booked, identify runtime config headers entry.1 entry.2 = .ok booked) ∧
      bookings.map Booking.identity =
        Lib.keepFirst Identity.externalTransactionId seen
          ((rows.filterMap fun entry =>
            (SourceRow.mk headers entry.1 entry.2).booking runtime config).map
              (BookedRow.identity runtime)) := by
  induction rows generalizing seen bookings with
  | nil =>
      cases read
      simp [Lib.keepFirst]
  | cons entry rest ih =>
      obtain ⟨row, line⟩ := entry
      rw [parseRows] at read
      obtain ⟨booked, identified, read⟩ := Lib.bind_eq_ok.mp read
      have here : (SourceRow.mk headers row line).booking runtime config = booked := by
        rw [SourceRow.booking, identified]
        rfl
      rw [List.forall_mem_cons, List.filterMap_cons]
      dsimp only
      rw [here]
      cases booked with
      | none =>
          obtain ⟨all, identities⟩ := ih read
          exact ⟨⟨⟨_, identified⟩, all⟩, identities⟩
      | some booked =>
          dsimp only at read
          rw [List.map_cons, Lib.keepFirst]
          split at read
          · next repeated =>
              obtain ⟨all, identities⟩ := ih read
              exact ⟨⟨⟨_, identified⟩, all⟩, identities.trans (if_pos repeated).symm⟩
          · next fresh =>
              obtain ⟨booking, completed, read⟩ := Lib.bind_eq_ok.mp read
              obtain ⟨others, readRest, read⟩ := Lib.bind_eq_ok.mp read
              cases read
              obtain ⟨all, identities⟩ := ih readRest
              rw [List.map_cons, identities, identity_of_complete completed]
              refine ⟨⟨⟨_, identified⟩, all⟩, ?_⟩
              exact (if_neg fresh).symm

end Rows

/-! ## What a file is read as -/

section Files

variable {runtime} {config}

/-- The bookings of the rows of a sheet. -/
def sheetBookings (runtime : Runtime) (config : Config) (values : List Row) : List BookedRow :=
  if isTransactionSheet runtime values then
    (numbered values).filterMap fun entry =>
      (SourceRow.mk (headersOf runtime values) entry.1 entry.2).booking runtime config
  else []

def fileIdentities (runtime : Runtime) (config : Config) (workbook : Workbook) : List Identity :=
  workbook.sheets.flatMap fun values =>
    Lib.firsts Identity.externalTransactionId
      ((sheetBookings runtime config values).map (BookedRow.identity runtime))

/-- Every row of the transaction sheets can be read up to its external id. -/
def RowsIdentified (runtime : Runtime) (config : Config) (values : List Row) : Prop :=
  isTransactionSheet runtime values → ∀ entry ∈ numbered values,
    ∃ booked, identify runtime config (headersOf runtime values) entry.1 entry.2 = .ok booked

theorem parseSheet_identities {values : List Row} {content : Content}
    (read : parseSheet runtime config values = .ok content) :
    RowsIdentified runtime config values ∧
      content.bookings.map Booking.identity =
        Lib.firsts Identity.externalTransactionId
          ((sheetBookings runtime config values).map (BookedRow.identity runtime)) := by
  unfold parseSheet at read
  unfold RowsIdentified sheetBookings
  split at read
  · next positions =>
      obtain ⟨parsed, -, read⟩ := Lib.bind_eq_ok.mp read
      cases read
      have other : ¬ isTransactionSheet runtime values := fun sheet => sheet.2.1 positions.2
      rw [if_neg other]
      exact ⟨fun sheet => absurd sheet other, rfl⟩
  · split at read
    · next sheet =>
        obtain ⟨bookings, parsed, read⟩ := Lib.bind_eq_ok.mp read
        cases read
        obtain ⟨all, identities⟩ := parseRows_identities parsed
        rw [if_pos sheet]
        exact ⟨fun _ => all, identities⟩
    · next other =>
        cases read
        rw [if_neg other]
        exact ⟨fun sheet => absurd sheet other, rfl⟩

theorem identities_of_readable {workbook : Workbook}
    (readable : Readable runtime config workbook) :
    (∀ values ∈ workbook.sheets, RowsIdentified runtime config values) ∧
      (contentOf runtime config workbook).bookings.map Booking.identity =
        fileIdentities runtime config workbook := by
  obtain ⟨content, parsed⟩ := readable
  obtain ⟨contents, parsedSheets, succeeds⟩ := Lib.bind_eq_ok.mp parsed
  obtain ⟨succeed, rfl⟩ := (Lib.mapM_eq_ok ⟨[], []⟩).mp parsedSheets
  have eachSheet : ∀ values ∈ workbook.sheets, RowsIdentified runtime config values ∧
      ((parseSheet runtime config values).toOption.getD ⟨[], []⟩).bookings.map
          Booking.identity =
        Lib.firsts Identity.externalTransactionId
          ((sheetBookings runtime config values).map (BookedRow.identity runtime)) := by
    intro values isMem
    obtain ⟨sheet, parsedSheet⟩ := succeed values isMem
    rw [parsedSheet]
    exact parseSheet_identities parsedSheet
  refine ⟨fun values isMem => (eachSheet values isMem).1, ?_⟩
  rw [contentOf, parsed]
  cases succeeds
  change (List.flatMap Content.bookings _).map Booking.identity = _
  rw [List.flatMap_map, List.map_flatMap, fileIdentities]
  apply List.flatMap_congr
  intro values isMem
  exact (eachSheet values isMem).2

/-- An accepted file emits the first booking with each external id. -/
theorem transactionsRead_of_load {workbook : Workbook} {loaded : Loaded}
    (accepted : load runtime config [workbook] = .ok loaded) :
    (∀ values ∈ workbook.sheets, RowsIdentified runtime config values) ∧
      transactionsRead runtime config workbook =
        some (Lib.firsts Identity.externalTransactionId
          (fileIdentities runtime config workbook)) := by
  have readable := (load_eq_ok.mp accepted).1 workbook (List.mem_singleton.mpr rfl)
  obtain ⟨identified, identities⟩ := identities_of_readable readable
  refine ⟨identified, ?_⟩
  have transactions : loaded.transactions.map (fun transaction => transaction.booking.identity) =
      (loaded.transactions.map RawTransaction.booking).map Booking.identity := by
    rw [List.map_map]
    rfl
  rw [transactionsRead, accepted]
  change some (loaded.transactions.map fun transaction => transaction.booking.identity) = _
  rw [transactions, transactions_of_load accepted, map_booking_transactionsOf,
    show Booking.externalTransactionId =
      fun booking => booking.identity.externalTransactionId from rfl,
    Lib.map_firsts, bookingsOf, List.flatMap_singleton, identities]

theorem transactionsRead_eq_none {workbook : Workbook} (refused : Refused runtime config workbook) :
    transactionsRead runtime config workbook = none := by
  rw [transactionsRead]
  cases isLoaded : load runtime config [workbook] with
  | error error => rfl
  | ok loaded => exact absurd isLoaded (refused loaded)

end Files

/-! ## Rows that are read alike -/

section Alike

variable {runtime} {config} {openpyxl}

theorem cleanText_cleanText (text : String) : cleanText (cleanText text) = cleanText text := by
  have noBreak : ∀ char ∈ strip (text.toList.map fun char => if char = '\u00a0' then ' ' else char),
      (if char = '\u00a0' then ' ' else char) = char := by
    intro char isMem
    rw [if_neg]
    rintro rfl
    have inText := (List.rdropWhile_prefix isSpace _).subset isMem
    have inMapped := (List.dropWhile_sublist isSpace).subset inText
    obtain ⟨original, -, same⟩ := List.mem_map.mp inMapped
    split at same
    · cases same
    · next other => exact other same
  rw [cleanText, cleanText, String.toList_ofList, List.map_congr_left noBreak, List.map_id',
    strip_strip]

theorem folded_clean (cell : Cell) :
    folded runtime (clean runtime cell) = folded runtime (cell.str runtime) := by
  rw [folded, clean, cleanText_cleanText]
  rfl

variable {read : Stored → Cell} {headers readHeaders : List String} {stored : List Stored}
variable {row : Row}

theorem firstColumn_of_reads (missing : read .missing = .empty)
    (reads : ReadsAs read headers stored readHeaders row) {columns : List String}
    (areNames : ∀ header ∈ columns, IsName header ∧ header ≠ "") :
    firstColumn readHeaders row columns = read (storedIn headers stored columns) := by
  unfold firstColumn storedIn
  induction columns with
  | nil => exact missing.symm
  | cons header rest ih =>
      obtain ⟨isName, others⟩ := List.forall_mem_cons.mp areNames
      rw [List.findSome?_cons, List.findSome?_cons, reads header isName.1 isName.2]
      cases column headers header with
      | none => exact ih others
      | some position => rfl

theorem cell_of_reads (missing : read .missing = .empty)
    (reads : ReadsAs read headers stored readHeaders row) {header : String}
    (isName : IsName header) (nonempty : header ≠ "") :
    (cellOf readHeaders row header).getD .empty = read (storedIn headers stored [header]) := by
  rw [reads header isName nonempty, storedIn, List.findSome?_cons]
  cases column headers header with
  | none => exact missing.symm
  | some position => rfl

theorem textOf_of_reads (missing : read .missing = .empty)
    (reads : ReadsAs read headers stored readHeaders row) {header : String}
    (isName : IsName header) (nonempty : header ≠ "") :
    textOf runtime readHeaders row header =
      clean runtime (read (storedIn headers stored [header])) := by
  rw [← cell_of_reads missing reads isName nonempty, textOf]
  cases cellOf readHeaders row header <;> rfl

theorem decimal_of_ok {value : Cell} {field other : String} {number : Decimal}
    (read : decimal runtime value field = .ok number) :
    decimal runtime value other = .ok number := by
  obtain ⟨found, optional, read⟩ := Lib.bind_eq_ok.mp read
  apply Lib.bind_eq_ok.mpr
  refine ⟨found, ?_, ?_⟩
  · unfold optionalDecimal at optional ⊢
    split at optional
    · cases optional
      cases read
    · next filled =>
        rw [if_neg filled]
        dsimp only at optional ⊢
        split at optional
        · exact optional
        · cases optional
  · cases found with
    | none => cases read
    | some decimal => exact read

/-- The booking of a stored row through a reader. -/
structure BookedThrough (runtime : Runtime) (config : Config) (read : Stored → Cell)
    (headers : List String) (stored : List Stored) (booked : BookedRow) : Prop where
  occurredAt : asDatetime runtime (read (storedIn headers stored ["Transactiedatum"])) =
    .ok booked.occurredAt
  amount : (decimal runtime (read (storedIn headers stored ["Boekingsbedrag"])) "").toOption =
    some booked.amount
  currency :
    if (column headers "Valuta").isSome then booked.bookingCurrency =
      runtime.upper (clean runtime (read (storedIn headers stored ["Valuta"])))
    else configuredCurrency runtime config = .ok booked.bookingCurrency
  trade : tradeDetails runtime (descriptionOf runtime read headers stored) =
    .ok (booked.quantity, booked.unitPrice)
  isin : booked.isin =
    runtime.upper (clean runtime (read (storedIn headers stored ["Instrument ISIN"])))
  texts : [booked.sourceId, booked.bookingId, booked.nativeType, booked.action, booked.symbol,
      booked.instrument].map (folded runtime) =
    textColumns.map fun columns =>
      folded runtime ((read (storedIn headers stored columns)).str runtime)

theorem bookedThrough_of_identified (missing : read .missing = .empty)
    (reads : ReadsAs read headers stored readHeaders row) {booked : BookedRow}
    (identified : Identified runtime config readHeaders row booked) :
    BookedThrough runtime config read headers stored booked where
  occurredAt := by
    rw [← cell_of_reads missing reads (by decide) (by decide)]
    exact identified.occurredAt
  amount := by
    obtain ⟨field, amount⟩ := identified.amount
    rw [← cell_of_reads missing reads (by decide) (by decide), decimal_of_ok amount]
    rfl
  currency := by
    have cell := reads "Valuta" (by decide) (by decide)
    rw [storedIn, List.findSome?_cons]
    cases found : column headers "Valuta" with
    | none =>
        rw [found] at cell
        cases identified.currency with
        | inl valued => simp [cell] at valued
        | inr configured => simpa using configured.2
    | some position =>
        rw [found] at cell
        cases identified.currency with
        | inl valued =>
            obtain ⟨value, isValue, isCurrency⟩ := valued
            rw [cell] at isValue
            cases isValue
            simpa using isCurrency
        | inr configured => simp [cell] at configured
  trade := by
    have description : descriptionOf runtime read headers stored = " ".intercalate
        ([textOf runtime readHeaders row "Acties",
          textOf runtime readHeaders row "Opmerking"].filter (· ≠ "")) := by
      rw [textOf_of_reads missing reads (by decide) (by decide),
        textOf_of_reads missing reads (by decide) (by decide)]
      rfl
    rw [description]
    exact identified.trade
  isin := by
    rw [← textOf_of_reads missing reads (by decide) (by decide)]
    exact identified.isin
  texts := by
    have column : ∀ {columns : List String}, (∀ header ∈ columns, IsName header ∧ header ≠ "") →
        firstColumn readHeaders row columns = read (storedIn headers stored columns) :=
      firstColumn_of_reads missing reads
    have text : ∀ {header : String}, IsName header → header ≠ "" →
        textOf runtime readHeaders row header =
          clean runtime (read (storedIn headers stored [header])) :=
      textOf_of_reads missing reads
    simp only [textColumns, List.map_cons, List.map_nil, identified.sourceId,
      identified.bookingId, identified.nativeType, identified.action, identified.symbol,
      identified.instrument]
    rw [column (by decide), column (by decide), column (by decide), text (by decide) (by decide),
      text (by decide) (by decide), text (by decide) (by decide)]
    simp only [folded_clean]

/-- The texts that the fingerprint takes from one booking. -/
theorem texts_eq (booked : BookedRow) : booked.texts runtime =
    [folded runtime booked.sourceId, folded runtime booked.bookingId,
      folded runtime (runtime.utcStr booked.occurredAt), folded runtime booked.nativeType,
      folded runtime booked.action, folded runtime booked.amount.str,
      folded runtime booked.bookingCurrency, folded runtime booked.isin,
      folded runtime booked.symbol, folded runtime booked.instrument] := rfl

variable {booked other : BookedRow}

section Compare

variable (first : BookedThrough runtime config (Stored.value openpyxl) headers stored booked)
variable (second : BookedThrough runtime config Stored.xmlValue headers stored other)
include first second

theorem texts_alike_iff :
    (∀ columns ∈ textColumns, (storedIn headers stored columns).SameText runtime openpyxl) ↔
      [booked.sourceId, booked.bookingId, booked.nativeType, booked.action, booked.symbol,
          booked.instrument].map (folded runtime) =
        [other.sourceId, other.bookingId, other.nativeType, other.action, other.symbol,
          other.instrument].map (folded runtime) := by
  rw [first.texts, second.texts]
  exact List.map_inj_left.symm

theorem currency_alike_iff :
    (storedIn headers stored ["Valuta"]).SameCode runtime openpyxl ↔
      folded runtime booked.bookingCurrency = folded runtime other.bookingCurrency := by
  have same := first.currency
  have sameOther := second.currency
  cases found : column headers "Valuta" with
  | none =>
      simp only [found, Option.isSome_none, Bool.false_eq_true, if_false] at same sameOther
      rw [same] at sameOther
      have missing : storedIn headers stored ["Valuta"] = .missing := by
        rw [storedIn, List.findSome?_cons, found]
        rfl
      rw [missing, Except.ok.inj sameOther]
      exact iff_of_true rfl rfl
  | some position =>
      simp only [found, Option.isSome_some, if_true] at same sameOther
      rw [same, sameOther]
      rfl

theorem isin_alike_iff :
    (storedIn headers stored ["Instrument ISIN"]).SameCode runtime openpyxl ↔
      folded runtime booked.isin = folded runtime other.isin := by
  rw [first.isin, second.isin]
  rfl

theorem rowAlike_iff : RowAlike runtime openpyxl headers stored ↔
    booked.texts runtime = other.texts runtime ∧ booked.occurredAt = other.occurredAt ∧
      booked.amount = other.amount ∧
      booked.quantity.map Decimal.value = other.quantity.map Decimal.value ∧
      booked.unitPrice.map Decimal.value = other.unitPrice.map Decimal.value := by
  have tradeValues_eq : tradeValues runtime (descriptionOf runtime (Stored.value openpyxl) headers
      stored) = some (booked.quantity.map Decimal.value, booked.unitPrice.map Decimal.value) := by
    rw [tradeValues, first.trade]
    rfl
  have otherTrade : tradeValues runtime (descriptionOf runtime Stored.xmlValue headers stored) =
      some (other.quantity.map Decimal.value, other.unitPrice.map Decimal.value) := by
    rw [tradeValues, second.trade]
    rfl
  have textsAlike := texts_alike_iff first second
  have currencyAlike := currency_alike_iff first second
  have isinAlike := isin_alike_iff first second
  simp only [List.map_cons, List.map_nil, List.cons.injEq, and_true] at textsAlike
  simp only [texts_eq, List.cons.injEq, and_true]
  constructor
  · intro alike
    have sameDate := alike.occurredAt
    have sameAmount := alike.amount
    have sameTrade := alike.trade
    rw [first.occurredAt, second.occurredAt] at sameDate
    rw [first.amount, second.amount, Option.some_inj] at sameAmount
    rw [tradeValues_eq, otherTrade, Option.some_inj, Prod.mk.injEq] at sameTrade
    have isDate : booked.occurredAt = other.occurredAt := by simpa [Except.toOption] using sameDate
    obtain ⟨source, booking, native, action, symbol, instrument⟩ := textsAlike.mp alike.texts
    rw [isDate, sameAmount]
    exact ⟨⟨source, booking, rfl, native, action, rfl,
      currencyAlike.mp (alike.codes _ (by decide)), isinAlike.mp (alike.codes _ (by decide)),
      symbol, instrument⟩, rfl, rfl, sameTrade⟩
  · rintro ⟨⟨source, booking, -, native, action, -, currency, isin, symbol, instrument⟩, date,
      amount, trade⟩
    refine ⟨?_, ?_, textsAlike.mpr ⟨source, booking, native, action, symbol, instrument⟩, ?_, ?_⟩
    · rw [first.occurredAt, second.occurredAt, date]
    · rw [first.amount, second.amount, amount]
    · simp only [codeColumns, List.forall_mem_cons]
      exact ⟨currencyAlike.mpr currency, isinAlike.mpr isin, List.forall_mem_nil _⟩
    · rw [tradeValues_eq, otherTrade, trade.1, trade.2]

/-- A row gives one identity through both readers exactly if its values are alike. -/
theorem identity_eq_iff (lawful : runtime.Lawful)
    (apart : booked.externalId runtime = other.externalId runtime →
      booked.texts runtime = other.texts runtime) :
    booked.identity runtime = other.identity runtime ↔
      RowAlike runtime openpyxl headers stored := by
  rw [rowAlike_iff first second]
  constructor
  · intro same
    obtain ⟨sameId, date, -, quantity, price⟩ := Identity.mk.inj same
    have texts := apart sameId
    exact ⟨texts, date, (amount_date_of_texts lawful texts).1, quantity, price⟩
  · rintro ⟨texts, date, amount, quantity, price⟩
    rw [BookedRow.identity, BookedRow.identity, BookedRow.externalId, BookedRow.externalId, texts,
      date, amount, quantity, price]

end Compare

end Alike

/-! ## Worksheets that are read alike -/

section Worksheets

variable {runtime} {config} {openpyxl}

/-- Where two readers take values from the same entries, the values are the same
list exactly if they are the same for each entry. -/
theorem map_filterMap_eq_iff {Entry First Second Value : Type} {entries : List Entry}
    {first : Entry → Option First} {second : Entry → Option Second}
    (value : First → Value) (other : Second → Value)
    (same : ∀ entry ∈ entries, (first entry).isSome = (second entry).isSome) :
    (entries.filterMap first).map value = (entries.filterMap second).map other ↔
      ∀ entry ∈ entries, (first entry).map value = (second entry).map other := by
  induction entries with
  | nil => simp
  | cons entry rest ih =>
      obtain ⟨here, later⟩ := List.forall_mem_cons.mp same
      rw [List.filterMap_cons, List.filterMap_cons, List.forall_mem_cons,
        ← ih later]
      cases isFirst : first entry with
      | none =>
          cases isSecond : second entry with
          | none => simp
          | some found => simp [isFirst, isSecond] at here
      | some found =>
          cases isSecond : second entry with
          | none => simp [isFirst, isSecond] at here
          | some found => simp

theorem length_filterMap_congr {Entry First Second : Type} {entries : List Entry}
    {first : Entry → Option First} {second : Entry → Option Second}
    (same : ∀ entry ∈ entries, (first entry).isSome = (second entry).isSome) :
    (entries.filterMap first).length = (entries.filterMap second).length := by
  have units := (map_filterMap_eq_iff (fun _ => ()) (fun _ => ()) same).mpr
    (fun entry isMem => by
      have here := same entry isMem
      cases isFirst : first entry <;> cases isSecond : second entry <;> simp_all)
  simpa using congrArg List.length units

theorem booking_isSome_iff {headers : List String} {row : Row} {line : Nat}
    (identified : ∃ booked, identify runtime config headers row line = .ok booked) :
    ((SourceRow.mk headers row line).booking runtime config).isSome ↔
      clean runtime ((cellOf headers row "Boekingsbedrag").getD .empty) ∉ blanks := by
  obtain ⟨booked, isBooked⟩ := identified
  rw [SourceRow.booking, isBooked]
  cases booked with
  | none => exact iff_of_false (by simp [Except.toOption]) (not_not.mpr (identify_eq_none isBooked))
  | some booked => exact iff_of_true rfl (identify_eq_some isBooked).carries

theorem identified_of_booking {source : SourceRow} {booked : BookedRow}
    (isBooked : source.booking runtime config = some booked) :
    Identified runtime config source.headers source.row booked := by
  rw [SourceRow.booking] at isBooked
  cases read : identify runtime config source.headers source.row source.line with
  | error error =>
      rw [read] at isBooked
      cases isBooked
  | ok found =>
      rw [read] at isBooked
      have isFound : found = some booked := isBooked
      rw [isFound] at read
      exact identify_eq_some read

theorem numbered_map (read : List Stored → Row) (sheet : Worksheet) :
    numbered (sheet.map read) = (sheet.tail.zipIdx 2).map (Prod.map read id) := by
  rw [numbered, ← List.map_tail, List.zipIdx_map]

/-- The row of a stored row through openpyxl. -/
def valueRow (runtime : Runtime) (openpyxl : Openpyxl) (sheet : Worksheet)
    (entry : List Stored × Nat) : SourceRow :=
  ⟨headersOf runtime (sheetValues openpyxl sheet), entry.1.map (Stored.value openpyxl), entry.2⟩

/-- The row of a stored row through the XML reader. -/
def xmlRow (runtime : Runtime) (sheet : Worksheet) (entry : List Stored × Nat) : SourceRow :=
  ⟨headersOf runtime (readXmlValues sheet),
    (entry.1.rdropWhile Stored.isMissing).map Stored.xmlValue, entry.2⟩

theorem sheetBookings_values {sheet : Worksheet}
    (isSheet : isTransactionSheet runtime (sheetValues openpyxl sheet)) :
    sheetBookings runtime config (sheetValues openpyxl sheet) =
      (sheet.tail.zipIdx 2).filterMap fun entry =>
        (valueRow runtime openpyxl sheet entry).booking runtime config := by
  have rows : numbered (sheetValues openpyxl sheet) =
      (sheet.tail.zipIdx 2).map (Prod.map (List.map (Stored.value openpyxl)) id) :=
    numbered_map _ sheet
  rw [sheetBookings, if_pos isSheet, rows, List.filterMap_map]
  apply List.filterMap_congr
  intro entry _
  rw [Function.comp_apply, Prod.map_fst, Prod.map_snd]
  rfl

theorem sheetBookings_xml {sheet : Worksheet}
    (isSheet : isTransactionSheet runtime (readXmlValues sheet)) :
    sheetBookings runtime config (readXmlValues sheet) =
      (sheet.tail.zipIdx 2).filterMap fun entry =>
        (xmlRow runtime sheet entry).booking runtime config := by
  have rows : numbered (readXmlValues sheet) = (sheet.tail.zipIdx 2).map
      (Prod.map (fun row => (row.rdropWhile Stored.isMissing).map Stored.xmlValue) id) :=
    numbered_map _ sheet
  rw [sheetBookings, if_pos isSheet, rows, List.filterMap_map]
  apply List.filterMap_congr
  intro entry _
  rw [Function.comp_apply, Prod.map_fst, Prod.map_snd]
  rfl

section Reading

variable {sheet : Worksheet}

theorem valueRow_identified
    (identified : RowsIdentified runtime config (sheetValues openpyxl sheet))
    (isSheet : isTransactionSheet runtime (sheetValues openpyxl sheet))
    {entry : List Stored × Nat} (isMem : entry ∈ sheet.tail.zipIdx 2) :
    ∃ booked, identify runtime config (headersOf runtime (sheetValues openpyxl sheet))
      (entry.1.map (Stored.value openpyxl)) entry.2 = .ok booked := by
  apply identified isSheet (entry.1.map (Stored.value openpyxl), entry.2)
  rw [sheetValues, numbered_map]
  exact List.mem_map_of_mem isMem

theorem xmlRow_identified (identifiedXml : RowsIdentified runtime config (readXmlValues sheet))
    (isSheet : isTransactionSheet runtime (readXmlValues sheet))
    {entry : List Stored × Nat} (isMem : entry ∈ sheet.tail.zipIdx 2) :
    ∃ booked, identify runtime config (headersOf runtime (readXmlValues sheet))
      ((entry.1.rdropWhile Stored.isMissing).map Stored.xmlValue) entry.2 = .ok booked := by
  apply identifiedXml isSheet
    ((entry.1.rdropWhile Stored.isMissing).map Stored.xmlValue, entry.2)
  rw [readXmlValues, numbered_map]
  exact List.mem_map_of_mem isMem

theorem valueRow_isSome_iff
    (identified : RowsIdentified runtime config (sheetValues openpyxl sheet))
    (isSheet : isTransactionSheet runtime (sheetValues openpyxl sheet))
    {entry : List Stored × Nat} (isMem : entry ∈ sheet.tail.zipIdx 2) :
    ((valueRow runtime openpyxl sheet entry).booking runtime config).isSome ↔
      Carries runtime openpyxl sheet entry.1 := by
  rw [valueRow, booking_isSome_iff (valueRow_identified identified isSheet isMem),
    cell_of_reads rfl (readsAs_value _ _) (by decide) (by decide)]
  rfl

theorem blank_iff (lawful : openpyxl.Lawful) (naive : runtime.NaiveDigits) (stored : Stored) :
    clean runtime (stored.value openpyxl) ∈ blanks ↔ clean runtime stored.xmlValue ∈ blanks := by
  have eachBlank : ∀ name ∈ blanks, clean runtime (stored.value openpyxl) = name ↔
      clean runtime stored.xmlValue = name := by
    intro name isMem
    apply clean_eq_name_iff lawful naive
    revert name
    decide
  constructor
  · intro blank
    rw [(eachBlank _ blank).mp rfl]
    exact blank
  · intro blank
    rw [(eachBlank _ blank).mpr rfl]
    exact blank

theorem xmlRow_isSome_iff (lawful : openpyxl.Lawful) (naive : runtime.NaiveDigits)
    (identifiedXml : RowsIdentified runtime config (readXmlValues sheet))
    (isSheet : isTransactionSheet runtime (readXmlValues sheet))
    {entry : List Stored × Nat} (isMem : entry ∈ sheet.tail.zipIdx 2) :
    ((xmlRow runtime sheet entry).booking runtime config).isSome ↔
      Carries runtime openpyxl sheet entry.1 := by
  rw [xmlRow, booking_isSome_iff (xmlRow_identified identifiedXml isSheet isMem),
    cell_of_reads rfl (readsAs_xmlValue lawful naive sheet entry.1) (by decide) (by decide)]
  exact (blank_iff lawful naive _).symm.not

theorem mem_bookedRows_iff (isSheet : isTransactionSheet runtime (sheetValues openpyxl sheet))
    {row : List Stored} : row ∈ bookedRows runtime openpyxl sheet ↔
      (∃ entry ∈ sheet.tail.zipIdx 2, entry.1 = row) ∧ Carries runtime openpyxl sheet row := by
  rw [bookedRows, if_pos isSheet, List.mem_filter, decide_eq_true_iff, ← List.mem_map,
    List.zipIdx_map_fst]

theorem sheetBookings_eq_nil_iff
    (identified : RowsIdentified runtime config (sheetValues openpyxl sheet)) :
    sheetBookings runtime config (sheetValues openpyxl sheet) = [] ↔
      bookedRows runtime openpyxl sheet = [] := by
  by_cases isSheet : isTransactionSheet runtime (sheetValues openpyxl sheet)
  · rw [sheetBookings_values isSheet, List.filterMap_eq_nil_iff, List.eq_nil_iff_forall_not_mem]
    constructor
    · intro none row isMem
      obtain ⟨⟨entry, isEntry, rfl⟩, carries⟩ := (mem_bookedRows_iff isSheet).mp isMem
      have isSome := (valueRow_isSome_iff identified isSheet isEntry).mpr carries
      rw [none entry isEntry] at isSome
      cases isSome
    · intro none entry isEntry
      rw [← Option.not_isSome_iff_eq_none, valueRow_isSome_iff identified isSheet isEntry]
      intro carries
      exact none entry.1 ((mem_bookedRows_iff isSheet).mpr ⟨⟨entry, isEntry, rfl⟩, carries⟩)
  · simp [sheetBookings, bookedRows, isSheet]

variable (lawful : runtime.Lawful) (openpyxlLawful : openpyxl.Lawful)
variable (naive : runtime.NaiveDigits)
variable (identified : RowsIdentified runtime config (sheetValues openpyxl sheet))
variable (identifiedXml : RowsIdentified runtime config (readXmlValues sheet))
include openpyxlLawful naive identified identifiedXml

theorem length_sheetBookings :
    (sheetBookings runtime config (sheetValues openpyxl sheet)).length =
      (sheetBookings runtime config (readXmlValues sheet)).length := by
  have sheets := isTransactionSheet_iff openpyxlLawful naive sheet
  by_cases isSheet : isTransactionSheet runtime (sheetValues openpyxl sheet)
  · have isXmlSheet := sheets.mp isSheet
    rw [sheetBookings_values isSheet, sheetBookings_xml isXmlSheet]
    apply length_filterMap_congr
    intro entry isMem
    rw [Bool.eq_iff_iff, valueRow_isSome_iff identified isSheet isMem,
      xmlRow_isSome_iff openpyxlLawful naive identifiedXml isXmlSheet isMem]
  · rw [sheetBookings, sheetBookings, if_neg isSheet, if_neg (mt sheets.mpr isSheet)]

include lawful

/-- The worksheet gives the same identities through both readers exactly if each row
with a booking is read alike. -/
theorem sheetIdentities_eq_iff
    (apart : ∀ booked ∈ sheetBookings runtime config (sheetValues openpyxl sheet),
      ∀ other ∈ sheetBookings runtime config (readXmlValues sheet),
        booked.externalId runtime = other.externalId runtime →
          booked.texts runtime = other.texts runtime) :
    (sheetBookings runtime config (sheetValues openpyxl sheet)).map (BookedRow.identity runtime) =
        (sheetBookings runtime config (readXmlValues sheet)).map (BookedRow.identity runtime) ↔
      ∀ row ∈ bookedRows runtime openpyxl sheet,
        RowAlike runtime openpyxl (headersOf runtime (sheetValues openpyxl sheet)) row := by
  have sheets := isTransactionSheet_iff openpyxlLawful naive sheet
  by_cases isSheet : isTransactionSheet runtime (sheetValues openpyxl sheet)
  · have isXmlSheet := sheets.mp isSheet
    rw [sheetBookings_values isSheet, sheetBookings_xml isXmlSheet] at apart ⊢
    have sameCarry : ∀ entry ∈ sheet.tail.zipIdx 2,
        ((valueRow runtime openpyxl sheet entry).booking runtime config).isSome =
          ((xmlRow runtime sheet entry).booking runtime config).isSome := by
      intro entry isMem
      rw [Bool.eq_iff_iff, valueRow_isSome_iff identified isSheet isMem,
        xmlRow_isSome_iff openpyxlLawful naive identifiedXml isXmlSheet isMem]
    rw [map_filterMap_eq_iff _ _ sameCarry]
    have eachEntry : ∀ entry ∈ sheet.tail.zipIdx 2,
        ((valueRow runtime openpyxl sheet entry).booking runtime config).map
            (BookedRow.identity runtime) =
          ((xmlRow runtime sheet entry).booking runtime config).map (BookedRow.identity runtime) ↔
        (Carries runtime openpyxl sheet entry.1 →
          RowAlike runtime openpyxl (headersOf runtime (sheetValues openpyxl sheet)) entry.1) := by
      intro entry isMem
      have valueSome := valueRow_isSome_iff identified isSheet isMem
      have xmlSome := xmlRow_isSome_iff openpyxlLawful naive identifiedXml isXmlSheet isMem
      cases isBooked : (valueRow runtime openpyxl sheet entry).booking runtime config with
      | none =>
          rw [isBooked] at valueSome
          have none : ¬ Carries runtime openpyxl sheet entry.1 := by simpa using valueSome
          rw [← xmlSome, Option.not_isSome_iff_eq_none] at none
          rw [none]
          exact iff_of_true rfl fun carries => by simp [none, carries] at xmlSome
      | some booked =>
          rw [isBooked] at valueSome
          have carries : Carries runtime openpyxl sheet entry.1 := valueSome.mp rfl
          obtain ⟨other, isOther⟩ := Option.isSome_iff_exists.mp (xmlSome.mpr carries)
          have first := bookedThrough_of_identified rfl (readsAs_value _ _)
            (identified_of_booking isBooked)
          have second := bookedThrough_of_identified rfl
            (readsAs_xmlValue openpyxlLawful naive sheet entry.1) (identified_of_booking isOther)
          have same := identity_eq_iff first second lawful
            (apart booked (List.mem_filterMap.mpr ⟨entry, isMem, isBooked⟩) other
              (List.mem_filterMap.mpr ⟨entry, isMem, isOther⟩))
          rw [isOther, Option.map_some, Option.map_some, Option.some_inj, same]
          exact ⟨fun alike _ => alike, fun alike => alike carries⟩
    rw [forall₂_congr eachEntry]
    constructor
    · intro alike row isMem
      obtain ⟨⟨entry, isEntry, rfl⟩, carries⟩ := (mem_bookedRows_iff isSheet).mp isMem
      exact alike entry isEntry carries
    · intro alike entry isEntry carries
      exact alike entry.1 ((mem_bookedRows_iff isSheet).mpr ⟨⟨entry, isEntry, rfl⟩, carries⟩)
  · rw [sheetBookings, sheetBookings, if_neg isSheet, if_neg (mt sheets.mpr isSheet), bookedRows,
      if_neg isSheet]
    simp

end Reading

end Worksheets

/-! ## Files that are read alike -/

/-- The bookings of a file before those that are repeated are left out. -/
def readBookings (workbook : Workbook) : List BookedRow :=
  workbook.sheets.flatMap (sheetBookings runtime config)

/-- No booking of the file is written twice. -/
def WrittenOnce (package : Package) : Prop :=
  ((readBookings runtime config (readWorkbook openpyxl package)).map
      (BookedRow.externalId runtime)).Nodup ∧
    ((readBookings runtime config (readFallback package)).map
      (BookedRow.externalId runtime)).Nodup

/-- No two bookings have different texts with the same digest. -/
def ReadersDistinct (package : Package) : Prop :=
  ∀ booked ∈ readBookings runtime config (readWorkbook openpyxl package),
    ∀ other ∈ readBookings runtime config (readFallback package),
      booked.externalId runtime = other.externalId runtime →
        booked.texts runtime = other.texts runtime

/-- Both readers end in a refusal, or both are accepted and read the bookings alike. -/
def ReadAlike (package : Package) : Prop :=
  (Refused runtime config (readWorkbook openpyxl package) ∧
      Refused runtime config (readFallback package)) ∨
    (¬ Refused runtime config (readWorkbook openpyxl package) ∧
      ¬ Refused runtime config (readFallback package) ∧
      BookingsAlike runtime openpyxl package)

section Packages

variable {runtime} {config} {openpyxl}

theorem firsts_of_nodup {identities : List Identity}
    (nodup : (identities.map Identity.externalTransactionId).Nodup) :
    Lib.firsts Identity.externalTransactionId identities = identities := by
  rw [Lib.firsts, Lib.keepFirst_of_nodup _ nodup]
  simp

theorem fileIdentities_of_nodup {workbook : Workbook}
    (nodup : ((readBookings runtime config workbook).map (BookedRow.externalId runtime)).Nodup) :
    fileIdentities runtime config workbook =
      (readBookings runtime config workbook).map (BookedRow.identity runtime) := by
  rw [fileIdentities, readBookings, List.map_flatMap]
  apply List.flatMap_congr
  intro values isMem
  apply firsts_of_nodup
  rw [List.map_map]
  have sheet : List.Sublist (sheetBookings runtime config values)
      (readBookings runtime config workbook) := by
    rw [readBookings, List.flatMap_def]
    exact List.sublist_flatten_of_mem (List.mem_map_of_mem isMem)
  exact nodup.sublist (sheet.map _)

theorem transactionsRead_of_nodup {workbook : Workbook} {loaded : Loaded}
    (accepted : load runtime config [workbook] = .ok loaded)
    (nodup : ((readBookings runtime config workbook).map (BookedRow.externalId runtime)).Nodup) :
    transactionsRead runtime config workbook =
      some ((readBookings runtime config workbook).map (BookedRow.identity runtime)) := by
  rw [(transactionsRead_of_load accepted).2, fileIdentities_of_nodup nodup, firsts_of_nodup]
  rwa [List.map_map]

theorem exists_load {workbook : Workbook} (accepted : ¬ Refused runtime config workbook) :
    ∃ loaded, load runtime config [workbook] = .ok loaded := by
  simpa [Refused] using accepted

variable {package : Package}

theorem readBookings_readWorkbook :
    readBookings runtime config (readWorkbook openpyxl package) =
      package.before.flatMap (fun sheet =>
          sheetBookings runtime config (sheetValues openpyxl sheet)) ++
        (sheetBookings runtime config (sheetValues openpyxl package.sheet1) ++
          package.after.flatMap fun sheet =>
            sheetBookings runtime config (sheetValues openpyxl sheet)) := by
  rw [readBookings, readWorkbook, List.flatMap_map, List.flatMap_append, List.flatMap_cons]

theorem readBookings_readFallback : readBookings runtime config (readFallback package) =
    sheetBookings runtime config (readXmlValues package.sheet1) :=
  List.flatMap_singleton ..

theorem fileIdentities_readFallback : fileIdentities runtime config (readFallback package) =
    Lib.firsts Identity.externalTransactionId
      ((sheetBookings runtime config (readXmlValues package.sheet1)).map
        (BookedRow.identity runtime)) :=
  List.flatMap_singleton ..

theorem mem_sheets_readWorkbook {sheet : Worksheet}
    (isMem : sheet ∈ package.before ++ package.sheet1 :: package.after) :
    sheetValues openpyxl sheet ∈ (readWorkbook openpyxl package).sheets :=
  List.mem_map_of_mem isMem

theorem mem_sheets_of_other {sheet : Worksheet}
    (other : sheet ∈ package.before ++ package.after) :
    sheet ∈ package.before ++ package.sheet1 :: package.after := by
  rw [List.mem_append] at other
  rw [List.mem_append, List.mem_cons]
  cases other with
  | inl earlier => exact .inl earlier
  | inr later => exact .inr (.inr later)

theorem mem_sheets_sheet1 :
    package.sheet1 ∈ package.before ++ package.sheet1 :: package.after :=
  List.mem_append_right _ List.mem_cons_self

theorem ReadersDistinct.sheet1 (distinct : ReadersDistinct runtime config openpyxl package) :
    ∀ booked ∈ sheetBookings runtime config (sheetValues openpyxl package.sheet1),
      ∀ other ∈ sheetBookings runtime config (readXmlValues package.sheet1),
        booked.externalId runtime = other.externalId runtime →
          booked.texts runtime = other.texts runtime := by
  intro booked isBooked other isOther
  apply distinct
  · rw [readBookings_readWorkbook]
    exact List.mem_append_right _ (List.mem_append_left _ isBooked)
  · rw [readBookings_readFallback]
    exact isOther

variable (lawful : runtime.Lawful) (openpyxlLawful : openpyxl.Lawful)
variable (naive : runtime.NaiveDigits)
variable (distinct : ReadersDistinct runtime config openpyxl package)
include lawful openpyxlLawful naive distinct

theorem readersAgree_of_readAlike (alike : ReadAlike runtime config openpyxl package) :
    ReadersAgree runtime config openpyxl package := by
  cases alike with
  | inl refused =>
      rw [ReadersAgree, transactionsRead_eq_none refused.1, transactionsRead_eq_none refused.2]
  | inr accepted =>
      obtain ⟨acceptedValues, acceptedXml, alike⟩ := accepted
      obtain ⟨loaded, isLoaded⟩ := exists_load acceptedValues
      obtain ⟨loadedXml, isLoadedXml⟩ := exists_load acceptedXml
      obtain ⟨identified, readValues⟩ := transactionsRead_of_load isLoaded
      obtain ⟨identifiedXml, readXml⟩ := transactionsRead_of_load isLoadedXml
      have others : ∀ sheet ∈ package.before ++ package.after,
          Lib.firsts Identity.externalTransactionId
            ((sheetBookings runtime config (sheetValues openpyxl sheet)).map
              (BookedRow.identity runtime)) = [] := by
        intro sheet other
        rw [(sheetBookings_eq_nil_iff (identified _
          (mem_sheets_readWorkbook (mem_sheets_of_other other)))).mpr (alike.others sheet other)]
        rfl
      have sheet1 := (sheetIdentities_eq_iff lawful openpyxlLawful naive
        (identified _ (mem_sheets_readWorkbook mem_sheets_sheet1))
        (identifiedXml _ (List.mem_singleton.mpr rfl)) distinct.sheet1).mpr alike.rows
      have values : fileIdentities runtime config (readWorkbook openpyxl package) =
          fileIdentities runtime config (readFallback package) := by
        rw [fileIdentities_readFallback, ← sheet1, fileIdentities, readWorkbook,
          List.flatMap_map, List.flatMap_append, List.flatMap_cons,
          List.flatMap_eq_nil_iff.mpr fun sheet earlier =>
            others sheet (List.mem_append_left _ earlier),
          List.flatMap_eq_nil_iff.mpr fun sheet later =>
            others sheet (List.mem_append_right _ later),
          List.nil_append, List.append_nil]
      rw [ReadersAgree, readValues, readXml, values]

theorem readAlike_of_readersAgree (once : WrittenOnce runtime config openpyxl package)
    (agree : ReadersAgree runtime config openpyxl package) :
    ReadAlike runtime config openpyxl package := by
  rw [ReadersAgree] at agree
  by_cases refused : Refused runtime config (readWorkbook openpyxl package)
  · rw [transactionsRead_eq_none refused] at agree
    refine .inl ⟨refused, ?_⟩
    intro loaded isLoaded
    rw [(transactionsRead_of_load isLoaded).2] at agree
    cases agree
  · obtain ⟨loaded, isLoaded⟩ := exists_load refused
    rw [transactionsRead_of_nodup isLoaded once.1] at agree
    by_cases refusedXml : Refused runtime config (readFallback package)
    · rw [transactionsRead_eq_none refusedXml] at agree
      cases agree
    · obtain ⟨loadedXml, isLoadedXml⟩ := exists_load refusedXml
      rw [transactionsRead_of_nodup isLoadedXml once.2, Option.some_inj,
        readBookings_readFallback, readBookings_readWorkbook] at agree
      have identified := (transactionsRead_of_load isLoaded).1
      have identifiedSheet := identified _ (mem_sheets_readWorkbook mem_sheets_sheet1)
      have identifiedXml := (transactionsRead_of_load isLoadedXml).1 _ (List.mem_singleton.mpr rfl)
      have sameLength := length_sheetBookings openpyxlLawful naive identifiedSheet identifiedXml
      have lengths := congrArg List.length agree
      simp only [List.length_map, List.length_append] at lengths
      -- the sheet has as many bookings through both readers, so the others have none
      have noneBefore := List.eq_nil_of_length_eq_zero (l := package.before.flatMap fun sheet =>
        sheetBookings runtime config (sheetValues openpyxl sheet)) (by omega)
      have noneAfter := List.eq_nil_of_length_eq_zero (l := package.after.flatMap fun sheet =>
        sheetBookings runtime config (sheetValues openpyxl sheet)) (by omega)
      rw [noneBefore, noneAfter, List.nil_append, List.append_nil] at agree
      refine .inr ⟨refused, refusedXml, ?_, (sheetIdentities_eq_iff lawful openpyxlLawful naive
        identifiedSheet identifiedXml distinct.sheet1).mp agree⟩
      intro sheet other
      rw [← sheetBookings_eq_nil_iff (identified _
        (mem_sheets_readWorkbook (mem_sheets_of_other other)))]
      cases List.mem_append.mp other with
      | inl earlier => exact List.flatMap_eq_nil_iff.mp noneBefore sheet earlier
      | inr later => exact List.flatMap_eq_nil_iff.mp noneAfter sheet later

end Packages

/-- Both readers read the same transactions where they read the bookings alike, and only
there as long as no booking is written twice. -/
theorem readersAgree_iff_readAlike (lawful : runtime.Lawful) (openpyxlLawful : openpyxl.Lawful)
    (naive : runtime.NaiveDigits) (package : Package)
    (distinct : ReadersDistinct runtime config openpyxl package) :
    (ReadAlike runtime config openpyxl package →
        ReadersAgree runtime config openpyxl package) ∧
      (WrittenOnce runtime config openpyxl package →
        (ReadersAgree runtime config openpyxl package ↔
          ReadAlike runtime config openpyxl package)) := by
  have enough : ReadAlike runtime config openpyxl package →
      ReadersAgree runtime config openpyxl package :=
    readersAgree_of_readAlike lawful openpyxlLawful naive distinct
  refine ⟨enough, fun once => ⟨?_, enough⟩⟩
  exact readAlike_of_readersAgree lawful openpyxlLawful naive distinct once

section Runs

/-- The digests of a booking with an amount of -12.5 and of -12.50. -/
private def amountDigests : List (String × String) :=
  [("t1\x1f\x1f2026-01-02 00:00:00+00:00\x1f\x1f\x1f-12.5\x1feur\x1f\x1f\x1f",
      "62683a7a4d6a58764c3c1d9b84a674f13588c15e6b17ae084311181a97fd2149"),
    ("t1\x1f\x1f2026-01-02 00:00:00+00:00\x1f\x1f\x1f-12.50\x1feur\x1f\x1f\x1f",
      "80cb44c494aaec9932c27aa15ebed357b6720ae07153e48869736b3c355d27a9")]

private def serialRuntime : Runtime :=
  { dayRuntime with
    excelDate := fun text => if text = "46024" then some bookingDay else none
    sha256 := fun text => (amountDigests.lookup text).getD text }

private def dayOpenpyxl : Openpyxl where
  floatStr number := if number = -25 / 2 then "-12.5" else (⟨number.num, 0⟩ : Decimal).str
  fromExcel serial := Instant.days (serial.floor - 25569)

private theorem serialRuntime_lawful : serialRuntime.Lawful :=
  ⟨dayRuntime_lawful.casefold_ascii, dayRuntime_lawful.utcStr_injective⟩

private theorem serialRuntime_naiveDigits : serialRuntime.NaiveDigits :=
  fun _ => ⟨'2', show '2' ∈ "2026-01-02 00:00:00".toList by decide, by decide⟩

private theorem dayOpenpyxl_lawful : dayOpenpyxl.Lawful where
  floatStr_digit number := by
    unfold dayOpenpyxl
    dsimp only
    split
    · exact .inl ⟨'1', by decide, by decide⟩
    · exact .inl (Decimal.exists_digit_str _)

private def serial : NumberText := ⟨"46024", ⟨46024, 0⟩, rfl⟩

private def amount : NumberText := ⟨"-12.50", ⟨-1250, -2⟩, rfl⟩

/-- An export with one booking, whose amount has a trailing zero. -/
private def amountExport : Package where
  name := "transacties.xlsx"
  before := []
  sheet1 :=
    [["Transactiedatum", "Boekingsbedrag", "Transactie-ID"].map Stored.shared,
      [.date serial, .number amount, .shared "T1"]]
  after := []

private theorem transactionsRead_amountExport :
    transactionsRead serialRuntime saxoConfig (readWorkbook dayOpenpyxl amountExport) =
        some [⟨"saxo-62683a7a4d6a58764c3c1d9b84a674f1", bookingDay, -25 / 2, none, none⟩] ∧
      transactionsRead serialRuntime saxoConfig (readFallback amountExport) =
        some [⟨"saxo-80cb44c494aaec9932c27aa15ebed357", bookingDay, -25 / 2, none, none⟩] := by
  decide +kernel

/-- An amount that is stored as -12.50 gives a booking two ids. -/
theorem amountExport_not_readersAgree :
    ¬ ReadersAgree serialRuntime saxoConfig dayOpenpyxl amountExport := by
  rw [ReadersAgree, transactionsRead_amountExport.1, transactionsRead_amountExport.2]
  decide

/-- The booking is not read alike. -/
theorem readersAgree_iff_readAlike_amountExport :
    ¬ ReadAlike serialRuntime saxoConfig dayOpenpyxl amountExport := by
  have bookings :
      (readBookings serialRuntime saxoConfig (readWorkbook dayOpenpyxl amountExport)).map
          (BookedRow.externalId serialRuntime) = ["saxo-62683a7a4d6a58764c3c1d9b84a674f1"] ∧
        (readBookings serialRuntime saxoConfig (readFallback amountExport)).map
          (BookedRow.externalId serialRuntime) = ["saxo-80cb44c494aaec9932c27aa15ebed357"] := by
    decide +kernel
  have once : WrittenOnce serialRuntime saxoConfig dayOpenpyxl amountExport := by
    rw [WrittenOnce, bookings.1, bookings.2]
    decide
  have distinct : ReadersDistinct serialRuntime saxoConfig dayOpenpyxl amountExport := by
    intro booked isBooked other isOther same
    have first := List.mem_map_of_mem (f := BookedRow.externalId serialRuntime) isBooked
    have second := List.mem_map_of_mem (f := BookedRow.externalId serialRuntime) isOther
    rw [bookings.1, List.mem_singleton] at first
    rw [bookings.2, List.mem_singleton] at second
    rw [first, second] at same
    exact absurd same (by decide)
  rw [← (readersAgree_iff_readAlike serialRuntime saxoConfig dayOpenpyxl serialRuntime_lawful
    dayOpenpyxl_lawful serialRuntime_naiveDigits amountExport distinct).2 once, ReadersAgree,
    transactionsRead_amountExport.1, transactionsRead_amountExport.2]
  decide

end Runs

end FinanceSync.Saxo
