import FinanceSync.Data.DecimalText
import FinanceSync.Lib.FirstByKey
import FinanceSync.Lib.Grouping
import Mathlib.Data.List.Infix

/-!
# SaxoInvestor connector

The position and transaction exports of SaxoInvestor as the connector reads them.
A worksheet is a list of rows of which the first holds the headers.
-/

namespace FinanceSync.Saxo

/-! ## Worksheets -/

/-- A value of a worksheet.  A number is kept as the text that `str` gives for it,
and a date as it would be in UTC. -/
inductive Cell
  | empty
  | text (text : String)
  | number (text : String)
  | datetime (instant : Instant)
deriving DecidableEq

abbrev Row := List Cell

/-- An export file with its worksheets in order. -/
structure Workbook where
  name : String
  sheets : List (List Row)

/-- What the connector takes from the Python runtime. -/
structure Runtime where
  casefold : String → String
  upper : String → String
  /-- The characters that `\w` matches. -/
  isWord : Char → Bool
  /-- `datetime.fromisoformat(text)`, read in UTC. -/
  fromIsoFormat : String → Option Instant
  /-- `datetime(1899, 12, 30) + timedelta(days=float(text))` -/
  excelDate : String → Option Instant
  /-- `str` and `repr` of a date without a time zone. -/
  naiveStr : Instant → String
  naiveRepr : Instant → String
  /-- `str` of a date in UTC. -/
  utcStr : Instant → String
  /-- `hashlib.sha256(text.encode()).hexdigest()` -/
  sha256 : String → String

structure Config where
  currencyCode : Option String := none
  externalAccountId : String

variable (runtime : Runtime)

/-! ## Values -/

def cleanText (text : String) : String :=
  String.ofList (strip (text.toList.map fun char => if char = '\u00a0' then ' ' else char))

def Cell.str : Cell → String
  | .empty => ""
  | .text content => content
  | .number content => content
  | .datetime instant => runtime.naiveStr instant

def Cell.repr : Cell → String
  | .empty => "None"
  | .text content => Json.quote content
  | .number content => content
  | .datetime instant => runtime.naiveRepr instant

def clean (value : Cell) : String := cleanText (value.str runtime)

/-- `bool(value)` -/
def Cell.truthy : Cell → Bool
  | .empty => false
  | .text content => content ≠ ""
  | .number content =>
      match parseDecimal content.toList with
      | some (.finite decimal) => decimal.coefficient ≠ 0
      | _ => true
  | .datetime _ => true

/-- The texts that stand for no number. -/
def blanks : List String := ["", "–", "-", "—"]

/-- A text of a number without currency signs and blanks and with a point. -/
def numberText (text : String) : List Char :=
  let kept := (cleanText text).toList.filter fun char => char ∉ ['€', '$', '£', ' ']
  let grouped := ',' ∈ kept ∧ '.' ∈ kept
  (if grouped then kept.filter (· ≠ '.') else kept).map fun char =>
    if char = ',' then '.' else char

/-- `_decimal(value, required=False)`.  A number that is not finite is refused by
the models that the connector fills. -/
def optionalDecimal (value : Cell) (field : String) : Except String (Option Decimal) :=
  if clean runtime value ∈ blanks then .ok none
  else
    let chars :=
      match value with
      | .number text => text.toList
      | value => numberText (value.str runtime)
    match parseDecimal chars with
    | some (.finite decimal) => .ok (some decimal)
    | _ => .error (field ++ " bevat geen geldig getal: " ++ value.repr runtime)

/-- `_decimal(value)` -/
def decimal (value : Cell) (field : String) : Except String Decimal := do
  match ← optionalDecimal runtime value field with
  | some decimal => .ok decimal
  | none => .error (field ++ " ontbreekt")

def isUpperLetter (char : Char) : Bool := 'A' ≤ char && char ≤ 'Z'

def currency (value : Cell) : Except String String :=
  let currency := runtime.upper (clean runtime value)
  if currency.toList.length = 3 ∧ currency.toList.all isUpperLetter then .ok currency
  else .error ("ongeldige valuta: " ++ value.repr runtime)

def asDatetime (value : Cell) : Except String Instant :=
  match value with
  | .datetime instant => .ok instant
  | .number text =>
      match runtime.excelDate text with
      | some instant => .ok instant
      | none => .error "date value out of range"
  | value =>
      match runtime.fromIsoFormat (clean runtime value) with
      | some instant => .ok instant
      | none => .error ("Invalid isoformat string: " ++ Json.quote (clean runtime value))

/-- `part in text` -/
def contains (part text : String) : Bool := part.toList <:+: text.toList

/-- `re.search(rf"\b{word}\b", text)` after the character `previous`. -/
def containsWord (word : List Char) : Option Char → List Char → Bool
  | _, [] => false
  | previous, char :: rest =>
      (!previous.any runtime.isWord && word.isPrefixOf (char :: rest) &&
          !((char :: rest).drop word.length).head?.any runtime.isWord) ||
        containsWord word (some char) rest

def transactionType (action nativeType : String) : String :=
  let normalized := runtime.casefold (nativeType ++ " " ++ action)
  let word (word : String) := containsWord runtime word.toList none normalized.toList
  let any (markers : List String) := markers.any fun marker => contains marker normalized
  if word "verkoop" then "sale"
  else if word "koop" then "purchase"
  else if any ["storting"] then "deposit"
  else if any ["opname"] then "withdrawal"
  else if any ["stock split", "aandelensplitsing", "split ratio"] then "split"
  else if any ["corporate action", "corporate actie"] then "corporate_action"
  else if any ["dividend"] then "dividend"
  else if any ["belasting", "voorheffing"] then "tax"
  else if any ["kosten", "fee"] then "fee"
  else if any ["overboeking", "lending"] then "interest"
  else "other"

/-- A character of `[\d.,]`. -/
def isNumberChar (char : Char) : Bool := char.isDigit || char = '.' || char = ','

/-- The texts of the quantity and the price at the start of a text that the trade
pattern matches. -/
def matchTrade (chars : List Char) : Option (List Char × List Char) := do
  let lower := chars.map Char.toLower
  let length ←
    if "koop".toList.isPrefixOf lower then some 4
    else if "verkoop".toList.isPrefixOf lower then some 7
    else none
  let blank := chars.drop length
  let signed := blank.dropWhile isSpace
  let sign := if signed.head? = some '-' then ['-'] else []
  let unsigned := signed.drop sign.length
  let quantity := unsigned.takeWhile isNumberChar
  let price :=
    match (unsigned.dropWhile isNumberChar).dropWhile isSpace with
    | '@' :: rest => (rest.dropWhile isSpace).takeWhile isNumberChar
    | _ => []
  if (blank.takeWhile isSpace ≠ []) ∧ quantity ≠ [] ∧ price ≠ [] then
    some (sign ++ quantity, price)
  else none

/-- The leftmost match of the trade pattern after the character `previous`. -/
def searchTrade : Option Char → List Char → Option (List Char × List Char)
  | _, [] => none
  | previous, char :: rest =>
      if previous.any runtime.isWord then searchTrade (some char) rest
      else (matchTrade (char :: rest)).or (searchTrade (some char) rest)

/-- Extract quantity and unit price from Saxo's action description. -/
def tradeDetails (text : String) : Except String (Option Decimal × Option Decimal) :=
  match searchTrade runtime none text.toList with
  | none => .ok (none, none)
  | some (quantity, price) => do
      let quantity ← optionalDecimal runtime (.text (String.ofList quantity)) "Handelsaantal"
      let price ← optionalDecimal runtime (.text (String.ofList price)) "Handelskoers"
      .ok (quantity.map Decimal.abs, price)

def fingerprint (texts : List String) : String := runtime.sha256 ("\x1f".intercalate texts)

def securityType (category : String) : String :=
  let normalized := runtime.casefold category
  if contains "etf" normalized then "etf"
  else if contains "fonds" normalized then "mutual_fund"
  else if contains "aandeel" normalized then "equity"
  else if normalized = "" then "other"
  else String.ofList (normalized.toList.map fun char => if char = ' ' then '_' else char)

/-- `symbol.rsplit(":", 1)[1] if ":" in symbol` -/
def venueOf (symbol : String) : Option String :=
  if ':' ∈ symbol.toList then
    some (String.ofList (symbol.toList.reverse.takeWhile (· ≠ ':')).reverse)
  else none

/-! ## Columns -/

def headersOf (values : List Row) : List String :=
  (values.headD []).map (clean runtime)

/-- `index.get(header)`: the last column with a header. -/
def column (headers : List String) (header : String) : Option Nat :=
  (headers.zipIdx.filter fun entry => entry.1 = header).getLast?.map Prod.snd

/-- The value of a row in the column of a header. -/
def cellOf (headers : List String) (row : Row) (header : String) : Option Cell :=
  (column headers header).map fun position => row.getD position .empty

/-- `_clean(row[index[header]]) if header in index else ""` -/
def textOf (headers : List String) (row : Row) (header : String) : String :=
  ((cellOf headers row header).map (clean runtime)).getD ""

/-- The rows after the headers with their lines. -/
def numbered (values : List Row) : List (Row × Nat) := values.tail.zipIdx 2

def onLine (field : String) (line : Nat) : String := field ++ " op regel " ++ toString line

/-! ## Positions -/

structure Position where
  instrument : String
  isin : String
  symbol : String
  venue : String
  instrumentCurrency : String
  quantity : Decimal
  price : Decimal
  marketValue : Decimal
  costBasis : Decimal
  securityType : String
deriving DecidableEq

/-- `re.fullmatch(r"[A-Z]{3} \(\d+\)", instrument)`: a heading of a group of rows. -/
def isGroupHeading (instrument : String) : Bool :=
  match instrument.toList with
  | first :: second :: third :: ' ' :: '(' :: rest =>
      isUpperLetter first && isUpperLetter second && isUpperLetter third &&
        rest.getLast? = some ')' && rest.dropLast ≠ [] && rest.dropLast.all Char.isDigit
  | _ => false

/-- A row that is neither blank nor a heading. -/
def isPositionRow (headers : List String) (row : Row) : Prop :=
  textOf runtime headers row "Instrument" ≠ "" ∧
    runtime.upper (textOf runtime headers row "ISIN") ≠ "" ∧
    ¬ isGroupHeading (textOf runtime headers row "Instrument")

instance (headers : List String) (row : Row) : Decidable (isPositionRow runtime headers row) :=
  inferInstanceAs (Decidable (_ ∧ _ ∧ _))

def parsePosition (headers : List String) (row : Row) (line : Nat) :
    Except String (Option Position) :=
  if ¬ isPositionRow runtime headers row then .ok none
  else do
    let cell (header : String) : Cell := (cellOf headers row header).getD .empty
    let instrument := textOf runtime headers row "Instrument"
    let isin := runtime.upper (textOf runtime headers row "ISIN")
    let instrumentCurrency ← currency runtime (cell "Valuta")
    let quantity ← decimal runtime (cell "Aantal") (onLine "Aantal" line)
    let price ← decimal runtime (cell "Actuele koers") (onLine "Actuele koers" line)
    let marketValue ←
      decimal runtime (cell "Huidige waarde (EUR)") (onLine "Huidige waarde" line)
    let costBasis ←
      decimal runtime ((cellOf headers row "Kostprijs").getD (cell "Actuele koers"))
        (onLine "Kostprijs" line)
    let symbol := clean runtime ((cellOf headers row "Symbool").getD (cell "Instrument"))
    let category := (cellOf headers row "Soort belegging").getD (cell "Instrument")
    .ok (some
      { instrument, isin, symbol
        venue := (venueOf symbol).getD ""
        instrumentCurrency, quantity, price, marketValue, costBasis
        securityType := securityType runtime (clean runtime category) })

def parsePositions (values : List Row) : Except String (List Position) := do
  let rows ← (numbered values).mapM fun (row, line) =>
    parsePosition runtime (headersOf runtime values) row line
  .ok rows.reduceOption

/-! ## Transactions -/

structure SecurityReference where
  externalId : Option String
  isin : Option String
  ticker : Option String
  name : Option String
  venue : Option String
  currencyCode : Option String
  securityType : String
deriving DecidableEq

/-- A booked row up to its external id. -/
structure BookedRow where
  occurredAt : Instant
  bookingCurrency : String
  amount : Decimal
  action : String
  description : String
  quantity : Option Decimal
  unitPrice : Option Decimal
  nativeType : String
  isin : String
  symbol : String
  instrument : String
  reference : Option SecurityReference
  sourceId : String
  bookingId : String
deriving DecidableEq

/-- The texts that the fingerprint hashes. -/
def BookedRow.texts (booked : BookedRow) : List String :=
  [booked.sourceId, booked.bookingId, runtime.utcStr booked.occurredAt, booked.nativeType,
    booked.action, booked.amount.str, booked.bookingCurrency, booked.isin, booked.symbol,
    booked.instrument].map fun value => runtime.casefold (cleanText value)

def BookedRow.externalId (booked : BookedRow) : String :=
  "saxo-" ++ String.ofList ((fingerprint runtime (booked.texts runtime)).toList.take 32)

/-- A transaction but for the file it comes from. -/
structure Booking where
  externalTransactionId : String
  externalAccountId : String
  amount : Decimal
  currencyCode : String
  occurredAt : Instant
  bookedAt : Option Instant
  description : String
  transactionType : String
  quantity : Option Decimal
  unitPrice : Option Decimal
  securityReference : Option SecurityReference
  feeAmount : Option Decimal
  feeCurrencyCode : Option String
  fxRate : Option Decimal
  bookingId : String
  transactionId : String
  saxoValueDate : Option Instant
  canonicalBookingDateAdjusted : Bool
  accountId : String
deriving DecidableEq

structure RawTransaction where
  sourceFile : String
  booking : Booking
deriving DecidableEq

/-- `value or None` -/
def nonEmpty (text : String) : Option String := if text = "" then none else some text

/-- `_currency(self.config.options.get("currency_code") or "EUR")` -/
def configuredCurrency (config : Config) : Except String String :=
  currency runtime (.text ((config.currencyCode.filter (· ≠ "")).getD "EUR"))

def securityReference (headers : List String) (row : Row) :
    Except String (Option SecurityReference) :=
  let isin := runtime.upper (textOf runtime headers row "Instrument ISIN")
  let symbol := textOf runtime headers row "Instrumentsymbool"
  let instrument := textOf runtime headers row "Instrument"
  if isin = "" ∧ symbol = "" ∧ instrument = "" then .ok none
  else
    match cellOf headers row "Instrumentvaluta" with
    | none => .error "'Instrumentvaluta'"
    | some value =>
        .ok (some
          { externalId := (nonEmpty isin).or (nonEmpty symbol)
            isin := nonEmpty isin
            ticker := nonEmpty symbol
            name := nonEmpty instrument
            venue := venueOf symbol
            currencyCode := nonEmpty (runtime.upper (clean runtime value))
            securityType := securityType runtime (textOf runtime headers row "Type") })

/-- The value of the first of the columns that the sheet has. -/
def firstColumn (headers : List String) (row : Row) (columns : List String) : Cell :=
  (columns.findSome? (cellOf headers row)).getD .empty

/-- A row up to its external id, or none if it carries no booking amount. -/
def identify (config : Config) (headers : List String) (row : Row) (line : Nat) :
    Except String (Option BookedRow) :=
  let rawAmount := (cellOf headers row "Boekingsbedrag").getD .empty
  if clean runtime rawAmount ∈ blanks then .ok none
  else do
    let occurredAt ← asDatetime runtime ((cellOf headers row "Transactiedatum").getD .empty)
    let bookingCurrency ←
      match cellOf headers row "Valuta" with
      | some value => currency runtime value
      | none => configuredCurrency runtime config
    let amount ← decimal runtime rawAmount (onLine "Boekingsbedrag" line)
    let action := textOf runtime headers row "Acties"
    let note := textOf runtime headers row "Opmerking"
    let description := " ".intercalate ([action, note].filter (· ≠ ""))
    let (quantity, unitPrice) ← tradeDetails runtime description
    let nativeType := clean runtime (firstColumn headers row ["Transactietype", "Type"])
    let reference ← securityReference runtime headers row
    let sourceId := firstColumn headers row ["Transactie-ID", "Order-ID", "Bk Record Id"]
    let bookingId := firstColumn headers row ["Booking Id", "Bk Record Id"]
    .ok (some
      { occurredAt, bookingCurrency, amount, action, description, quantity, unitPrice, nativeType
        isin := runtime.upper (textOf runtime headers row "Instrument ISIN")
        symbol := textOf runtime headers row "Instrumentsymbool"
        instrument := textOf runtime headers row "Instrument"
        reference
        sourceId := sourceId.str runtime
        bookingId := bookingId.str runtime })

def valueDateOf (headers : List String) (row : Row) : Except String (Option Instant) :=
  match (cellOf headers row "Valutadatum").filter Cell.truthy with
  | some value => (asDatetime runtime value).map some
  | none => .ok none

/-- The rest of a row whose external id has not been seen in the sheet. -/
def complete (config : Config) (headers : List String) (row : Row) (booked : BookedRow) :
    Except String Booking := do
  let valueDate ← valueDateOf runtime headers row
  let fee ←
    match cellOf headers row "Totale kosten" with
    | some value => optionalDecimal runtime value "Totale kosten"
    | none => .ok none
  let fxRate ←
    match cellOf headers row "Omrekeningskoers" with
    | some value => optionalDecimal runtime value "Omrekeningskoers"
    | none => .ok none
  let fee := fee.filter fun fee => fee.coefficient ≠ 0
  .ok
    { externalTransactionId := booked.externalId runtime
      externalAccountId := config.externalAccountId
      amount := booked.amount
      currencyCode := booked.bookingCurrency
      occurredAt := booked.occurredAt
      bookedAt := valueDate.map (max booked.occurredAt)
      description := booked.description
      transactionType := transactionType runtime booked.action booked.nativeType
      quantity := booked.quantity
      unitPrice := booked.unitPrice
      securityReference := booked.reference
      feeAmount := fee.map Decimal.abs
      feeCurrencyCode := fee.map fun _ => booked.bookingCurrency
      fxRate
      bookingId := cleanText booked.bookingId
      transactionId := cleanText booked.sourceId
      saxoValueDate := valueDate
      canonicalBookingDateAdjusted := valueDate.any (· < booked.occurredAt)
      accountId := clean runtime (firstColumn headers row ["Rekening-ID", "Klant-id"]) }

/-- The loop over the rows of a sheet. -/
def parseRows (config : Config) (headers : List String) (seenExternalIds : List String) :
    List (Row × Nat) → Except String (List Booking)
  | [] => .ok []
  | (row, line) :: rest => do
      match ← identify runtime config headers row line with
      | none => parseRows config headers seenExternalIds rest
      | some booked =>
          if booked.externalId runtime ∈ seenExternalIds then
            parseRows config headers seenExternalIds rest
          else do
            let booking ← complete runtime config headers row booked
            let seenExternalIds := booked.externalId runtime :: seenExternalIds
            let bookings ← parseRows config headers seenExternalIds rest
            .ok (booking :: bookings)

def parseTransactions (config : Config) (values : List Row) : Except String (List Booking) :=
  parseRows runtime config (headersOf runtime values) [] (numbered values)

/-! ## `_load` -/

def requiredHeaders : List String :=
  ["Instrument", "Valuta", "Aantal", "Actuele koers", "Huidige waarde (EUR)", "ISIN"]

def transactionHeaders : List String := ["Transactiedatum", "Boekingsbedrag"]

def isPositionSheet (values : List Row) : Prop :=
  values ≠ [] ∧ requiredHeaders ⊆ headersOf runtime values

def isTransactionSheet (values : List Row) : Prop :=
  values ≠ [] ∧ ¬ requiredHeaders ⊆ headersOf runtime values ∧
    transactionHeaders ⊆ headersOf runtime values

instance (values : List Row) : Decidable (isPositionSheet runtime values) :=
  inferInstanceAs (Decidable (_ ∧ _))

instance (values : List Row) : Decidable (isTransactionSheet runtime values) :=
  inferInstanceAs (Decidable (_ ∧ _ ∧ _))

/-- What a sheet or a file contributes. -/
structure Content where
  positions : List Position
  bookings : List Booking

def parseSheet (config : Config) (values : List Row) : Except String Content := do
  if isPositionSheet runtime values then .ok ⟨← parsePositions runtime values, []⟩
  else if isTransactionSheet runtime values then .ok ⟨[], ← parseTransactions runtime config values⟩
  else .ok ⟨[], []⟩

def parseWorkbook (config : Config) (sheets : List (List Row)) : Except String Content := do
  let contents ← sheets.mapM (parseSheet runtime config)
  .ok ⟨contents.flatMap Content.positions, contents.flatMap Content.bookings⟩

structure Loaded where
  rows : List Position
  transactions : List RawTransaction
  netAssetValue : Option ℚ
  cashByCurrency : List (String × ℚ)

def RawTransaction.externalTransactionId (transaction : RawTransaction) : String :=
  transaction.booking.externalTransactionId

/-- The amounts that the cash balances add up. -/
def cashEntries (transactions : List RawTransaction) : List (String × ℚ) :=
  transactions.map fun transaction =>
    (runtime.upper transaction.booking.currencyCode, transaction.booking.amount.value)

/-- The transactions of the files in the order in which they are read. -/
def readTransactions (files : List (Workbook × Content)) : List RawTransaction :=
  files.flatMap fun (workbook, content) =>
    content.bookings.map (RawTransaction.mk workbook.name)

/-- The net asset value and the cash balances of what has been read. -/
def loadedOf (rows : List Position) (transactions : List RawTransaction) : Loaded :=
  { rows
    transactions
    netAssetValue :=
      if rows = [] then none else some (rows.map fun row => row.marketValue.value).sum
    cashByCurrency := Lib.groupTotals (cashEntries runtime transactions) }

def load (config : Config) (workbooks : List Workbook) : Except String Loaded := do
  let contents ← workbooks.mapM fun workbook => parseWorkbook runtime config workbook.sheets
  let loaded := loadedOf runtime (contents.flatMap Content.positions)
    (Lib.firsts RawTransaction.externalTransactionId
      (readTransactions (workbooks.zip contents)))
  if loaded.rows = [] ∧ loaded.transactions = [] then
    .error ("geen herkenbare Saxo-posities of transacties gevonden " ++
      "(vereiste kolommen ontbreken)")
  else .ok loaded

end FinanceSync.Saxo
