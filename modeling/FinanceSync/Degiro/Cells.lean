import FinanceSync.Data.QuantityEvent

/-!
# Cells of DEGIRO exports

How the importer of DEGIRO's exports reads texts, numbers and currencies out of the
cells of a row, and finds the cells by the headers.
-/

namespace FinanceSync.Degiro

/-- What the importer takes from the Python runtime. -/
structure Runtime where
  /-- `_key`, the ASCII letters and digits of a header in lower case. -/
  key : String → String
  upper : String → String
  casefold : String → String
  /-- `datetime.strptime(text, format)` in the zone of Amsterdam -/
  strptime : String → String → Option Instant

/-- A cell of a table.  Numbers and moments, which only workbooks have, come with the
text that `str` or `isoformat` gives for them. -/
inductive Cell
  | missing
  | text (content : String)
  | number (text : String) (value : Decimal)
  | moment (text : String) (instant : Instant)

namespace Cell

/-- `value or …` takes the value. -/
def truthy : Cell → Bool
  | missing => false
  | text content => content ≠ ""
  | number _ value => value.coefficient ≠ 0
  | moment _ _ => true

/-- `first or second` -/
def orElse (first second : Cell) : Cell := if first.truthy then first else second

/-- `value in (None, "")` -/
def isBlank : Cell → Bool
  | missing => true
  | text content => content = ""
  | _ => false

end Cell

def cleanChars (text : String) : List Char :=
  strip (text.toList.map fun char => if char = '\u00A0' then ' ' else char)

/-- `_clean` -/
def clean : Cell → String
  | .missing => ""
  | .text text => String.ofList (cleanChars text)
  | .number text _ => String.ofList (cleanChars text)
  | .moment text _ => text

/-! ## Numbers -/

inductive RowError
  /-- `bedrag of aantal ontbreekt` -/
  | missingNumber
  /-- `ongeldig getal` -/
  | invalidNumber (text : String)
  /-- `ongeldige datum/tijd` -/
  | invalidMoment (date time : String)
deriving DecidableEq

/-- `text.replace(char, "")` -/
def without (char : Char) (chars : List Char) : List Char := chars.filter (· ≠ char)

/-- `text.replace(",", ".")` -/
def commasToPoints (chars : List Char) : List Char :=
  chars.map fun char => if char = ',' then '.' else char

/-- Whether the last comma is to the right of the last point. -/
def commaLast (chars : List Char) : Bool :=
  (chars.reverse.find? fun char => char = ',' ∨ char = '.') = some ','

/-- One decimal point, and no thousands separators. -/
def normalizeSeparators (chars : List Char) : List Char :=
  if ',' ∈ chars ∧ '.' ∈ chars then
    if commaLast chars then commasToPoints (without '.' chars) else without ',' chars
  else if ',' ∈ chars then commasToPoints (without '.' chars)
  else chars

/-- `text.strip("()")` -/
def stripParentheses (chars : List Char) : List Char :=
  let isParenthesis := fun char : Char => decide (char = '(' ∨ char = ')')
  ((chars.dropWhile isParenthesis).reverse.dropWhile isParenthesis).reverse

def ParsedDecimal.neg : ParsedDecimal → ParsedDecimal
  | .finite decimal => .finite (-decimal)
  | .infinity negative => .infinity !negative
  | .nan => .nan

/-- The number of a text without currency symbols and blanks. -/
def parseNumber (chars : List Char) : Option ParsedDecimal :=
  let negative := chars.head? = some '(' ∧ chars.getLast? = some ')'
  (parseDecimal (normalizeSeparators (stripParentheses chars))).map fun result =>
    if negative then ParsedDecimal.neg result else result

/-- The text without `[€$£\s]`. -/
def withoutSymbols (chars : List Char) : List Char :=
  chars.filter fun char => ¬ (char ∈ ['€', '$', '£'] ∨ isSpace char)

/-- `_decimal` of a text. -/
def decimalOfText (text : String) : Except RowError (Option ParsedDecimal) :=
  let cleaned := cleanChars text
  if cleaned = [] ∨ cleaned = ['-'] ∨ cleaned = ['-', '-'] then .ok none
  else
    match parseNumber (withoutSymbols cleaned) with
    | none => .error (.invalidNumber text)
    | some result => .ok (some result)

/-- `_decimal` -/
def decimal : Cell → Except RowError (Option ParsedDecimal)
  | .missing => .ok none
  | .text text => decimalOfText text
  | .number _ value => .ok (some (.finite value))
  | .moment text _ => decimalOfText text

/-- `_decimal(value, required=True)` -/
def requiredDecimal (cell : Cell) : Except RowError ParsedDecimal := do
  match ← decimal cell with
  | none => throw .missingNumber
  | some result => return result

/-! ## Rows -/

/-- `_Row` -/
structure Row where
  headers : List String
  values : List Cell

variable (runtime : Runtime)

/-- `_currency`, a code of three capitals or the default. -/
def currency (cell : Cell) (default : String) : String :=
  let code := runtime.upper (clean cell)
  if code.toList.length = 3 ∧ code.toList.all fun char => 'A' ≤ char ∧ char ≤ 'Z' then code
  else default

namespace Row

/-- Places of the columns with one of the names. -/
def indexes (row : Row) (aliases : List String) : List Nat :=
  (row.headers.zipIdx.filter fun (header, _) =>
    runtime.key header ∈ aliases.map runtime.key).map Prod.snd

def value (row : Row) (index : Nat) : Cell := row.values[index]?.getD (.text "")

/-- `row.get(*aliases, occurrence=occurrence)` -/
def get (row : Row) (aliases : List String) (occurrence : Nat := 0) : Cell :=
  match (row.indexes runtime aliases)[occurrence]? with
  | some index => row.value index
  | none => .text ""

/-- `row.after(*aliases)`, the cell after a named column. -/
def after (row : Row) (aliases : List String) : Cell :=
  match (row.indexes runtime aliases).head? with
  | some index => row.value (index + 1)
  | none => .text ""

end Row

/-- `_parse_datetime` -/
def parseDatetime (date time : Cell) : Except RowError Instant :=
  match date with
  | .moment _ instant => .ok instant
  | _ =>
      let rawDate := clean date
      let rawTime := if clean time = "" then "00:00" else clean time
      let formats := ["%d-%m-%Y %H:%M:%S", "%d-%m-%Y %H:%M", "%Y-%m-%d %H:%M:%S",
        "%Y-%m-%d %H:%M", "%d/%m/%Y %H:%M:%S", "%d/%m/%Y %H:%M"]
      match formats.findSome? (runtime.strptime (rawDate ++ " " ++ rawTime)) with
      | some instant => .ok instant
      | none => .error (.invalidMoment rawDate rawTime)

end FinanceSync.Degiro
