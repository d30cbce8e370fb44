import Mathlib.Data.String.Basic

/-!
# `csv.reader`

The reader of CSV files in its default dialect: a state machine over the characters
of a line, which gives a record at the end of each line outside quotes.  The reader
stops at a character after the end of a line, and at a field over the limit.
-/

namespace FinanceSync.Csv

/-- What stops the reading of a file. -/
inductive ReadError
  /-- `csv.Error` -/
  | csv
  /-- `UnicodeDecodeError`, from the file that the lines come from -/
  | undecodable
deriving DecidableEq

abbrev Field := List Char

abbrev Record := List Field

inductive Mode
  | startRecord
  | startField
  | inField
  | inQuotedField
  | quoteInQuotedField
  | eatNewline
deriving DecidableEq

structure State where
  mode : Mode := .startRecord
  field : Field := []
  fields : Record := []

/-- `csv.field_size_limit()` -/
def fieldSizeLimit : Nat := 131072

def isNewline (char : Char) : Bool := char = '\n' || char = '\r'

namespace State

/-- `parse_save_field` -/
def saveField (state : State) (mode : Mode) : State :=
  { mode, field := [], fields := state.fields ++ [state.field] }

/-- `parse_add_char` -/
def addChar (state : State) (char : Char) (mode : Mode) : Except ReadError State :=
  if fieldSizeLimit ≤ state.field.length then .error .csv
  else .ok { state with mode, field := state.field ++ [char] }

/-- The first character of a field. -/
def openField (delimiter : Char) (state : State) (char : Char) : Except ReadError State :=
  if isNewline char then .ok (state.saveField .eatNewline)
  else if char = '"' then .ok { state with mode := .inQuotedField }
  else if char = delimiter then .ok (state.saveField .startField)
  else state.addChar char .inField

/-- `parse_process_char` -/
def step (delimiter : Char) (state : State) (char : Char) : Except ReadError State :=
  match state.mode with
  | .startRecord =>
      if isNewline char then .ok { state with mode := .eatNewline }
      else state.openField delimiter char
  | .startField => state.openField delimiter char
  | .inField =>
      if isNewline char then .ok (state.saveField .eatNewline)
      else if char = delimiter then .ok (state.saveField .startField)
      else state.addChar char .inField
  | .inQuotedField =>
      if char = '"' then .ok { state with mode := .quoteInQuotedField }
      else state.addChar char .inQuotedField
  | .quoteInQuotedField =>
      if char = '"' then state.addChar char .inQuotedField
      else if char = delimiter then .ok (state.saveField .startField)
      else if isNewline char then .ok (state.saveField .eatNewline)
      else state.addChar char .inField
  | .eatNewline => if isNewline char then .ok state else .error .csv

/-- `parse_process_char` of the end of a line. -/
def endLine (state : State) : State :=
  match state.mode with
  | .startRecord | .inQuotedField => state
  | .startField | .inField | .quoteInQuotedField => state.saveField .startRecord
  | .eatNewline => { state with mode := .startRecord }

def readLine (delimiter : Char) (state : State) (line : List Char) : Except ReadError State :=
  (line.foldlM (step delimiter) state).map endLine

end State

/-- The records of the lines, and what stops the reader after them.  A quoted field
that is open at the end of the lines ends there. -/
def recordsFrom (delimiter : Char) (failure : Option ReadError) (state : State) :
    List (List Char) → List Record × Option ReadError
  | [] =>
      if failure.isNone ∧ state.mode = .inQuotedField then
        ([(state.saveField .startRecord).fields], none)
      else ([], failure)
  | line :: lines =>
      match state.readLine delimiter line with
      | .error error => ([], some error)
      | .ok next =>
          if next.mode = .startRecord then
            let (records, stop) := recordsFrom delimiter failure {} lines
            (next.fields :: records, stop)
          else recordsFrom delimiter failure next lines

/-- `csv.reader(lines, delimiter=delimiter)`, where the lines may end with a failure. -/
def reader (delimiter : Char) (lines : List (List Char)) (failure : Option ReadError := none) :
    List Record × Option ReadError :=
  recordsFrom delimiter failure {} lines

/-- The lines of `io.StringIO(text)`, each with its end. -/
def stringLines : List Char → List (List Char)
  | [] => []
  | '\n' :: rest => ['\n'] :: stringLines rest
  | char :: rest =>
      match stringLines rest with
      | [] => [[char]]
      | line :: lines => (char :: line) :: lines

example : reader ';' (stringLines "a;\"b;\"\"c\"\n\nd".toList) =
    ([["a".toList, "b;\"c".toList], [], ["d".toList]], none) := by decide

/-! ## `csv.DictReader` -/

/-- A record under the names of its columns. -/
structure DictRow where
  fieldnames : List String
  values : Record

/-- What `row.get(name)` finds: `None` stands in the columns that a record is too
short for. -/
inductive DictCell
  | absent
  | none
  | text (content : Field)

/-- The last of the columns with the name. -/
def DictRow.get (row : DictRow) (name : String) : DictCell :=
  match ((row.fieldnames.zipIdx.filter fun (fieldname, _) => fieldname = name).getLast?) with
  | .none => .absent
  | some (_, index) =>
      match row.values[index]? with
      | .none => .none
      | some content => .text content

/-- The records under the given names, or under those of the first record.  Records
of blank lines are dropped. -/
def dictRows (fieldnames : Option (List String)) (records : List Record) : List DictRow :=
  let under (fieldnames : List String) (records : List Record) : List DictRow :=
    (records.filter (· ≠ [])).map fun values => { fieldnames, values }
  match fieldnames, records with
  | some names, records => under names records
  | none, [] => []
  | none, header :: records => under (header.map String.ofList) records

end FinanceSync.Csv
