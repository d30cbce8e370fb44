import FinanceSync.Data.QuantityEvent
import Mathlib.Data.List.Sort

/-!
# Values of entity attributes

What a sync compares is the Python value of an attribute, what PostgreSQL
compares is the stored value of a column.  This module has both comparisons:
`values_differ`, which goes by `Decimal` or by `str`, and `IS DISTINCT FROM`.

`None` and SQL `NULL` are `none` of an option throughout.
-/

namespace FinanceSync.Persistence

/-- An aware `datetime`: the instant and the offset of the zone it is written in. -/
structure AwareDatetime where
  instant : Instant
  utcOffset : Int
deriving DecidableEq, Repr

/-- A `dict` with text keys, in insertion order. -/
abbrev Dict := List (String × Json)

/-- A value other than `None` that an attribute of a canonical record or of an
entity has. -/
inductive PyValue
  | text (value : String)
  | integer (value : Int)
  | boolean (value : Bool)
  | decimal (value : Decimal)
  | uuid (value : Uuid)
  | datetime (value : AwareDatetime)
  | dict (fields : Dict)
  /-- A pydantic model, given by its `model_dump(mode="json")`. -/
  | model (dump : Dict)

/-! ## `str` -/

/-- What `str(value)` spells.  The texts of decimals, UUIDs and datetimes are
kept as what they spell; each spells its value in one way only. -/
inductive PyText
  | plain (text : String)
  | decimal (text : Int × Int)
  | uuid (value : Uuid)
  | datetime (value : AwareDatetime)
deriving DecidableEq

/-- `str(model)` of a pydantic model: its fields as `name=repr(value)`. -/
def modelText (dump : Dict) : String :=
  " ".intercalate (dump.map fun (name, value) => name ++ "=" ++ value.repr)

/-- `str(value)` -/
def str : Option PyValue → PyText
  | none => .plain "None"
  | some (.text value) => .plain value
  | some (.integer value) => .plain (toString value)
  | some (.boolean value) => .plain (if value then "True" else "False")
  | some (.decimal value) => .decimal value.text
  | some (.uuid value) => .uuid value
  | some (.datetime value) => .datetime value
  | some (.dict fields) => .plain (Json.object fields).repr
  | some (.model dump) => .plain (modelText dump)

/-- `isinstance(value, Decimal)` -/
def isDecimal : Option PyValue → Bool
  | some (.decimal _) => true
  | _ => false

/-- `Decimal(text)` where it is a number; `none` is `InvalidOperation`.  The
decimals of entities are finite, so a text `NaN` or `Infinity` differs from
each of them, by value as by text. -/
def PyText.number : PyText → Option ℚ
  | .decimal (coefficient, exponent) => some (Decimal.value ⟨coefficient, exponent⟩)
  | .plain text =>
      match parseDecimal text.toList with
      | some (.finite number) => some number.value
      | _ => none
  | .uuid _ | .datetime _ => none

/-- Compare two field values for change detection. -/
def valuesDiffer (newVal oldVal : Option PyValue) : Bool :=
  if isDecimal newVal || isDecimal oldVal then
    match (str newVal).number, (str oldVal).number with
    | some new, some old => new ≠ old
    | _, _ => str newVal ≠ str oldVal
  else str newVal ≠ str oldVal

/-! ## Columns of the database -/

/-- A JSONB document as a sequence of tokens.  Numbers are numbers and the
fields of an object are in the order of their names. -/
inductive JsonToken
  | null
  | bool (value : Bool)
  | number (value : ℚ)
  | string (text : String)
  | name (text : String)
  | openArray
  | closeArray
  | openObject
  | closeObject
deriving DecidableEq

/-- JSONB keeps shorter names first. -/
def nameBefore (first second : String) : Bool :=
  first.utf8ByteSize < second.utf8ByteSize ||
    (first.utf8ByteSize = second.utf8ByteSize && first ≤ second)

mutual

/-- The JSONB document of a JSON value.  A number that is no JSON number, such
as `NaN`, is kept apart by its text. -/
def jsonb : Json → List JsonToken
  | .null => [.null]
  | .bool value => [.bool value]
  | .number text =>
      match parseDecimal text.toList with
      | some (.finite decimal) => [.number decimal.value]
      | _ => [.string text]
  | .string text => [.string text]
  | .array items => .openArray :: jsonbItems items ++ [.closeArray]
  | .object fields =>
      .openObject ::
        ((jsonbFields fields).insertionSort fun first second =>
          nameBefore first.1 second.1).flatMap (fun (name, value) => .name name :: value) ++
        [.closeObject]

def jsonbItems : List Json → List JsonToken
  | [] => []
  | item :: rest => jsonb item ++ jsonbItems rest

def jsonbFields : Dict → List (String × List JsonToken)
  | [] => []
  | (name, value) :: rest => (name, jsonb value) :: jsonbFields rest

end

/-- A value in a column. -/
inductive ColumnValue
  | text (value : String)
  | integer (value : Int)
  | boolean (value : Bool)
  | numeric (value : ℚ)
  | uuid (value : Uuid)
  | timestamp (value : Instant)
  | json (document : List JsonToken)
deriving DecidableEq

/-- What a column holds after the value was written to it. -/
def PyValue.stored : PyValue → ColumnValue
  | .text value => .text value
  | .integer value => .integer value
  | .boolean value => .boolean value
  | .decimal value => .numeric value.value
  | .uuid value => .uuid value
  | .datetime value => .timestamp value.instant
  | .dict fields => .json (jsonb (.object fields))
  | .model dump => .json (jsonb (.object dump))

/-- `new IS DISTINCT FROM old` -/
def isDistinct (new old : Option PyValue) : Bool :=
  new.map PyValue.stored ≠ old.map PyValue.stored

/-! ## Loading -/

mutual

/-- A document as it is loaded: the fields come in the order of their names. -/
def reloadJson : Json → Json
  | .array items => .array (reloadItems items)
  | .object fields =>
      .object ((reloadFields fields).insertionSort fun first second =>
        nameBefore first.1 second.1)
  | value => value

def reloadItems : List Json → List Json
  | [] => []
  | item :: rest => reloadJson item :: reloadItems rest

def reloadFields : Dict → Dict
  | [] => []
  | (name, value) :: rest => (name, reloadJson value) :: reloadFields rest

end

/-- The Python value that a session loads where another one wrote `value`. -/
def PyValue.reload : PyValue → PyValue
  | .datetime value => .datetime ⟨value.instant, 0⟩
  | .dict fields =>
      match reloadJson (.object fields) with
      | .object fields => .dict fields
      | _ => .dict fields
  | value => value

/-! ## Serialization -/

/-- The JSON serializer of the engine has no rule for pydantic models. -/
def PyValue.serializable : PyValue → Bool
  | .model _ => false
  | _ => true

end FinanceSync.Persistence
