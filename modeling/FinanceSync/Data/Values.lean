import Mathlib.Data.Rat.Defs
import Mathlib.Algebra.Order.Ring.Rat

/-!
# Scalar values of the canonical model

Identifiers, instants, decimals and JSON documents as the Python code sees them.
Decimal arithmetic is exact rational arithmetic; where the code compares the
text of a decimal, the coefficient and the exponent, which the text spells, are
still there to be compared.
-/

namespace FinanceSync

/-- A UUID.  The order of numbers is the order of the texts of UUIDs and of the
database's UUID column. -/
abbrev Uuid := Nat

/-- An aware `datetime` as microseconds since 1970-01-01 UTC. -/
abbrev Instant := Int

namespace Instant

def microsecondsPerDay : Int := 86400 * 1000000

/-- `timedelta(days=count)` -/
def days (count : Int) : Int := count * microsecondsPerDay

/-- `occurred_at.date()` of a value read in UTC, as days since 1970-01-01. -/
def date (instant : Instant) : Int := instant.fdiv microsecondsPerDay

end Instant

/-! ## Decimals -/

/-- A finite `decimal.Decimal`: a signed coefficient and a power of ten. -/
structure Decimal where
  coefficient : Int
  exponent : Int
deriving DecidableEq, Repr

namespace Decimal

/-- The number a decimal denotes. -/
def value (decimal : Decimal) : ℚ :=
  match decimal.exponent with
  | .ofNat places => decimal.coefficient * 10 ^ places
  | .negSucc places => decimal.coefficient / 10 ^ (places + 1)

instance : OfNat Decimal n := ⟨⟨n, 0⟩⟩

instance : Neg Decimal := ⟨fun decimal => ⟨-decimal.coefficient, decimal.exponent⟩⟩

/-- `abs`, which keeps the exponent and so the scale of the text. -/
def abs (decimal : Decimal) : Decimal :=
  ⟨decimal.coefficient.natAbs, decimal.exponent⟩

/-- What `str(decimal)` spells.  Two finite decimals of one sign have the same
text exactly if they have the same digits and the same exponent. -/
def text (decimal : Decimal) : Int × Int := (decimal.coefficient, decimal.exponent)

end Decimal

/-- The integer next to a number; of two that are equally near, the even one. -/
def roundHalfEven (number : ℚ) : Int :=
  let below := number.floor
  if number - below < 1 / 2 then below
  else if 1 / 2 < number - below then below + 1
  else if below % 2 = 0 then below
  else below + 1

/-! ## JSON -/

/-- A JSON value as Python loads it.  A number is kept as the text that `str`
gives for it. -/
inductive Json
  | null
  | bool (value : Bool)
  | number (text : String)
  | string (text : String)
  | array (items : List Json)
  | object (fields : List (String × Json))

namespace Json

/-- `isinstance(value, dict)`, with the dict. -/
def asDict : Json → Option (List (String × Json))
  | object fields => some fields
  | _ => none

/-- `repr` of a string: single quotes unless only single quotes occur in it. -/
def quote (text : String) : String :=
  let mark := if text.toList.contains '\'' && !text.toList.contains '"' then '"' else '\''
  let escape (char : Char) : List Char :=
    if char = mark then ['\\', char]
    else if char = '\\' then ['\\', '\\']
    else if char = '\n' then ['\\', 'n']
    else if char = '\r' then ['\\', 'r']
    else if char = '\t' then ['\\', 't']
    else [char]
  String.ofList (mark :: text.toList.flatMap escape ++ [mark])

mutual

/-- `repr(value)` -/
def repr : Json → String
  | null => "None"
  | bool true => "True"
  | bool false => "False"
  | number text => text
  | string text => quote text
  | array items => "[" ++ ", ".intercalate (reprItems items) ++ "]"
  | object fields => "\x7b" ++ ", ".intercalate (reprFields fields) ++ "\x7d"

def reprItems : List Json → List String
  | [] => []
  | item :: rest => repr item :: reprItems rest

def reprFields : List (String × Json) → List String
  | [] => []
  | (name, value) :: rest => (quote name ++ ": " ++ repr value) :: reprFields rest

end

/-- `str(value)` -/
def str : Json → String
  | string text => text
  | value => repr value

end Json

/-- `dict.get(key)`; `None` also where the stored value is JSON `null`. -/
def dictGet (fields : List (String × Json)) (key : String) : Option Json :=
  match fields.lookup key with
  | some .null => none
  | found => found

/-! ## Text -/

/-- The characters that `str.strip` removes and `\s` matches. -/
def isSpace (char : Char) : Bool :=
  let code := char.toNat
  (9 ≤ code && code ≤ 13) || (28 ≤ code && code ≤ 32) || code = 0x85 || code = 0xA0 ||
    code = 0x1680 || (0x2000 ≤ code && code ≤ 0x200A) || code = 0x2028 || code = 0x2029 ||
    code = 0x202F || code = 0x205F || code = 0x3000

/-- `str.strip` on the characters of a text. -/
def strip (chars : List Char) : List Char :=
  ((chars.dropWhile isSpace).reverse.dropWhile isSpace).reverse

end FinanceSync
