import FinanceSync.Data.Values
import Mathlib.Tactic.Linarith

/-!
# Quantity events

A split or another quantity event states how many new units replace one old
unit.  The ratio is read from an allowlist of keys of the provider metadata,
either as one value ("2", "1,5", "2:1", "3 for 2") or as a numerator and a
denominator.
-/

namespace FinanceSync

/-! ## `Decimal(text)` -/

/-- What `Decimal(text)` can be. -/
inductive ParsedDecimal
  | finite (decimal : Decimal)
  | infinity (negative : Bool)
  | nan

/-- The number a run of digits denotes. -/
def digitsValue (digits : List Char) : Nat :=
  digits.foldl (fun value digit => 10 * value + (digit.toNat - '0'.toNat)) 0

/-- A text of digits with an optional fraction, as a decimal. -/
def decimalOfDigits (whole fraction : List Char) (exponent : Int) : Decimal :=
  ⟨digitsValue (whole ++ fraction), exponent - fraction.length⟩

/-- The signed digits of an exponent. -/
def parseExponent (chars : List Char) : Option Int :=
  let magnitude (digits : List Char) : Option Nat :=
    if digits ≠ [] ∧ digits.all Char.isDigit then some (digitsValue digits) else none
  match chars with
  | '-' :: digits => (magnitude digits).map fun value => -(value : Int)
  | '+' :: digits => (magnitude digits).map fun value => (value : Int)
  | digits => (magnitude digits).map fun value => (value : Int)

/-- An unsigned decimal text in lower case. -/
def parseUnsigned (negative : Bool) (body : List Char) : Option ParsedDecimal :=
  let signed (decimal : Decimal) : Decimal := if negative then -decimal else decimal
  let whole := body.takeWhile Char.isDigit
  let afterWhole := body.dropWhile Char.isDigit
  let (fraction, tail) :=
    match afterWhole with
    | '.' :: rest => (rest.takeWhile Char.isDigit, rest.dropWhile Char.isDigit)
    | _ => ([], afterWhole)
  if whole = [] ∧ fraction = [] then
    if body = "inf".toList ∨ body = "infinity".toList then some (.infinity negative)
    else
      let payload := if body.head? = some 's' then body.tail else body
      if payload.take 3 = "nan".toList ∧ (payload.drop 3).all Char.isDigit then some .nan
      else none
  else
    match tail with
    | [] => some (.finite (signed (decimalOfDigits whole fraction 0)))
    | 'e' :: exponent =>
        (parseExponent exponent).map fun exponent =>
          .finite (signed (decimalOfDigits whole fraction exponent))
    | _ => none

/-- `Decimal(text)`, where `none` is `InvalidOperation`.  Underscores and
surrounding blanks are ignored. -/
def parseDecimal (chars : List Char) : Option ParsedDecimal :=
  match ((strip chars).filter (· ≠ '_')).map Char.toLower with
  | '-' :: body => parseUnsigned true body
  | '+' :: body => parseUnsigned false body
  | body => parseUnsigned false body

/-! ## `_positive_ratio` -/

/-- `\d+(?:\.\d+)?` at the start of a text, with the text after it. -/
def plainNumber (chars : List Char) : Option (Decimal × List Char) :=
  let whole := chars.takeWhile Char.isDigit
  let tail := chars.dropWhile Char.isDigit
  if whole = [] then none
  else
    match tail with
    | '.' :: rest =>
        let fraction := rest.takeWhile Char.isDigit
        if fraction = [] then some (decimalOfDigits whole [] 0, tail)
        else some (decimalOfDigits whole fraction 0, rest.dropWhile Char.isDigit)
    | _ => some (decimalOfDigits whole [] 0, tail)

/-- The text after one of the separators `:`, `/`, `for` and `op`. -/
def afterSeparator : List Char → Option (List Char)
  | ':' :: rest => some rest
  | '/' :: rest => some rest
  | 'f' :: 'o' :: 'r' :: rest => some rest
  | 'o' :: 'p' :: rest => some rest
  | _ => none

/-- The full match of the ratio notation: the new and the old units. -/
def ratioMatch (normalized : List Char) : Option (Decimal × Decimal) := do
  let (new, rest) ← plainNumber normalized
  let rest ← afterSeparator (rest.dropWhile isSpace)
  let (old, rest) ← plainNumber (rest.dropWhile isSpace)
  if rest = [] then some (new, old) else none

/-- Parse numeric or explicit provider ratio notation. -/
def positiveRatio (value : Json) : Option ℚ :=
  let normalized := ((strip value.str.toList).map Char.toLower).map fun char =>
    if char = ',' then '.' else char
  let ratio : Option ℚ :=
    match ratioMatch normalized with
    | some (new, old) => if old.value = 0 then none else some (new.value / old.value)
    | none =>
        match parseDecimal normalized with
        | some (.finite decimal) => some decimal.value
        | _ => none
  ratio.filter (0 < ·)

/-! ## `quantity_event_ratio` -/

/-- The first of the keys whose value is not `None`. -/
def firstPresent (candidate : List (String × Json)) (keys : List String) : Option Json :=
  keys.findSome? (dictGet candidate)

def ratioKeys : List String :=
  ["split_ratio", "splitRatio", "quantity_multiplier", "quantityMultiplier", "ratio"]

def numeratorKeys : List String :=
  ["split_numerator", "new_quantity", "newQuantity", "new_units", "newUnits"]

def denominatorKeys : List String :=
  ["split_denominator", "old_quantity", "oldQuantity", "old_units", "oldUnits"]

def containerKeys : List String := ["event", "corporate_action", "corporateAction", "action"]

/-- The ratio of a numerator and a denominator: `none` if the denominator is not
positive, so that the next candidate is read, and `some none` where the code
gives up.  A numerator `Infinity` has no ratio in exact arithmetic. -/
def quotientRatio (numerator denominator : Json) : Option (Option ℚ) :=
  match parseDecimal numerator.str.toList, parseDecimal denominator.str.toList with
  | some new, some old =>
      match old with
      | .nan => some none
      | .infinity true => none
      | .infinity false => some none
      | .finite old =>
          if old.value ≤ 0 then none
          else
            match new with
            | .finite new => some (some (new.value / old.value) |>.filter (0 < ·))
            | _ => some none
  | _, _ => some none

/-- What one candidate dict decides: `none` if the next one is read. -/
def candidateRatio (candidate : List (String × Json)) : Option (Option ℚ) :=
  match firstPresent candidate ratioKeys with
  | some value => some (positiveRatio value)
  | none =>
      match firstPresent candidate numeratorKeys, firstPresent candidate denominatorKeys with
      | some numerator, some denominator => quotientRatio numerator denominator
      | _, _ => none

/-- The dicts that are searched: the metadata, its `fields`, and the known
containers of either. -/
def ratioCandidates (metadata : List (String × Json)) : List (List (String × Json)) :=
  let outer := metadata :: ((dictGet metadata "fields").bind Json.asDict).toList
  outer ++ outer.flatMap fun candidate =>
    containerKeys.filterMap fun key => (dictGet candidate key).bind Json.asDict

/-- Return an explicit new-units/old-units ratio from safe metadata. -/
def quantityEventRatio (metadata : Option Json) : Option ℚ :=
  match metadata.bind Json.asDict with
  | none => none
  | some fields => ((ratioCandidates fields).findSome? candidateRatio).join

example : positiveRatio (.string "3 for 2") = some (3 / 2) := by decide +kernel

end FinanceSync
