import FinanceSync.Data.QuantityEvent

/-!
# Calendar dates

A date is the number of days since 1970-01-01.  Texts of dates are read as
`datetime.strptime` reads them.
-/

namespace FinanceSync

def isLeapYear (year : Nat) : Bool := year % 4 = 0 && (year % 100 ≠ 0 || year % 400 = 0)

def daysInMonth (year month : Nat) : Nat :=
  if month = 2 then if isLeapYear year then 29 else 28
  else if month ∈ [4, 6, 9, 11] then 30
  else 31

/-- `date.toordinal()` -/
def dateOrdinal (year month day : Nat) : Nat :=
  let before := year - 1
  let months := ((List.range (month - 1)).map fun index => daysInMonth year (index + 1)).sum
  before * 365 + before / 4 - before / 100 + before / 400 + months + day

/-- The date of a year, a month and a day, if there is one. -/
def civilDate (year month day : Nat) : Option Int :=
  if 1 ≤ year ∧ year ≤ 9999 ∧ 1 ≤ month ∧ month ≤ 12 ∧ 1 ≤ day ∧ day ≤ daysInMonth year month then
    some ((dateOrdinal year month day : Int) - dateOrdinal 1970 1 1)
  else none

/-- The number that a text of digits spells, if it has as many digits as allowed. -/
def numberOfDigits (fewest most : Nat) (chars : List Char) : Option Nat :=
  if fewest ≤ chars.length ∧ chars.length ≤ most ∧ chars.all Char.isDigit then
    some (digitsValue chars)
  else none

/-- `strptime(text, "%Y-%m-%d")` -/
def parseIsoDate (text : String) : Option Int :=
  match text.toList.splitOn '-' with
  | [year, month, day] => do
      civilDate (← numberOfDigits 4 4 year) (← numberOfDigits 1 2 month)
        (← numberOfDigits 1 2 day)
  | _ => none

example : parseIsoDate "1972-03-01" = some 790 ∧ parseIsoDate "2023-02-29" = none := by
  decide +kernel

end FinanceSync
