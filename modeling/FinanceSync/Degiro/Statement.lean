import FinanceSync.Data.Enums
import FinanceSync.Degiro.Cells
import Mathlib.Data.List.Infix

/-!
# The account statement

A statement is read row by row.  A debit of foreign currency carries the rate at which
the broker converted it, and the cash rows after it take the rate of the first debit
that has enough left.  Amounts are taken exactly, and an amount or a rate that is not a
finite number fails its row.
-/

namespace FinanceSync.Degiro

variable (runtime : Runtime)

/-! ## Kinds of rows -/

def mentionsAny (terms : List String) (description : String) : Bool :=
  terms.any fun term => term.toList <:+: description.toList

/-- `_is_technical_statement_row` -/
def isTechnicalStatementRow (description : String) : Bool :=
  mentionsAny
    ["cash sweep", "geldmarktfonds", "flatex cash", "fx debit", "fx credit",
      "valuta debitering", "valuta creditering", "koop ", "aankoop ", "buy ", "verkoop ",
      "sell "] description

/-- `_is_trade_fee` -/
def isTradeFee (description : String) : Bool :=
  mentionsAny ["transactiekosten"] description ||
    mentionsAny ["transaction"] description && mentionsAny ["fee"] description

def statementTypes : List (List String × TransactionType) :=
  [(["dividendbelasting", "dividend tax", "withholding tax"], .tax),
    (["dividend"], .dividend),
    (["storting", "deposit"], .deposit),
    (["opname", "withdrawal"], .withdrawal),
    (["rente", "interest"], .interest),
    (["valutatransactie", "currency exchange", "fx settlement", "fx conversie"], .transfer),
    (["corporate action", "stock split", "aandelensplitsing", "scrip dividend"],
      .corporateAction),
    (["kosten", "fee", "aansluit", "platform"], .fee)]

/-- `_statement_type` -/
def statementType (description : String) (amount : ℚ) : TransactionType :=
  match statementTypes.find? fun (terms, _) => mentionsAny terms description with
  | some (_, type) => type
  | none => if 0 < amount then .deposit else .withdrawal

/-! ## What a row says -/

inductive StatementError
  | row (error : RowError)
  | notFinite
deriving DecidableEq

/-- A row that becomes a transaction; the rate is its own. -/
structure CashRow where
  amount : ℚ
  currency : String
  occurredAt : Instant
  transactionType : TransactionType
  description : String
  isin : String
  product : String
  orderId : String
  fx : Option ℚ
deriving DecidableEq

inductive StatementRow
  /-- A blank row, or one that is counted as skipped. -/
  | ignored (skipped : Bool)
  /-- `Valuta Debitering` -/
  | debit (currency : String) (mutation fx : Option ℚ)
  | cash (row : CashRow)
deriving DecidableEq

/-- A finite number or none. -/
def finite : Option ParsedDecimal → Except StatementError (Option ℚ)
  | none => .ok none
  | some (.finite decimal) => .ok (some decimal.value)
  | some _ => .error .notFinite

def readNumber (cell : Cell) : Except StatementError (Option ℚ) := do
  finite (← (decimal cell).mapError .row)

def mutationNames : List String := ["Mutatie", "Change", "Amount"]
def rateNames : List String := ["FX mutatie", "Wisselkoers", "FX", "Exchange rate"]

/-- The currency in front of the mutation, and the mutation, which is in the next
column then. -/
def readMutation (row : Row) : String × Cell :=
  let mutation := row.get runtime mutationNames
  let mutationCurrency := currency runtime mutation ""
  (mutationCurrency, if mutationCurrency ≠ "" then row.after runtime mutationNames else mutation)

/-- The rows between a description and a transaction. -/
def readTechnical (row : Row) (lowered : String) : Except StatementError StatementRow := do
  if mentionsAny ["valuta debitering"] lowered then
    let fx ← readNumber (row.get runtime rateNames)
    let (mutationCurrency, mutation) := readMutation runtime row
    let mutation ← readNumber mutation
    return .debit mutationCurrency mutation fx
  else return .ignored true

/-- The currency of a cash row, next to the mutation or in a column of its own. -/
def cashCurrency (row : Row) (mutationCurrency : String) : String :=
  let afterMutation := currency runtime (row.after runtime mutationNames) ""
  let named := row.get runtime ["Valuta", "Currency"]
  currency runtime
    ((row.get runtime ["Valuta", "Currency"] 1).orElse
      ((Cell.text afterMutation).orElse ((Cell.text mutationCurrency).orElse named))) "EUR"

/-- What a row of the statement says.  `tradeOrderIds` are the orders whose fees are
part of the trades. -/
def readRow (tradeOrderIds : List String) (row : Row) : Except StatementError StatementRow := do
  let description := clean (row.get runtime ["Omschrijving", "Description"])
  if description = "" ∧ clean (row.get runtime ["Datum", "Date"]) = "" then
    return .ignored false
  let lowered := runtime.casefold description
  if isTechnicalStatementRow lowered then readTechnical runtime row lowered
  else
    let occurredAt ← (parseDatetime runtime (row.get runtime ["Datum", "Date"])
      (row.get runtime ["Tijd", "Time"])).mapError .row
    let balance := row.get runtime ["Saldo", "Balance"]
    let _ ← (decimal (if currency runtime balance "" ≠ "" then
      row.after runtime ["Saldo", "Balance"] else balance)).mapError StatementError.row
    let orderId := clean (row.get runtime ["Order ID", "Order Id", "OrderID"])
    if orderId ∈ tradeOrderIds ∧ isTradeFee lowered then return .ignored true
    let (mutationCurrency, mutation) := readMutation runtime row
    if mutation.isBlank then return .ignored true
    let some amount ← finite (some (← (requiredDecimal mutation).mapError .row))
      | throw .notFinite
    let fx ← readNumber (row.get runtime rateNames)
    return .cash
      { amount
        currency := cashCurrency runtime row mutationCurrency
        occurredAt
        transactionType := statementType lowered amount
        description
        isin := runtime.upper (clean (row.get runtime ["ISIN"]))
        product := clean (row.get runtime ["Product"])
        orderId
        fx }

/-! ## Debits and the rows they pay for -/

/-- A debit with what is left of it.  The loop keeps the amount and the rate; where the
debit is from does not matter to it. -/
structure PendingFx (Source : Type) where
  remaining : ℚ
  rate : ℚ
  source : Source
deriving DecidableEq

/-- The row takes part of a debit: it is cash in a foreign currency. -/
def projects (row : CashRow) : Bool :=
  row.currency ≠ "EUR" ∧
    row.transactionType ∈ [.dividend, .interest, .deposit, .withdrawal, .fee, .tax]

section Pending

variable {Source : Type}

/-- Take an amount from the first debit that has it. -/
def takeFx (amount : ℚ) : List (PendingFx Source) →
    Option (PendingFx Source × List (PendingFx Source))
  | [] => none
  | entry :: rest =>
      if entry.remaining < |amount| then
        (takeFx amount rest).map fun (taken, left) => (taken, entry :: left)
      else
        let leftover := entry.remaining - |amount|
        some (entry,
          if leftover ≠ 0 then { entry with remaining := leftover } :: rest else rest)

/-- What a row does to the debits, and the debit that it takes its rate from. -/
def fxStep (source : Source) (pending : List (PendingFx Source)) :
    StatementRow → List (PendingFx Source) × Option (PendingFx Source)
  | .debit currency (some mutation) (some fx) =>
      if currency = "USD" ∧ fx ≠ 0 then (pending ++ [⟨|mutation|, fx, source⟩], none)
      else (pending, none)
  | .cash row =>
      if projects row then
        match takeFx row.amount pending with
        | some (taken, left) => (left, some taken)
        | none => (pending, none)
      else (pending, none)
  | _ => (pending, none)

end Pending

/-! ## The statement -/

/-- A parsed transaction of the statement. -/
structure StatementTransaction where
  row : CashRow
  amountInBase : Option ℚ
  baseCurrencyCode : Option String
  fxRate : Option ℚ
  projected : Bool
deriving DecidableEq

/-- The transaction of a cash row with the projected rate, or else its own. -/
def statementTransaction (row : CashRow) (projected : Option ℚ) : StatementTransaction :=
  let fx := projected.or row.fx
  { row
    amountInBase := (fx.filter (· ≠ 0)).map (row.amount / ·)
    baseCurrencyCode := (fx.filter (· ≠ 0)).map fun _ => "EUR"
    fxRate := fx
    projected := projected.isSome }

structure StatementResult where
  parsed : List StatementTransaction := []
  rowsSkipped : Nat := 0
  errors : List (Nat × StatementError) := []

/-- One row of the loop, with the debits that are pending. -/
def statementStep (tradeOrderIds : List String) :
    List (PendingFx Unit) × StatementResult → Row × Nat → List (PendingFx Unit) × StatementResult
  | (pending, result), (row, number) =>
      match readRow runtime tradeOrderIds row with
      | .error error => (pending, { result with errors := result.errors ++ [(number, error)] })
      | .ok reading =>
          let (left, taken) := fxStep () pending reading
          match reading with
          | .ignored skipped =>
              (left, if skipped then { result with rowsSkipped := result.rowsSkipped + 1 }
                else result)
          | .debit _ _ _ => (left, { result with rowsSkipped := result.rowsSkipped + 1 })
          | .cash row =>
              (left, { result with
                parsed := result.parsed ++ [statementTransaction row (taken.map (·.rate))] })

/-- `_parse_statement` -/
def parseStatement (tradeOrderIds : List String) (rows : List Row) : StatementResult :=
  ((rows.zipIdx 2).foldl (statementStep runtime tradeOrderIds) ([], {})).2

end FinanceSync.Degiro
