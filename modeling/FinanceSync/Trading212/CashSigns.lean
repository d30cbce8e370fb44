import FinanceSync.Trading212.Connector
import Mathlib.Algebra.Order.Ring.Abs
import Mathlib.Tactic.Linarith
import Mathlib.Tactic.Ring

/-!
# Signs of cash and units of prices

The sign of a cash transaction is that of its type, whatever sign the provider gave
it, and a quote in pence is scaled for a holding but not for an order.
-/

namespace FinanceSync.Trading212

variable (runtime : Runtime) (session : Session)

/-- A type whose amounts become negative; those of all other types become positive. -/
def isOutflow (data : CashData) : Bool :=
  mapTransactionType runtime data.type ∈ [.withdrawal, .fee, .tax]

/-- What the provider reports as inflows of the outflow types. -/
def reportedIn (items : List CashData) : ℚ :=
  (items.map fun data =>
    if isOutflow runtime data ∧ 0 < data.amount then data.amount else 0).sum

/-- What the provider reports as outflows of the other types. -/
def reportedOut (items : List CashData) : ℚ :=
  (items.map fun data =>
    if ¬ isOutflow runtime data ∧ data.amount < 0 then -data.amount else 0).sum

/-- An amount that has the sign of the other kind is turned round. -/
theorem parseCashTransaction_amount (data : CashData) :
    (parseCashTransaction runtime session data).amount =
      data.amount - 2 * (if isOutflow runtime data ∧ 0 < data.amount then data.amount else 0) +
        2 * (if ¬ isOutflow runtime data ∧ data.amount < 0 then -data.amount else 0) := by
  have amount : (parseCashTransaction runtime session data).amount =
      if isOutflow runtime data then -|data.amount| else |data.amount| := by
    simp [parseCashTransaction, isOutflow]
  rw [amount]
  by_cases outflow : isOutflow runtime data
  · rcases le_or_gt data.amount 0 with below | above
    · simp [outflow, abs_of_nonpos below, below.not_gt]
    · simp only [outflow, abs_of_pos above, above]
      norm_num
      ring
  · rcases lt_or_ge data.amount 0 with below | above
    · simp only [outflow, abs_of_neg below, below]
      norm_num
      ring
    · simp [outflow, abs_of_nonneg above, above.not_gt]

theorem sum_canonical (items : List CashData) :
    (items.map fun data => (parseCashTransaction runtime session data).amount).sum =
      (items.map (·.amount)).sum - 2 * reportedIn runtime items +
        2 * reportedOut runtime items := by
  induction items with
  | nil => simp [reportedIn, reportedOut]
  | cons data rest ih =>
      simp only [reportedIn, reportedOut, List.map_cons, List.sum_cons] at ih ⊢
      rw [ih, parseCashTransaction_amount]
      ring

/-- A ticker that is quoted in pence. -/
def quotedInPence (ticker : String) : Prop :=
  "L_EQ".toList <:+ (runtime.upper (String.ofList (strip ticker.toList))).toList

/-- An order and a holding of one ticker and one quote have one price unless the ticker
is quoted in pence. -/
theorem price_eq_iff (instruments : List Instrument) (observedAt : Instant) (order : OrderData)
    (item : PortfolioItem) (ticker : String) (quote : ℚ) :
    (parseOrder runtime session
        { order with ticker := ticker, filledPrice := some quote }).unitPrice =
        (parseHolding runtime session instruments observedAt
          { item with ticker := ticker, currentPrice := some quote }).price ↔
      quote = 0 ∨ ¬ quotedInPence runtime ticker := by
  simp only [parseOrder, parseHolding, Option.map_some, Option.some.injEq, priceScale,
    quotedInPence]
  split_ifs with pence
  · rw [or_iff_left (not_not.mpr pence)]
    constructor
    · intro same
      linarith
    · intro none
      rw [none, zero_mul]
  · rw [mul_one]
    exact iff_of_true rfl (.inr pence)

/-- The canonical amounts add up to those of the provider exactly if what it reports as
inflows of the outflow types is what it reports as outflows of the others. -/
theorem sum_canonical_iff (items : List CashData) :
    (items.map fun data => (parseCashTransaction runtime session data).amount).sum =
        (items.map (·.amount)).sum ↔
      reportedIn runtime items = reportedOut runtime items := by
  rw [sum_canonical]
  constructor
  · intro same
    linarith
  · intro same
    rw [same]
    ring

theorem cash_and_prices_iff (items : List CashData) (instruments : List Instrument)
    (observedAt : Instant) (order : OrderData) (item : PortfolioItem) (ticker : String)
    (quote : ℚ) :
    ((items.map fun data => (parseCashTransaction runtime session data).amount).sum =
          (items.map (·.amount)).sum ↔
        reportedIn runtime items = reportedOut runtime items) ∧
      ((parseOrder runtime session
          { order with ticker := ticker, filledPrice := some quote }).unitPrice =
          (parseHolding runtime session instruments observedAt
            { item with ticker := ticker, currentPrice := some quote }).price ↔
        quote = 0 ∨ ¬ quotedInPence runtime ticker) :=
  ⟨sum_canonical_iff runtime session items,
    price_eq_iff runtime session instruments observedAt order item ticker quote⟩

/-- A debit of an unmapped type is booked as a credit, and a quote of 250 pence is a
price of 250 for an order and of 2.50 for a holding. -/
theorem transfer_out_turns_positive :
    (parseCashTransaction ⟨id, fun _ _ => none⟩ ⟨"account", "GBP"⟩
        { type := "TRANSFER", amount := -100 }).amount = 100 ∧
      (parseOrder ⟨id, fun _ _ => none⟩ ⟨"account", "GBP"⟩
        { id := "1", ticker := "VODL_EQ", filledPrice := some 250 }).unitPrice = some 250 ∧
      (parseHolding ⟨id, fun _ _ => none⟩ ⟨"account", "GBP"⟩ [] 0
        { ticker := "VODL_EQ", currentPrice := some 250 }).price = some (5 / 2) := by
  decide +kernel

end FinanceSync.Trading212
