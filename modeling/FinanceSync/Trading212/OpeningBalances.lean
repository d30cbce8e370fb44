import FinanceSync.Lib.Fallible
import FinanceSync.Lib.Run
import FinanceSync.Trading212.Connector

/-!
# Opening balances

A call whose window has no order adds an opening purchase for each holding of the
portfolio.  The purchases and sales that are collected over a run of calls add up to
the portfolio as long as no call adds one.
-/

namespace FinanceSync.Trading212

variable (runtime : Runtime) (session : Session)

/-! ## Runs of calls -/

/-- A call with the orders that the provider has at that time. -/
structure Call where
  since : Instant
  now : Instant
  history : List OrderData
  answers : Answers

/-- The provider as it was at the last call, and the transactions collected by
external id. -/
structure World where
  history : List OrderData
  portfolio : List PortfolioItem
  ledger : List RawTransaction

def emptyWorld : World := ⟨[], [], []⟩

/-- Transactions that are fetched replace those with the same external id. -/
def accumulate (ledger fetched : List RawTransaction) : List RawTransaction :=
  fetched ++ ledger.filter fun txn =>
    txn.externalTransactionId ∉ fetched.map RawTransaction.externalTransactionId

def Call.fetched (call : Call) : List RawTransaction :=
  (fetchTransactions runtime session call.answers call.now call.since none none none).toOption.getD
    []

def fetchInto (world : World) (call : Call) : World :=
  { history := call.history
    portfolio := call.answers.portfolio
    ledger := accumulate world.ledger (call.fetched runtime session) }

/-! ## What purchases and sales add up to -/

def tickerOf (txn : RawTransaction) : Option String :=
  txn.securityReference.bind SecurityReference.externalId

def signedUnits (txn : RawTransaction) : ℚ :=
  match txn.transactionType with
  | .purchase => txn.quantity.getD 0
  | .sale => -txn.quantity.getD 0
  | _ => 0

/-- The purchases minus the sales of a ticker, of the transactions with a status
that counts. -/
def netQuantity (counts : TransactionStatus → Bool) (ticker : Option String)
    (txns : List RawTransaction) : ℚ :=
  (txns.map fun txn =>
    if tickerOf txn = ticker ∧ counts txn.status then signedUnits txn else 0).sum

def isBooked (status : TransactionStatus) : Bool := status = .booked

/-- The units of an order, negative for a sale. -/
def OrderData.signedUnits (order : OrderData) : ℚ :=
  if runtime.upper order.side = "BUY" then order.units.getD 0
  else if runtime.upper order.side = "SELL" then -order.units.getD 0
  else 0

/-- The filled buys minus the filled sells of a ticker. -/
def filledQuantity (ticker : Option String) (history : List OrderData) : ℚ :=
  (history.map fun order =>
    if nonEmpty order.ticker = ticker ∧ runtime.upper order.status = "FILLED" then
      order.signedUnits runtime
    else 0).sum

/-- The other buys minus the other sells of a ticker. -/
def unfilledQuantity (ticker : Option String) (history : List OrderData) : ℚ :=
  (history.map fun order =>
    if nonEmpty order.ticker = ticker ∧ runtime.upper order.status ≠ "FILLED" then
      order.signedUnits runtime
    else 0).sum

def PortfolioItem.tickerText (item : PortfolioItem) : Option String :=
  nonEmpty (String.ofList (strip item.ticker.toList))

def heldQuantity (ticker : Option String) (portfolio : List PortfolioItem) : ℚ :=
  (portfolio.map fun item =>
    if item.tickerText = ticker then item.quantity.getD 0 else 0).sum

/-! ## The provider -/

/-- What the provider has and answers at a call. -/
structure Call.Regular (world : World) (call : Call) : Prop where
  /-- The buys and sells that are filled make up the portfolio. -/
  consistent : ∀ ticker, filledQuantity runtime ticker call.history =
    heldQuantity ticker call.answers.portfolio
  unique : (call.history.map OrderData.id).Nodup
  /-- Orders that are new or have changed are in the window. -/
  changed : ∀ order ∈ call.history,
    order ∈ world.history ∨ call.since ≤ order.occurredAt runtime
  kept : ∀ order ∈ world.history, ∃ later ∈ call.history, later.id = order.id
  /-- The pages hold orders of the history and all those in the window. -/
  paged : ∀ page ∈ call.answers.orderPages, ∀ order ∈ page, order ∈ call.history
  complete : ∀ order ∈ call.history, call.since ≤ order.occurredAt runtime →
    ∃ page ∈ call.answers.orderPages, order ∈ page
  /-- After a page that reaches back before the window none is in the window. -/
  newestFirst : call.answers.orderPages.Pairwise fun page later =>
    (∃ order ∈ page, order.occurredAt runtime < call.since) →
      ∀ order ∈ later, order.occurredAt runtime < call.since
  instruments : call.answers.instruments ≠ []

/-- The booked purchases minus the booked sales of each ticker are the portfolio. -/
def AddsUp (world : World) : Prop :=
  ∀ ticker, netQuantity isBooked ticker world.ledger = heldQuantity ticker world.portfolio

/-- The window of the call has an order, or the portfolio has no holding with a
quantity and an average price. -/
def Call.WithoutOpening (call : Call) : Prop :=
  (∃ order ∈ call.history, call.since ≤ order.occurredAt runtime) ∨
    ∀ item ∈ call.answers.portfolio, item.averagePrice = none ∨ item.quantity.getD 0 ≤ 0

/-! ## What a call fetches -/

section Fetch

variable {runtime} {session}

/-- Without a limit the loop over the pages collects what is in the window. -/
theorem mem_fetchHistory {Item : Type} {parse : Item → RawTransaction} {since : Instant}
    {pages : List (List Item)} {txn : RawTransaction}
    (newestFirst : pages.Pairwise fun page later =>
      (∃ item ∈ page, (parse item).occurredAt < since) →
        ∀ item ∈ later, (parse item).occurredAt < since) :
    ∀ items, txn ∈ fetchHistory parse since none items pages ↔
      txn ∈ items ∨
        ∃ page ∈ pages, ∃ item ∈ page, parse item = txn ∧ since ≤ txn.occurredAt := by
  induction pages with
  | nil => simp [fetchHistory]
  | cons page rest ih =>
      intro items
      obtain ⟨older, newestFirst⟩ := List.pairwise_cons.mp newestFirst
      have inPage : txn ∈ (page.map parse).filter (fun txn => since ≤ txn.occurredAt) ↔
          ∃ item ∈ page, parse item = txn ∧ since ≤ txn.occurredAt := by
        simp only [List.mem_filter, List.mem_map, decide_eq_true_eq]
        constructor
        · rintro ⟨⟨item, itemMem, rfl⟩, inWindow⟩
          exact ⟨item, itemMem, rfl, inWindow⟩
        · rintro ⟨item, itemMem, rfl, inWindow⟩
          exact ⟨⟨item, itemMem, rfl⟩, inWindow⟩
      rw [fetchHistory]
      simp only [Option.filter_none, List.exists_mem_cons_iff]
      by_cases reachesBack : (page.map parse).any fun txn => txn.occurredAt < since
      · rw [if_pos reachesBack, List.mem_append, inPage]
        have before : ∃ item ∈ page, (parse item).occurredAt < since := by
          simpa using reachesBack
        have noneLater : ¬ ∃ page ∈ rest, ∃ item ∈ page, parse item = txn ∧
            since ≤ txn.occurredAt := by
          rintro ⟨later, laterMem, item, itemMem, rfl, inWindow⟩
          exact absurd inWindow (not_le.mpr (older later laterMem before item itemMem))
        simp [noneLater]
      · rw [if_neg reachesBack, ih newestFirst, List.mem_append, inPage, or_assoc]

end Fetch

/-! ## Kinds of transactions -/

/-- What a transaction contributes to the quantities. -/
structure Trade where
  id : String
  ticker : Option String
  type : TransactionType
  status : TransactionStatus
  quantity : Option ℚ
deriving DecidableEq

def tradeOf (txn : RawTransaction) : Trade :=
  { id := txn.externalTransactionId
    ticker := tickerOf txn
    type := txn.transactionType
    status := txn.status
    quantity := txn.quantity }

def isOrder (txn : RawTransaction) : Bool :=
  "order_".toList.isPrefixOf txn.externalTransactionId.toList

def isCash (txn : RawTransaction) : Bool :=
  "txn_".toList.isPrefixOf txn.externalTransactionId.toList

/-- A transaction that is no order has no quantity. -/
def NoOpening (ledger : List RawTransaction) : Prop :=
  ∀ txn ∈ ledger, isOrder txn = false → txn.quantity = none

/-- A booked purchase of some units. -/
def IsOpening (txn : RawTransaction) : Prop :=
  txn.transactionType = .purchase ∧ txn.status = .booked ∧
    ∃ units : ℚ, 0 < units ∧ txn.quantity = some units

variable {runtime} {session}

@[simp] theorem tradeOf_enrich (instruments : List Instrument) (txn : RawTransaction) :
    tradeOf (enrichTransactionSecurity runtime instruments txn) = tradeOf txn := by
  rw [enrichTransactionSecurity]
  split
  · rfl
  · next reference isReference =>
      split
      · rfl
      · simp [tradeOf, tickerOf, isReference]

variable (runtime) in
theorem externalTransactionId_enrich (instruments : List Instrument) (txn : RawTransaction) :
    (enrichTransactionSecurity runtime instruments txn).externalTransactionId =
      txn.externalTransactionId :=
  congrArg Trade.id (tradeOf_enrich instruments txn)

theorem isOrder_congr {txn other : RawTransaction}
    (sameId : txn.externalTransactionId = other.externalTransactionId) :
    isOrder txn = isOrder other := by
  rw [isOrder, isOrder, sameId]

theorem isCash_congr {txn other : RawTransaction}
    (sameId : txn.externalTransactionId = other.externalTransactionId) :
    isCash txn = isCash other := by
  rw [isCash, isCash, sameId]

theorem IsOpening.congr {txn other : RawTransaction} (opening : IsOpening txn)
    (same : tradeOf other = tradeOf txn) : IsOpening other := by
  obtain ⟨isPurchase, isBooked, units, positive, isQuantity⟩ := opening
  exact ⟨(congrArg Trade.type same).trans isPurchase, (congrArg Trade.status same).trans isBooked,
    units, positive, (congrArg Trade.quantity same).trans isQuantity⟩

theorem isOrder_parseOrder (order : OrderData) :
    isOrder (parseOrder runtime session order) = true := by
  simp [isOrder, parseOrder, OrderData.externalId, String.toList_append]

theorem isCash_parseCashTransaction (data : CashData) :
    isOrder (parseCashTransaction runtime session data) = false ∧
      isCash (parseCashTransaction runtime session data) = true := by
  simp [isOrder, isCash, parseCashTransaction, String.toList_append, List.isPrefixOf]

theorem externalId_injective {order other : OrderData}
    (same : order.externalId = other.externalId) : order.id = other.id := by
  rw [OrderData.externalId, OrderData.externalId] at same
  simpa using same

/-- An opening is the purchase of what is held. -/
theorem openingTransaction_eq_some {holding : RawHolding} {txn : RawTransaction}
    (opened : openingTransaction runtime holding = some txn) :
    isOrder txn = false ∧ isCash txn = false ∧ IsOpening txn := by
  rw [openingTransaction] at opened
  split at opened
  · cases opened
  · split at opened
    · cases opened
    · next positive =>
        cases opened
        refine ⟨?_, ?_, rfl, rfl, holding.quantity, not_le.mp positive, rfl⟩
        · simp [isOrder, String.toList_append, List.isPrefixOf]
        · simp [isCash, String.toList_append, List.isPrefixOf]

theorem openingTransaction_isSome_iff (instruments : List Instrument) (now : Instant)
    (item : PortfolioItem) :
    (openingTransaction runtime (parseHolding runtime session instruments now item)).isSome ↔
      ¬ (item.averagePrice = none ∨ item.quantity.getD 0 ≤ 0) := by
  cases price : item.averagePrice with
  | none => simp [openingTransaction, parseHolding, price]
  | some averagePrice =>
      simp only [openingTransaction, parseHolding, price, Option.map_some, reduceCtorEq, false_or]
      split
      · next notHeld => simp [notHeld]
      · next held => simp [held]

/-! ## What a call fetches -/

def Call.orderTxns (runtime : Runtime) (session : Session) (call : Call) : List RawTransaction :=
  fetchHistory (parseOrder runtime session) call.since none [] call.answers.orderPages

def Call.cashTxns (runtime : Runtime) (session : Session) (call : Call) : List RawTransaction :=
  fetchHistory (parseCashTransaction runtime session) call.since none [] call.answers.cashPages

def Call.openingTxns (runtime : Runtime) (session : Session) (call : Call) :
    List RawTransaction :=
  if call.orderTxns runtime session = [] then
    (call.answers.portfolio.map
      (parseHolding runtime session call.answers.instruments call.now)).filterMap
      (openingTransaction runtime)
  else []

/-- The transactions of a call before those with a repeated external id are left
out. -/
def Call.allTxns (runtime : Runtime) (session : Session) (call : Call) : List RawTransaction :=
  (call.orderTxns runtime session ++ call.openingTxns runtime session ++
    call.cashTxns runtime session).map
    (enrichTransactionSecurity runtime call.answers.instruments)

theorem Call.fetched_eq {call : Call} (instruments : call.answers.instruments ≠ []) :
    call.fetched runtime session =
      sortChronologically
        (Lib.firsts RawTransaction.externalTransactionId (call.allTxns runtime session)) := by
  rw [Call.fetched, fetchTransactions, if_neg (by simp), if_neg (by simp), fetchHoldings,
    fetchInstruments, if_neg instruments]
  by_cases empty : call.orderTxns runtime session = []
  · have isEmpty := empty
    rw [Call.orderTxns] at isEmpty
    simp only [Call.allTxns, Call.openingTxns, empty, isEmpty, if_true]
    rfl
  · have notEmpty := empty
    rw [Call.orderTxns] at notEmpty
    simp only [Call.allTxns, Call.openingTxns, empty, notEmpty, if_false, false_and]
    rfl

theorem mem_sortChronologically {txns : List RawTransaction} {txn : RawTransaction} :
    txn ∈ sortChronologically txns ↔ txn ∈ txns :=
  (List.perm_insertionSort ..).mem_iff

theorem mem_of_fetchHistory {Item : Type} {parse : Item → RawTransaction} {since : Instant}
    {limit : Option Nat} {pages : List (List Item)} {txn : RawTransaction} :
    ∀ items, txn ∈ fetchHistory parse since limit items pages →
      txn ∈ items ∨ ∃ item, parse item = txn := by
  induction pages with
  | nil => exact fun items isMem => .inl isMem
  | cons page rest ih =>
      intro items isMem
      have ofPage : txn ∈ items ++ (page.map parse).filter (fun txn => since ≤ txn.occurredAt) →
          txn ∈ items ∨ ∃ item, parse item = txn := by
        intro inPage
        cases List.mem_append.mp inPage with
        | inl earlier => exact .inl earlier
        | inr here =>
            obtain ⟨item, -, isItem⟩ := List.mem_map.mp (List.mem_of_mem_filter here)
            exact .inr ⟨item, isItem⟩
      rw [fetchHistory] at isMem
      split at isMem
      · exact ofPage (List.mem_of_mem_take isMem)
      · split at isMem
        · exact ofPage isMem
        · cases ih _ isMem with
          | inl inPage => exact ofPage inPage
          | inr isItem => exact .inr isItem

/-- A fetched transaction that is no order is an opening purchase or has no
quantity. -/
theorem other_of_mem_allTxns {call : Call} {txn : RawTransaction}
    (isMem : txn ∈ call.allTxns runtime session) (notOrder : isOrder txn = false) :
    (isCash txn = false ∧ IsOpening txn ∧ call.openingTxns runtime session ≠ []) ∨
      (isCash txn = true ∧ txn.quantity = none) := by
  obtain ⟨source, sourceMem, rfl⟩ := List.mem_map.mp isMem
  have sameId := externalTransactionId_enrich runtime call.answers.instruments source
  rw [isOrder_congr sameId] at notOrder
  rw [isCash_congr sameId]
  rw [List.mem_append, List.mem_append] at sourceMem
  rcases sourceMem with (order | opening) | cash
  · rw [Call.orderTxns] at order
    cases mem_of_fetchHistory [] order with
    | inl none => cases none
    | inr isOrder =>
        obtain ⟨order, rfl⟩ := isOrder
        rw [isOrder_parseOrder] at notOrder
        cases notOrder
  · have nonempty := List.ne_nil_of_mem opening
    rw [Call.openingTxns] at opening
    split at opening
    · obtain ⟨holding, -, opened⟩ := List.mem_filterMap.mp opening
      obtain ⟨-, notCash, isOpening⟩ := openingTransaction_eq_some opened
      exact .inl ⟨notCash, isOpening.congr (tradeOf_enrich _ _), nonempty⟩
    · cases opening
  · rw [Call.cashTxns] at cash
    cases mem_of_fetchHistory [] cash with
    | inl none => cases none
    | inr isCash =>
        obtain ⟨data, rfl⟩ := isCash
        exact .inr ⟨(isCash_parseCashTransaction data).2,
          congrArg Trade.quantity (tradeOf_enrich call.answers.instruments _)⟩

theorem order_of_mem_allTxns {call : Call} {txn : RawTransaction}
    (isMem : txn ∈ call.allTxns runtime session) (order : isOrder txn = true) :
    ∃ source ∈ call.orderTxns runtime session, tradeOf source = tradeOf txn := by
  obtain ⟨source, sourceMem, rfl⟩ := List.mem_map.mp isMem
  have sameId := externalTransactionId_enrich runtime call.answers.instruments source
  rw [isOrder_congr sameId] at order
  rw [List.mem_append, List.mem_append] at sourceMem
  rcases sourceMem with (isOrder | opening) | cash
  · exact ⟨source, isOrder, (tradeOf_enrich _ _).symm⟩
  · rw [Call.openingTxns] at opening
    split at opening
    · obtain ⟨holding, -, opened⟩ := List.mem_filterMap.mp opening
      rw [(openingTransaction_eq_some opened).1] at order
      cases order
    · cases opening
  · rw [Call.cashTxns] at cash
    cases mem_of_fetchHistory [] cash with
    | inl none => cases none
    | inr isCash =>
        obtain ⟨data, rfl⟩ := isCash
        rw [(isCash_parseCashTransaction data).1] at order
        cases order

section Regular

variable {world : World} {call : Call} (regular : call.Regular runtime world)
include regular

theorem mem_orderTxns {txn : RawTransaction} :
    txn ∈ call.orderTxns runtime session ↔
      ∃ order ∈ call.history, call.since ≤ order.occurredAt runtime ∧
        parseOrder runtime session order = txn := by
  rw [Call.orderTxns, mem_fetchHistory regular.newestFirst]
  constructor
  · rintro (none | ⟨page, pageMem, order, orderMem, rfl, inWindow⟩)
    · cases none
    · exact ⟨order, regular.paged page pageMem order orderMem, inWindow, rfl⟩
  · rintro ⟨order, orderMem, inWindow, rfl⟩
    obtain ⟨page, pageMem, inPage⟩ := regular.complete order orderMem inWindow
    exact .inr ⟨page, pageMem, order, inPage, rfl, inWindow⟩

theorem mem_fetched {txn : RawTransaction} :
    txn ∈ call.fetched runtime session ↔
      Lib.firstWith RawTransaction.externalTransactionId txn.externalTransactionId
        (call.allTxns runtime session) = some txn := by
  rw [Call.fetched_eq regular.instruments, mem_sortChronologically, Lib.mem_firsts]

theorem mem_allTxns_of_fetched {txn : RawTransaction}
    (isMem : txn ∈ call.fetched runtime session) : txn ∈ call.allTxns runtime session :=
  Lib.mem_of_firstWith _ ((mem_fetched regular).mp isMem)

/-- Each transaction is fetched or another one with its external id is. -/
theorem exists_fetched {txn : RawTransaction} (isMem : txn ∈ call.allTxns runtime session) :
    ∃ first ∈ call.fetched runtime session,
      first.externalTransactionId = txn.externalTransactionId := by
  obtain ⟨first, found⟩ := Lib.exists_firstWith RawTransaction.externalTransactionId isMem
  have sameId := Lib.key_of_firstWith _ found
  exact ⟨first, (mem_fetched regular).mpr (by rw [sameId, found]), sameId⟩

theorem nodup_ids_fetched :
    ((call.fetched runtime session).map RawTransaction.externalTransactionId).Nodup := by
  rw [Call.fetched_eq regular.instruments]
  have order := List.perm_insertionSort
    (fun first second : RawTransaction => second.occurredAt ≤ first.occurredAt)
    (Lib.firsts RawTransaction.externalTransactionId (call.allTxns runtime session))
  exact (order.map _).nodup_iff.mpr (Lib.nodup_keys_firsts _ _)

variable (session) in
/-- The orders that are fetched are those of the window. -/
theorem mem_orders_fetched {trade : Trade} :
    (∃ txn ∈ call.fetched runtime session, isOrder txn = true ∧ tradeOf txn = trade) ↔
      ∃ order ∈ call.history, call.since ≤ order.occurredAt runtime ∧
        tradeOf (parseOrder runtime session order) = trade := by
  have fromHistory : ∀ txn ∈ call.allTxns runtime session, isOrder txn = true →
      ∃ order ∈ call.history, call.since ≤ order.occurredAt runtime ∧
        tradeOf (parseOrder runtime session order) = tradeOf txn := by
    intro txn isMem isOrder
    obtain ⟨source, sourceMem, same⟩ := order_of_mem_allTxns isMem isOrder
    obtain ⟨order, orderMem, inWindow, rfl⟩ := (mem_orderTxns regular).mp sourceMem
    exact ⟨order, orderMem, inWindow, same⟩
  constructor
  · rintro ⟨txn, isMem, isOrder, rfl⟩
    exact fromHistory txn (mem_allTxns_of_fetched regular isMem) isOrder
  · rintro ⟨order, orderMem, inWindow, rfl⟩
    have inAll : enrichTransactionSecurity runtime call.answers.instruments
        (parseOrder runtime session order) ∈ call.allTxns runtime session := by
      apply List.mem_map_of_mem
      rw [List.append_assoc]
      exact List.mem_append_left _ ((mem_orderTxns regular).mpr ⟨order, orderMem, inWindow, rfl⟩)
    obtain ⟨first, fetched, sameId⟩ := exists_fetched regular inAll
    rw [externalTransactionId_enrich] at sameId
    have firstIsOrder : isOrder first = true :=
      (isOrder_congr sameId).trans (isOrder_parseOrder order)
    -- the first transaction with the id of the order is made of an order with its id
    obtain ⟨other, otherMem, -, same⟩ :=
      fromHistory first (mem_allTxns_of_fetched regular fetched) firstIsOrder
    have sameOrder : other = order := by
      apply List.inj_on_of_nodup_map regular.unique otherMem orderMem
      exact externalId_injective ((congrArg Trade.id same).trans sameId)
    exact ⟨first, fetched, firstIsOrder, sameOrder ▸ same.symm⟩

/-- A call adds an opening purchase exactly if its window has no order and there is
a holding with a quantity and an average price. -/
theorem noOpening_fetched_iff :
    NoOpening (call.fetched runtime session) ↔ call.WithoutOpening runtime := by
  have openingsIff : call.openingTxns runtime session = [] ↔ call.WithoutOpening runtime := by
    have ordersIff : call.orderTxns runtime session = [] ↔
        ¬ ∃ order ∈ call.history, call.since ≤ order.occurredAt runtime := by
      rw [List.eq_nil_iff_forall_not_mem]
      simp only [mem_orderTxns regular]
      constructor
      · rintro none ⟨order, orderMem, inWindow⟩
        exact none _ ⟨order, orderMem, inWindow, rfl⟩
      · rintro none txn ⟨order, orderMem, inWindow, -⟩
        exact none ⟨order, orderMem, inWindow⟩
    rw [Call.WithoutOpening, Call.openingTxns]
    by_cases empty : call.orderTxns runtime session = []
    · rw [if_pos empty, or_iff_right (ordersIff.mp empty), List.filterMap_eq_nil_iff,
        List.forall_mem_map]
      apply forall₂_congr
      intro item _
      rw [← Option.not_isSome_iff_eq_none, openingTransaction_isSome_iff, not_not]
    · rw [if_neg empty]
      exact iff_of_true rfl (.inl (not_not.mp (mt ordersIff.mpr empty)))
  rw [← openingsIff]
  constructor
  · intro noOpening
    by_contra nonempty
    obtain ⟨opening, openingMem⟩ := List.exists_mem_of_ne_nil _ nonempty
    obtain ⟨first, fetched, sameId⟩ := exists_fetched regular
      (List.mem_map_of_mem (List.mem_append_left _ (List.mem_append_right _ openingMem)))
    rw [externalTransactionId_enrich] at sameId
    have kinds : isOrder opening = false ∧ isCash opening = false := by
      rw [Call.openingTxns] at openingMem
      split at openingMem
      · obtain ⟨holding, -, opened⟩ := List.mem_filterMap.mp openingMem
        obtain ⟨notOrder, notCash, -⟩ := openingTransaction_eq_some opened
        exact ⟨notOrder, notCash⟩
      · cases openingMem
    have notOrder := (isOrder_congr sameId).trans kinds.1
    have none := noOpening first fetched notOrder
    cases other_of_mem_allTxns (mem_allTxns_of_fetched regular fetched) notOrder with
    | inl opened =>
        obtain ⟨-, ⟨-, -, units, -, isUnits⟩, -⟩ := opened
        rw [none] at isUnits
        cases isUnits
    | inr cash =>
        rw [isCash_congr sameId, kinds.2] at cash
        cases cash.1
  · intro empty txn fetched notOrder
    cases other_of_mem_allTxns (mem_allTxns_of_fetched regular fetched) notOrder with
    | inl opened => exact absurd empty opened.2.2
    | inr cash => exact cash.2

end Regular

/-! ## What has been collected -/

/-- The orders that have been collected are those of the history, and what else has a
quantity is an opening purchase. -/
structure Sound (runtime : Runtime) (session : Session) (world : World) : Prop where
  nodup : (world.ledger.map RawTransaction.externalTransactionId).Nodup
  unique : (world.history.map OrderData.id).Nodup
  orders : ∀ trade, (∃ txn ∈ world.ledger, isOrder txn = true ∧ tradeOf txn = trade) ↔
    ∃ order ∈ world.history, tradeOf (parseOrder runtime session order) = trade
  others : ∀ txn ∈ world.ledger, isOrder txn = false → txn.quantity = none ∨ IsOpening txn
  consistent : ∀ ticker, filledQuantity runtime ticker world.history =
    heldQuantity ticker world.portfolio

theorem mem_accumulate {ledger fetched : List RawTransaction} {txn : RawTransaction} :
    txn ∈ accumulate ledger fetched ↔
      txn ∈ fetched ∨ txn ∈ ledger ∧
        txn.externalTransactionId ∉ fetched.map RawTransaction.externalTransactionId := by
  rw [accumulate, List.mem_append, List.mem_filter, decide_eq_true_eq]

theorem nodup_ids_accumulate {ledger fetched : List RawTransaction}
    (ledgerNodup : (ledger.map RawTransaction.externalTransactionId).Nodup)
    (fetchedNodup : (fetched.map RawTransaction.externalTransactionId).Nodup) :
    ((accumulate ledger fetched).map RawTransaction.externalTransactionId).Nodup := by
  rw [accumulate, List.map_append, List.nodup_append]
  refine ⟨fetchedNodup, ledgerNodup.sublist (List.filter_sublist.map _), ?_⟩
  rintro id fetchedMem other otherMem rfl
  obtain ⟨txn, kept, rfl⟩ := List.mem_map.mp otherMem
  exact of_decide_eq_true (List.mem_filter.mp kept).2 fetchedMem

theorem noOpening_accumulate {ledger fetched : List RawTransaction} (none : NoOpening ledger) :
    NoOpening (accumulate ledger fetched) ↔ NoOpening fetched := by
  constructor
  · intro noOpening txn isMem
    exact noOpening txn (mem_accumulate.mpr (.inl isMem))
  · intro noOpening txn isMem
    cases mem_accumulate.mp isMem with
    | inl isFetched => exact noOpening txn isFetched
    | inr stored => exact none txn stored.1

/-- A call keeps the collected transactions sound. -/
theorem Sound.fetchInto {world : World} {call : Call} (sound : Sound runtime session world)
    (regular : call.Regular runtime world) :
    Sound runtime session (fetchInto runtime session world call) where
  nodup := nodup_ids_accumulate sound.nodup (nodup_ids_fetched regular)
  unique := regular.unique
  consistent := regular.consistent
  others := by
    intro txn isMem notOrder
    cases mem_accumulate.mp isMem with
    | inl isFetched =>
        cases other_of_mem_allTxns (mem_allTxns_of_fetched regular isFetched) notOrder with
        | inl opened => exact .inr opened.2.1
        | inr cash => exact .inl cash.2
    | inr stored => exact sound.others txn stored.1 notOrder
  orders := by
    intro trade
    constructor
    · rintro ⟨txn, isMem, isOrder, rfl⟩
      cases mem_accumulate.mp isMem with
      | inl isFetched =>
          obtain ⟨order, orderMem, -, same⟩ :=
            (mem_orders_fetched session regular).mp ⟨txn, isFetched, isOrder, rfl⟩
          exact ⟨order, orderMem, same⟩
      | inr stored =>
          obtain ⟨order, orderMem, same⟩ := (sound.orders _).mp ⟨txn, stored.1, isOrder, rfl⟩
          obtain ⟨later, laterMem, sameId⟩ := regular.kept order orderMem
          cases regular.changed later laterMem with
          | inl unchanged =>
              have isSame : later = order :=
                List.inj_on_of_nodup_map sound.unique unchanged orderMem sameId
              exact ⟨later, laterMem, isSame ▸ same⟩
          | inr inWindow =>
              -- an order that is in the window has been fetched in place of the stored one
              obtain ⟨first, isFetched, -, isLater⟩ :=
                (mem_orders_fetched session regular).mpr
                  ⟨later, laterMem, inWindow, rfl⟩
              refine absurd (List.mem_map.mpr ⟨first, isFetched, ?_⟩) stored.2
              calc first.externalTransactionId = later.externalId := congrArg Trade.id isLater
                _ = order.externalId := by rw [OrderData.externalId, sameId, OrderData.externalId]
                _ = txn.externalTransactionId := congrArg Trade.id same
    · rintro ⟨order, orderMem, rfl⟩
      cases regular.changed order orderMem with
      | inr inWindow =>
          obtain ⟨txn, isFetched, isOrder, same⟩ :=
            (mem_orders_fetched session regular).mpr ⟨order, orderMem, inWindow, rfl⟩
          exact ⟨txn, mem_accumulate.mpr (.inl isFetched), isOrder, same⟩
      | inl unchanged =>
          obtain ⟨txn, stored, isOrder, same⟩ := (sound.orders _).mpr ⟨order, unchanged, rfl⟩
          by_cases isFetched : txn.externalTransactionId ∈
              (call.fetched runtime session).map RawTransaction.externalTransactionId
          · obtain ⟨first, firstMem, sameId⟩ := List.mem_map.mp isFetched
            obtain ⟨other, otherMem, -, isOther⟩ := (mem_orders_fetched session regular).mp
              ⟨first, firstMem, (isOrder_congr sameId).trans isOrder, rfl⟩
            have sameOrder : other = order := by
              apply List.inj_on_of_nodup_map regular.unique otherMem orderMem
              apply externalId_injective
              calc other.externalId = first.externalTransactionId := congrArg Trade.id isOther
                _ = txn.externalTransactionId := sameId
                _ = order.externalId := congrArg Trade.id same
            exact ⟨first, mem_accumulate.mpr (.inl firstMem),
              (isOrder_congr sameId).trans isOrder, sameOrder ▸ isOther.symm⟩
          · exact ⟨txn, mem_accumulate.mpr (.inr ⟨stored, isFetched⟩), isOrder, same⟩

/-! ## Quantities -/

/-- What a trade contributes to the net quantity of a ticker. -/
def Trade.net (counts : TransactionStatus → Bool) (ticker : Option String) (trade : Trade) : ℚ :=
  if trade.ticker = ticker ∧ counts trade.status then
    match trade.type with
    | .purchase => trade.quantity.getD 0
    | .sale => -trade.quantity.getD 0
    | _ => 0
  else 0

theorem netQuantity_eq (counts : TransactionStatus → Bool) (ticker : Option String)
    (txns : List RawTransaction) :
    netQuantity counts ticker txns = ((txns.map tradeOf).map (Trade.net counts ticker)).sum := by
  rw [netQuantity, List.map_map]
  rfl

/-- The net quantity of what has been collected is that of the orders of the history
and of the transactions that are no orders. -/
theorem Sound.netQuantity_ledger {world : World} (sound : Sound runtime session world)
    (counts : TransactionStatus → Bool) (ticker : Option String) :
    netQuantity counts ticker world.ledger =
      netQuantity counts ticker (world.history.map (parseOrder runtime session)) +
        netQuantity counts ticker (world.ledger.filter fun txn => !isOrder txn) := by
  have parts : (world.ledger.filter isOrder ++ world.ledger.filter fun txn => !isOrder txn).Perm
      world.ledger := List.filter_append_perm isOrder world.ledger
  have orders : ((world.ledger.filter isOrder).map tradeOf).Perm
      ((world.history.map (parseOrder runtime session)).map tradeOf) := by
    have storedNodup : ((world.ledger.filter isOrder).map tradeOf).Nodup := by
      apply List.Nodup.of_map Trade.id
      rw [List.map_map]
      exact sound.nodup.sublist (List.filter_sublist.map _)
    have historyNodup : ((world.history.map (parseOrder runtime session)).map tradeOf).Nodup := by
      apply List.Nodup.of_map Trade.id
      rw [List.map_map, List.map_map]
      have injective : Function.Injective fun id => "order_" ++ id :=
        fun _ _ same => (String.append_right_inj "order_").mp same
      have prefixed := sound.unique.map injective
      rwa [List.map_map] at prefixed
    rw [List.perm_ext_iff_of_nodup storedNodup historyNodup]
    intro trade
    have stored := sound.orders trade
    simp only [List.mem_map, List.mem_filter, and_assoc, exists_exists_and_eq_and] at stored ⊢
    exact stored
  rw [netQuantity_eq, ← ((parts.map tradeOf).map _).sum_eq, List.map_append, List.map_append,
    List.sum_append, (orders.map _).sum_eq, ← netQuantity_eq, ← netQuantity_eq]

theorem tickerOf_parseOrder (order : OrderData) :
    tickerOf (parseOrder runtime session order) = nonEmpty order.ticker := by
  rw [tickerOf, parseOrder]
  cases nonEmpty order.ticker <;> rfl

theorem signedUnits_parseOrder (order : OrderData) :
    signedUnits (parseOrder runtime session order) = order.signedUnits runtime := by
  simp only [signedUnits, parseOrder, mapOrderSide, OrderData.signedUnits]
  split_ifs <;> rfl

theorem status_parseOrder (order : OrderData) :
    (parseOrder runtime session order).status = .booked ↔
      runtime.upper order.status = "FILLED" := by
  simp only [parseOrder, mapOrderStatus]
  split_ifs with filled <;> simp [filled]

/-- The booked transactions of a history are its filled orders. -/
theorem netQuantity_history (ticker : Option String) (history : List OrderData) :
    netQuantity isBooked ticker (history.map (parseOrder runtime session)) =
      filledQuantity runtime ticker history := by
  rw [netQuantity, filledQuantity, List.map_map]
  apply congrArg List.sum
  apply List.map_congr_left
  intro order _
  simp only [Function.comp_apply, tickerOf_parseOrder, signedUnits_parseOrder, isBooked,
    decide_eq_true_eq, status_parseOrder]

/-- All transactions of a history are its filled and its other orders. -/
theorem netQuantity_all_history (ticker : Option String) (history : List OrderData) :
    netQuantity (fun _ => true) ticker (history.map (parseOrder runtime session)) =
      filledQuantity runtime ticker history + unfilledQuantity runtime ticker history := by
  rw [netQuantity, filledQuantity, unfilledQuantity, List.map_map, ← List.sum_map_add]
  apply congrArg List.sum
  apply List.map_congr_left
  intro order _
  simp only [Function.comp_apply, tickerOf_parseOrder, signedUnits_parseOrder, and_true]
  by_cases here : nonEmpty order.ticker = ticker
  · by_cases filled : runtime.upper order.status = "FILLED" <;> simp [here, filled]
  · simp [here]

/-- Transactions without a quantity count for nothing. -/
theorem netQuantity_others {ledger : List RawTransaction} (noOpening : NoOpening ledger)
    (counts : TransactionStatus → Bool) (ticker : Option String) :
    netQuantity counts ticker (ledger.filter fun txn => !isOrder txn) = 0 := by
  apply List.sum_eq_zero
  intro amount isMem
  obtain ⟨txn, txnMem, rfl⟩ := List.mem_map.mp isMem
  obtain ⟨stored, notOrder⟩ := List.mem_filter.mp txnMem
  have none := noOpening txn stored (by simpa using notOrder)
  rw [signedUnits, none]
  split_ifs
  · split <;> simp
  · rfl

/-- The collected transactions add up to the portfolio exactly if none is an opening
purchase, since these are all positive. -/
theorem Sound.addsUp_iff {world : World} (sound : Sound runtime session world) :
    AddsUp world ↔ NoOpening world.ledger := by
  have others : ∀ ticker, netQuantity isBooked ticker world.ledger =
      heldQuantity ticker world.portfolio +
        netQuantity isBooked ticker (world.ledger.filter fun txn => !isOrder txn) := by
    intro ticker
    rw [sound.netQuantity_ledger, netQuantity_history, sound.consistent]
  constructor
  · intro addsUp txn stored notOrder
    cases sound.others txn stored notOrder with
    | inl none => exact none
    | inr opening =>
        obtain ⟨isPurchase, booked, units, positive, isUnits⟩ := opening
        have zero : netQuantity isBooked (tickerOf txn)
            (world.ledger.filter fun txn => !isOrder txn) = 0 := by
          have total := addsUp (tickerOf txn)
          rw [others] at total
          exact left_eq_add.mp total.symm
        have nonneg : ∀ other ∈ world.ledger.filter (fun txn => !isOrder txn),
            0 ≤ if tickerOf other = tickerOf txn ∧ isBooked other.status then signedUnits other
              else 0 := by
          intro other otherMem
          obtain ⟨otherStored, otherKind⟩ := List.mem_filter.mp otherMem
          split_ifs
          · cases sound.others other otherStored (by simpa using otherKind) with
            | inl none =>
                rw [signedUnits, none]
                split <;> simp
            | inr opening =>
                obtain ⟨isPurchase, -, units, positive, isUnits⟩ := opening
                rw [signedUnits, isPurchase, isUnits]
                exact positive.le
          · exact le_refl 0
        have own := (Lib.sum_map_eq_zero_iff nonneg).mp zero txn
          (List.mem_filter.mpr ⟨stored, by simpa using notOrder⟩)
        rw [if_pos ⟨rfl, by simp [isBooked, booked]⟩, signedUnits, isPurchase, isUnits] at own
        exact absurd own positive.ne'
  · intro noOpening ticker
    rw [others, netQuantity_others noOpening, add_zero]

theorem sound_emptyWorld : Sound runtime session emptyWorld where
  nodup := List.nodup_nil
  unique := List.nodup_nil
  orders trade := by simp [emptyWorld]
  others txn isMem := by cases isMem
  consistent ticker := rfl

variable (runtime) (session)

/-- The booked purchases and sales that are collected add up to the portfolio after
every call of a run exactly if no call has a window without orders and a holding to
open.  Counted with all statuses they then exceed it by the orders that are not
filled. -/
theorem addsUp_iff_withoutOpening (calls : List Call)
    (regular : Lib.Along (fetchInto runtime session)
      (fun world call => call.Regular runtime world) emptyWorld calls) :
    ((∀ before after, calls = before ++ after →
        AddsUp (Lib.runAll (fetchInto runtime session) emptyWorld before)) ↔
      ∀ call ∈ calls, call.WithoutOpening runtime) ∧
    ((∀ call ∈ calls, call.WithoutOpening runtime) →
      ∀ before after, calls = before ++ after → ∀ ticker,
        netQuantity (fun _ => true) ticker
            (Lib.runAll (fetchInto runtime session) emptyWorld before).ledger =
          heldQuantity ticker
              (Lib.runAll (fetchInto runtime session) emptyWorld before).portfolio +
            unfilledQuantity runtime ticker
              (Lib.runAll (fetchInto runtime session) emptyWorld before).history) := by
  have addsUpIff : (∀ before after, calls = before ++ after →
        AddsUp (Lib.runAll (fetchInto runtime session) emptyWorld before)) ↔
      ∀ call ∈ calls, call.WithoutOpening runtime := by
    have preserved : ∀ world call, Sound runtime session world → call.Regular runtime world →
        AddsUp world → call.WithoutOpening runtime →
        Sound runtime session (fetchInto runtime session world call) :=
      fun world call sound isRegular _ _ => sound.fetchInto isRegular
    have keeps : ∀ world call, Sound runtime session world → call.Regular runtime world →
        AddsUp world →
        (AddsUp (fetchInto runtime session world call) ↔ call.WithoutOpening runtime) := by
      intro world call sound isRegular addsUp
      rw [(sound.fetchInto isRegular).addsUp_iff, ← noOpening_fetched_iff isRegular]
      exact noOpening_accumulate (sound.addsUp_iff.mp addsUp)
    have start : AddsUp emptyWorld := fun _ => rfl
    exact (Lib.reached_iff_along preserved keeps calls sound_emptyWorld regular start).trans
      (Lib.along_inputs_iff calls)
  refine ⟨addsUpIff, ?_⟩
  intro withoutOpening before after split ticker
  have sound : Sound runtime session
      (Lib.runAll (fetchInto runtime session) emptyWorld before) := by
    rw [split] at regular
    exact (Lib.reached_invariant (fun world call => Sound.fetchInto) sound_emptyWorld regular).1
  have noOpening := sound.addsUp_iff.mp (addsUpIff.mpr withoutOpening before after split)
  rw [sound.netQuantity_ledger, netQuantity_all_history, netQuantity_others noOpening, add_zero,
    sound.consistent]

section Runs

/-- 2024-01-15 10:00 UTC -/
private def fillTime : Instant := Instant.days 19737 + 36000 * 1000000

/-- The runtime on ASCII texts and two timestamps. -/
private def fillRuntime : Runtime where
  upper text := String.ofList (text.toList.map Char.toUpper)
  strptime text format :=
    if format = "%Y-%m-%dT%H:%M:%S.%f" ∧ text = "2024-01-15T10:00:00.000" then some fillTime
    else if format = "%Y-%m-%dT%H:%M:%S.%f" ∧ text = "2024-01-17T10:00:00.000" then
      some (fillTime + Instant.days 2)
    else none

private def investSession : Session where
  accountId := "1234567"
  accountCurrency := "EUR"

private def buyOrder : OrderData where
  id := "1"
  ticker := "AAPL_US_EQ"
  side := "BUY"
  status := "FILLED"
  total := 1500
  currencyCode := some "USD"
  filledTime := some "2024-01-15T10:00:00.000Z"
  filledPrice := some 150
  filledQuantity := some 10

private def sellOrder : OrderData where
  id := "2"
  ticker := "AAPL_US_EQ"
  side := "SELL"
  status := "FILLED"
  total := 640
  currencyCode := some "USD"
  filledTime := some "2024-01-17T10:00:00.000Z"
  filledPrice := some 160
  filledQuantity := some 4

private def appleAnswers (orders : List OrderData) (quantity : ℚ) : Answers where
  orderPages := [orders]
  cashPages := [[]]
  portfolio :=
    [{ ticker := "AAPL_US_EQ", quantity := some quantity, averagePrice := some 150
       currencyCode := some "USD" }]
  instruments := [[("ticker", "AAPL_US_EQ"), ("isin", "US0378331005"), ("name", "Apple")]]

/-- The first call, which covers the buy. -/
private def firstCall : Call where
  since := 0
  now := fillTime + Instant.days 1
  history := [buyOrder]
  answers := appleAnswers [buyOrder] 10

/-- A call a day later without new orders. -/
private def idleCall : Call where
  since := fillTime + Instant.days 1
  now := fillTime + Instant.days 2
  history := [buyOrder]
  answers := appleAnswers [] 10

/-- A call after some of the shares were sold. -/
private def sellCall : Call where
  since := fillTime + Instant.days 1
  now := fillTime + Instant.days 3
  history := [sellOrder, buyOrder]
  answers := appleAnswers [sellOrder] 6

/-- Where all orders and the only holding are in one ticker, only it has to be consistent. -/
private theorem consistent_apple {history : List OrderData} {item : PortfolioItem}
    (orders : ∀ order ∈ history, nonEmpty order.ticker = some "AAPL_US_EQ")
    (text : item.tickerText = some "AAPL_US_EQ")
    (apple : filledQuantity fillRuntime (some "AAPL_US_EQ") history = item.quantity.getD 0)
    (ticker : Option String) :
    filledQuantity fillRuntime ticker history = heldQuantity ticker [item] := by
  rw [heldQuantity, List.map_singleton, List.sum_singleton, text]
  by_cases isApple : some "AAPL_US_EQ" = ticker
  · rw [← isApple, apple, if_pos rfl]
  · rw [if_neg isApple]
    apply List.sum_eq_zero
    intro amount isMem
    obtain ⟨order, orderMem, rfl⟩ := List.mem_map.mp isMem
    rw [orders order orderMem, if_neg fun here => isApple here.1]

private theorem filledQuantity_orders :
    filledQuantity fillRuntime (some "AAPL_US_EQ") [buyOrder] = 10 ∧
      filledQuantity fillRuntime (some "AAPL_US_EQ") [sellOrder, buyOrder] = 6 := by
  decide +kernel

private theorem occurredAt_orders : buyOrder.occurredAt fillRuntime = fillTime ∧
    sellOrder.occurredAt fillRuntime = fillTime + Instant.days 2 := by
  decide +kernel

private theorem firstCall_regular : firstCall.Regular fillRuntime emptyWorld where
  consistent := consistent_apple (by decide) rfl filledQuantity_orders.1
  unique := by decide
  changed order isMem :=
    .inr (by
      rw [List.mem_singleton.mp isMem, occurredAt_orders.1]
      decide)
  kept := by simp [emptyWorld]
  paged := by simp [firstCall, appleAnswers]
  complete := by simp [firstCall, appleAnswers]
  newestFirst := List.pairwise_singleton ..
  instruments := by decide

private theorem idleCall_regular :
    idleCall.Regular fillRuntime (fetchInto fillRuntime investSession emptyWorld firstCall) where
  consistent := consistent_apple (by decide) rfl filledQuantity_orders.1
  unique := by decide
  changed := by simp [idleCall, fetchInto, firstCall]
  kept := by simp [idleCall, fetchInto, firstCall]
  paged := by simp [idleCall, appleAnswers]
  complete := by simp [idleCall, occurredAt_orders, Instant.days, Instant.microsecondsPerDay]
  newestFirst := List.pairwise_singleton ..
  instruments := by decide

private theorem sellCall_regular :
    sellCall.Regular fillRuntime (fetchInto fillRuntime investSession emptyWorld firstCall) where
  consistent := consistent_apple (by decide) rfl filledQuantity_orders.2
  unique := by decide
  changed := by
    simp [sellCall, fetchInto, firstCall, occurredAt_orders, Instant.days,
      Instant.microsecondsPerDay]
  kept := by simp [sellCall, fetchInto, firstCall]
  paged := by simp [sellCall, appleAnswers]
  complete := by
    simp [sellCall, appleAnswers, occurredAt_orders, Instant.days, Instant.microsecondsPerDay]
  newestFirst := List.pairwise_singleton ..
  instruments := by decide

/-- A call without new orders after the call that fetched the buy adds the ten shares
a second time. -/
theorem idleCall_doubles_holding :
    Lib.Along (fetchInto fillRuntime investSession)
        (fun world call => call.Regular fillRuntime world) emptyWorld [firstCall, idleCall] ∧
      (Lib.runAll (fetchInto fillRuntime investSession) emptyWorld
          [firstCall, idleCall]).ledger.map (fun txn => (txn.externalTransactionId, txn.quantity)) =
        [("opening_AAPL_US_EQ", some 10), ("order_1", some 10)] ∧
      ¬ AddsUp (Lib.runAll (fetchInto fillRuntime investSession) emptyWorld
          [firstCall, idleCall]) := by
  refine ⟨⟨firstCall_regular, idleCall_regular, trivial⟩, by decide +kernel, ?_⟩
  intro addsUp
  have apple := addsUp (some "AAPL_US_EQ")
  revert apple
  decide +kernel

/-- After a call that fetches a sale the buy and the sale add up. -/
theorem addsUp_iff_withoutOpening_sale :
    AddsUp (Lib.runAll (fetchInto fillRuntime investSession) emptyWorld [firstCall, sellCall]) :=
  (addsUp_iff_withoutOpening fillRuntime investSession [firstCall, sellCall]
    ⟨firstCall_regular, sellCall_regular, trivial⟩).1.mpr (by
      simp [Call.WithoutOpening, firstCall, sellCall, occurredAt_orders, fillTime, Instant.days,
        Instant.microsecondsPerDay])
        [firstCall, sellCall] [] rfl

end Runs

end FinanceSync.Trading212
