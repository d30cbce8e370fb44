import FinanceSync.Data.Values
import FinanceSync.Lib.Run
import Mathlib.Data.List.Sort
import Mathlib.Logic.Function.Basic

/-!
# The cards pipeline

The card payments of a bunq connection are read from the stored cursor on and
then the cursor moves to the start of the run.  A payment keeps its creation
time, by which it is read, when the provider changes its status.
-/

namespace FinanceSync.Sync.Cards

open Lib

/-! ## The provider -/

/-- `TransactionStatus` -/
inductive TransactionStatus
  | pending
  | booked
  | cancelled
  | reversed
deriving DecidableEq

/-- `CardAuthorizationType` -/
inductive CardAuthorizationType
  | authorization
  | settlement
  | refund
  | chargeback
  | other
deriving DecidableEq

/-- A bunq `CardPayment`.  The times are those of its timestamps that can be read,
and `authorisationStatus` is `status` where the payment has none of its own. -/
structure CardPayment where
  id : String
  amount : Decimal := 0
  currency : String := "EUR"
  created : Option Instant
  updated : Option Instant
  authorisationStatus : String := ""

/-- One answer to a request for the payments of a card. -/
structure Page where
  url : String
  payments : List CardPayment

structure Card where
  id : String
  pages : List Page

/-- Map bunq card authorisation status to canonical auth type. -/
def mapAuthStatus (raw : String) : CardAuthorizationType :=
  match raw.toUpper with
  | "AUTHORISATION" => .authorization
  | "AUTHORIZATION" => .authorization
  | "SETTLEMENT" => .settlement
  | "REFUND" => .refund
  | "CHARGEBACK" => .chargeback
  | "CANCELLED" => .other
  | "REVERSED" => .chargeback
  | _ => .authorization

/-- Map bunq card payment status to canonical transaction status. -/
def mapCardPaymentStatus (raw : String) : TransactionStatus :=
  match raw.toUpper with
  | "AUTHORISATION" => .pending
  | "AUTHORIZATION" => .pending
  | "SETTLEMENT" => .booked
  | "REFUND" => .booked
  | "CHARGEBACK" => .booked
  | "COMPLETED" => .booked
  | "CANCELLED" => .cancelled
  | "REVERSED" => .reversed
  | _ => .pending

/-- `RawCardTransaction`, and the row that is stored of it. -/
structure CardTransaction where
  externalCardTransactionId : String
  externalAccountId : String
  amount : Decimal
  currencyCode : String
  occurredAt : Instant
  bookedAt : Instant
  authorizationType : CardAuthorizationType
  status : TransactionStatus
  authorizationStatus : String
deriving DecidableEq

/-- Map a bunq CardPayment JSON object to a RawCardTransaction.  Times that cannot
be read are the epoch. -/
def parseCardPayment (cardId : String) (data : CardPayment) : CardTransaction :=
  { externalCardTransactionId := data.id
    externalAccountId := cardId
    amount := data.amount
    currencyCode := data.currency
    occurredAt := data.created.getD 0
    bookedAt := data.updated.getD 0
    authorizationType := mapAuthStatus data.authorisationStatus
    status := mapCardPaymentStatus data.authorisationStatus
    authorizationStatus := data.authorisationStatus }

/-- The pages that are requested: up to the first address that has been seen. -/
def pagesRead : List String → List Page → List Page
  | _, [] => []
  | seenUrls, page :: rest =>
      if page.url ∈ seenUrls then [] else page :: pagesRead (page.url :: seenUrls) rest

/-- The payments of a card, as transactions. -/
def Card.transactions (card : Card) : List CardTransaction :=
  ((pagesRead [] card.pages).flatMap Page.payments).map (parseCardPayment card.id)

/-- What the provider has of the user's cards.  A payment has one state, however
often it is listed. -/
structure Provider where
  cards : List Card
  consistent : ∀ transaction ∈ cards.flatMap Card.transactions,
    ∀ other ∈ cards.flatMap Card.transactions,
      transaction.externalCardTransactionId = other.externalCardTransactionId →
        transaction.status = other.status ∧ transaction.amount = other.amount ∧
          transaction.bookedAt = other.bookedAt ∧ transaction.occurredAt = other.occurredAt

/-- Everything the provider reports. -/
def Provider.transactions (provider : Provider) : List CardTransaction :=
  provider.cards.flatMap Card.transactions

/-- `_fetch_card_payments`: filters out transactions older than since. -/
def fetchCardPayments (since : Instant) (card : Card) : List CardTransaction :=
  card.transactions.filter (since ≤ ·.occurredAt)

/-- The card transactions of all cards, most recent first. -/
def Provider.fetchCardTransactions (provider : Provider) (since : Instant) :
    List CardTransaction :=
  (provider.cards.flatMap (fetchCardPayments since)).mergeSort
    fun first second => second.occurredAt ≤ first.occurredAt

/-! ## The pipeline -/

/-- The card transactions of one connection, by their external ids. -/
abbrev CardTransactions : Type := String → Option CardTransaction

/-- An existing row takes over the fields that differ.  Amounts are compared as
numbers. -/
def CardTransaction.overwrite (existing new : CardTransaction) : CardTransaction :=
  { existing with
    amount := if new.amount.value = existing.amount.value then existing.amount else new.amount
    currencyCode := new.currencyCode
    occurredAt := new.occurredAt
    bookedAt := new.bookedAt
    authorizationType := new.authorizationType
    status := new.status
    authorizationStatus := new.authorizationStatus }

/-- Create or update a CardTransaction from connector data. -/
def persistCardTransaction (stored : CardTransactions) (new : CardTransaction) :
    CardTransactions :=
  Function.update stored new.externalCardTransactionId
    (some (match stored new.externalCardTransactionId with
      | some existing => existing.overwrite new
      | none => new))

/-- The provider, and what the connection's runs have stored of it. -/
structure World where
  provider : Provider := { cards := [], consistent := by simp }
  cursor : Option Instant := none
  cardTransactions : CardTransactions := fun _ => none

/-- `_default_since` -/
def defaultSince (now : Instant) : Instant := now - Instant.days 90

/-- A successful `run_bunq_cards_sync` that starts now and resumes from the stored
cursor. -/
def runBunqCardsSync (world : World) (startTs : Instant) : World :=
  { world with
    cursor := some startTs
    cardTransactions :=
      (world.provider.fetchCardTransactions (world.cursor.getD (defaultSince startTs))).foldl
        persistCardTransaction world.cardTransactions }

/-- The provider moves on, or a run takes place. -/
inductive Event
  | change (provider : Provider)
  | sync (startTs : Instant)

def step (world : World) : Event → World
  | .change provider => { world with provider }
  | .sync startTs => runBunqCardsSync world startTs

/-! ## What a run stores -/

/-- The stored row has the status, amount and booking time that are reported. -/
def CardTransaction.Agrees (row reported : CardTransaction) : Prop :=
  row.status = reported.status ∧ row.amount.value = reported.amount.value ∧
    row.bookedAt = reported.bookedAt

theorem CardTransaction.agrees_overwrite (existing new : CardTransaction) :
    (existing.overwrite new).Agrees new := by
  refine ⟨rfl, ?_, rfl⟩
  unfold overwrite
  split
  · rename_i same
    exact same.symm
  · rfl

section Persist

variable {stored : CardTransactions}

theorem persistCardTransaction_of_ne {new : CardTransaction} {id : String}
    (other : new.externalCardTransactionId ≠ id) :
    persistCardTransaction stored new id = stored id :=
  Function.update_of_ne (Ne.symm other) _ _

variable (stored) in
/-- The row of a transaction agrees with it once it is persisted. -/
theorem agrees_persistCardTransaction (new : CardTransaction) :
    ∃ row, persistCardTransaction stored new new.externalCardTransactionId = some row ∧
      row.Agrees new := by
  simp only [persistCardTransaction, Function.update_self, Option.some.injEq, exists_eq_left']
  cases stored new.externalCardTransactionId with
  | none => exact ⟨rfl, rfl, rfl⟩
  | some existing => exact existing.agrees_overwrite new

/-- After all transactions are persisted the row of an id agrees with one of them,
or none has the id and the row is as it was. -/
theorem foldl_persistCardTransaction (fetched : List CardTransaction) (id : String) :
    ∀ stored : CardTransactions,
      (∃ new ∈ fetched, new.externalCardTransactionId = id ∧
          ∃ row, fetched.foldl persistCardTransaction stored id = some row ∧ row.Agrees new) ∨
        ((∀ new ∈ fetched, new.externalCardTransactionId ≠ id) ∧
          fetched.foldl persistCardTransaction stored id = stored id) := by
  induction fetched with
  | nil => intro stored; exact Or.inr ⟨by simp, rfl⟩
  | cons first rest ih =>
      intro stored
      rw [List.foldl_cons]
      cases ih (persistCardTransaction stored first) with
      | inl found =>
          obtain ⟨new, isMem, named, row⟩ := found
          exact Or.inl ⟨new, List.mem_cons_of_mem _ isMem, named, row⟩
      | inr untouched =>
          by_cases own : first.externalCardTransactionId = id
          · left
            obtain ⟨row, isRow, agrees⟩ := agrees_persistCardTransaction stored first
            exact ⟨first, List.mem_cons_self, own, row,
              untouched.2.trans (own ▸ isRow), agrees⟩
          · right
            rw [untouched.2, persistCardTransaction_of_ne own]
            exact ⟨List.forall_mem_cons.mpr ⟨own, untouched.1⟩, rfl⟩

end Persist

theorem Provider.mem_fetchCardTransactions {provider : Provider} {since : Instant}
    {transaction : CardTransaction} :
    transaction ∈ provider.fetchCardTransactions since ↔
      transaction ∈ provider.transactions ∧ since ≤ transaction.occurredAt := by
  simp only [fetchCardTransactions, List.mem_mergeSort, transactions, List.mem_flatMap,
    fetchCardPayments, List.mem_filter, decide_eq_true_eq]
  constructor
  · intro ⟨card, cardMem, isMem, notBefore⟩
    exact ⟨⟨card, cardMem, isMem⟩, notBefore⟩
  · intro ⟨⟨card, cardMem, isMem⟩, notBefore⟩
    exact ⟨card, cardMem, isMem, notBefore⟩

/-! ## Later settlements -/

namespace World

/-- Every card payment that has been stored has the status, amount and booking time
that the provider reports. -/
def Settled (world : World) : Prop :=
  ∀ reported ∈ world.provider.transactions, ∀ row,
    world.cardTransactions reported.externalCardTransactionId = some row → row.Agrees reported

/-- Every stored payment that is reported otherwise than it is stored was created at
or after the cursor. -/
def ChangesInReach (world : World) : Prop :=
  ∀ reported ∈ world.provider.transactions, ∀ row,
    world.cardTransactions reported.externalCardTransactionId = some row →
      row.Agrees reported ∨ ∀ cursor ∈ world.cursor, cursor ≤ reported.occurredAt

/-- Without a cursor nothing has been stored. -/
def CursorKept (world : World) : Prop :=
  world.cursor = none → world.cardTransactions = fun _ => none

/-- After a run the row of a reported payment agrees with the report, or the payment
was created before the start of what was read and the row is as it was. -/
theorem row_runBunqCardsSync (world : World) (startTs : Instant) {reported : CardTransaction}
    (isMem : reported ∈ world.provider.transactions) :
    (world.cursor.getD (defaultSince startTs) ≤ reported.occurredAt ∧
        ∃ row, (runBunqCardsSync world startTs).cardTransactions
          reported.externalCardTransactionId = some row ∧ row.Agrees reported) ∨
      (¬ world.cursor.getD (defaultSince startTs) ≤ reported.occurredAt ∧
        (runBunqCardsSync world startTs).cardTransactions reported.externalCardTransactionId =
          world.cardTransactions reported.externalCardTransactionId) := by
  cases foldl_persistCardTransaction
    (world.provider.fetchCardTransactions (world.cursor.getD (defaultSince startTs)))
    reported.externalCardTransactionId world.cardTransactions with
  | inl found =>
      obtain ⟨new, isFetched, named, row, isRow, agrees⟩ := found
      obtain ⟨listed, notBefore⟩ := Provider.mem_fetchCardTransactions.mp isFetched
      obtain ⟨sameStatus, sameAmount, sameBooking, sameCreation⟩ :=
        world.provider.consistent new listed reported isMem named
      left
      refine ⟨sameCreation ▸ notBefore, row, isRow, agrees.1.trans sameStatus, ?_,
        agrees.2.2.trans sameBooking⟩
      rw [agrees.2.1, sameAmount]
  | inr untouched =>
      right
      refine ⟨fun notBefore => ?_, untouched.2⟩
      exact untouched.1 reported
        (Provider.mem_fetchCardTransactions.mpr ⟨isMem, notBefore⟩) rfl

/-- The next run brings every stored payment up to date exactly if the changes are in
reach of the cursor. -/
theorem settled_runBunqCardsSync_iff {world : World} (cursorKept : world.CursorKept)
    (startTs : Instant) :
    (runBunqCardsSync world startTs).Settled ↔ world.ChangesInReach := by
  constructor
  · intro settled reported isMem row isRow
    cases world.row_runBunqCardsSync startTs isMem with
    | inl read =>
        right
        intro cursor isCursor
        simpa [Option.mem_def.mp isCursor] using read.1
    | inr unread =>
        left
        exact settled reported isMem row (unread.2.trans isRow)
  · intro inReach reported isMem row isRow
    cases world.row_runBunqCardsSync startTs isMem with
    | inl read =>
        obtain ⟨_, written, isWritten, agrees⟩ := read
        rw [isRow, Option.some.injEq] at isWritten
        exact isWritten ▸ agrees
    | inr unread =>
        rw [unread.2] at isRow
        cases inReach reported isMem row isRow with
        | inl agrees => exact agrees
        | inr created =>
            cases isCursor : world.cursor with
            | none => simp [cursorKept isCursor] at isRow
            | some cursor =>
                have notBefore := created cursor isCursor
                simp [isCursor, notBefore] at unread

theorem cursorKept_step (world : World) (event : Event) (cursorKept : world.CursorKept) :
    (step world event).CursorKept := by
  cases event with
  | change provider => exact cursorKept
  | sync startTs =>
      intro noCursor
      contradiction

/-- The changes of the provider that leave the connection in order: a payment that has
been fetched is changed only if it was created at or after the cursor. -/
def ReachableChange (world : World) : Event → Prop
  | .change provider => ({ world with provider } : World).ChangesInReach
  | .sync _ => True

/-- A step keeps the changes in reach exactly if it is such a change. -/
theorem changesInReach_step_iff (world : World) (event : Event) (cursorKept : world.CursorKept)
    (inReach : world.ChangesInReach) :
    (step world event).ChangesInReach ↔ world.ReachableChange event := by
  cases event with
  | change provider => exact Iff.rfl
  | sync startTs =>
      have settled := (settled_runBunqCardsSync_iff cursorKept startTs).mpr inReach
      have stillInReach : (runBunqCardsSync world startTs).ChangesInReach :=
        fun reported isMem row isRow =>
          Or.inl (settled reported isMem row isRow)
      exact iff_of_true stillInReach trivial

end World

/-- At every point of every sequence of changes and runs the next run stores the status,
amount and booking time of all payments that have been fetched before, exactly if no
fetched payment is changed that was created before the cursor. -/
theorem laterSettlement_stored_iff (events : List Event) :
    (∀ before after, events = before ++ after →
        ∀ startTs, (runAll step {} (before ++ [.sync startTs])).Settled) ↔
      Along step World.ReachableChange {} events := by
  have nothingStored : ({} : World).CursorKept := fun _ => rfl
  have inReachStart : ({} : World).ChangesInReach := by
    intro reported isMem
    contradiction
  rw [← reached_iff_kept World.cursorKept_step World.changesInReach_step_iff events
    nothingStored inReachStart]
  have keptAlong : ∀ before : List Event, (runAll step ({} : World) before).CursorKept :=
    fun before => runAll_invariant (fun world event kept _ => world.cursorKept_step event kept)
      before nothingStored (along_of_forall before fun _ _ => trivial)
  constructor
  · intro settled before after split
    rw [← World.settled_runBunqCardsSync_iff (keptAlong before) 0]
    simpa [runAll_append, step] using settled before after split 0
  · intro inReach before after split startTs
    simpa [runAll_append, step] using
      (World.settled_runBunqCardsSync_iff (keptAlong before) startTs).mpr
        (inReach before after split)

/-- The coffee of the first day as it is authorised, and as it is settled on the third. -/
def coffee (settledAt : Option Instant) : CardPayment :=
  { id := "7"
    amount := ⟨-350, -2⟩
    created := some (Instant.days 1)
    updated := some (settledAt.getD (Instant.days 1))
    authorisationStatus := if settledAt.isSome then "SETTLEMENT" else "AUTHORISATION" }

/-- The provider lists the coffee on its only page. -/
def coffeeProvider (settledAt : Option Instant) : Provider where
  cards :=
    [{ id := "1"
       pages := [{ url := "/card/1/card-payment", payments := [coffee settledAt] }] }]
  consistent := by simp [Card.transactions, pagesRead]

/-- The coffee is fetched on the second day and settled on the third. -/
def settledLater : List Event :=
  [.change (coffeeProvider none), .sync (Instant.days 2),
    .change (coffeeProvider (some (Instant.days 3)))]

/-- The run of the fourth day does not read the coffee again. -/
theorem settledLater_not_stored :
    ¬ ∀ startTs, (runAll step {} (settledLater ++ [.sync startTs])).Settled := by
  intro settled
  have stillPending : (runAll step ({} : World)
      (settledLater ++ [.sync (Instant.days 4)])).cardTransactions "7" =
        some (parseCardPayment "1" (coffee none)) := by
    decide +kernel
  have agrees := settled (Instant.days 4)
    (parseCardPayment "1" (coffee (some (Instant.days 3))))
    (List.mem_singleton.mpr rfl) _ stillPending
  exact absurd agrees.1 (by decide +kernel)

end FinanceSync.Sync.Cards
