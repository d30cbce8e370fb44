import FinanceSync.Portfolio.CashReconciliation
import Mathlib.Tactic.Ring

/-!
# When the cash reconciliation is right

Balance snapshots of one kind are consistent if each is the one before it plus
the transactions in between.  The check should accept consistent snapshots and
find an inconsistent pair.  It compares only the first snapshot with the latest
one, whatever their kinds, and counts some types of transactions only.
-/

namespace FinanceSync.Portfolio

open Lib OrderDual

/-! ## Consistent snapshots -/

section Domain

variable (tenantId : Uuid) (balances : List Balance) (transactions : List Transaction)
  (account : Account)

/-- The snapshots of an account in its currency, of any kind. -/
def snapshotsOf : List Balance :=
  accountBalances (balances.filter fun balance => balance.tenantId = tenantId) account

/-- The transactions of an account in its currency after one moment, up to another. -/
def transactionsBetween (start finish : Instant) : List Transaction :=
  transactions.filter fun transaction =>
    transaction.tenantId = tenantId ∧ transaction.accountId = account.id ∧
      transaction.currencyCode.toUpper = account.currencyCode.toUpper ∧
      start < transaction.occurredAt ∧ transaction.occurredAt ≤ finish

/-- What a transaction moves. -/
def signedAmount (transaction : Transaction) : ℚ :=
  if transaction.tombstonedAt.isSome then 0 else transaction.amount

/-- What the transactions move between two moments. -/
def netFlow (start finish : Instant) : ℚ :=
  ((transactionsBetween tenantId transactions account start finish).map signedAmount).sum

/-- Each snapshot is the one of its kind before it plus the transactions in
between, and the account shows the latest snapshots. -/
structure Consistent : Prop where
  chain : ∀ first ∈ snapshotsOf tenantId balances account,
    ∀ second ∈ snapshotsOf tenantId balances account,
    first.balanceKind = second.balanceKind → first.observedAt < second.observedAt →
    (∀ between ∈ snapshotsOf tenantId balances account,
      between.balanceKind = second.balanceKind → between.observedAt < second.observedAt →
        between.observedAt ≤ first.observedAt) →
    second.amount =
      first.amount + netFlow tenantId transactions account first.observedAt second.observedAt
  current : ∀ last ∈ snapshotsOf tenantId balances account, last.balanceKind = .current →
    (∀ other ∈ snapshotsOf tenantId balances account, other.balanceKind = .current →
      other.observedAt ≤ last.observedAt) →
    account.currentBalance = some last.amount
  available : ∀ last ∈ snapshotsOf tenantId balances account, last.balanceKind = .available →
    (∀ other ∈ snapshotsOf tenantId balances account, other.balanceKind = .available →
      other.observedAt ≤ last.observedAt) →
    account.availableBalance = some last.amount

/-- Two snapshots of one kind differ from the transactions in between by more
than a cent. -/
def Inconsistent : Prop :=
  ∃ first ∈ snapshotsOf tenantId balances account,
    ∃ second ∈ snapshotsOf tenantId balances account,
      first.balanceKind = second.balanceKind ∧ first.observedAt < second.observedAt ∧
        tolerance < |second.amount - (first.amount +
          netFlow tenantId transactions account first.observedAt second.observedAt)|

end Domain

section Chain

variable {tenantId : Uuid} {balances : List Balance} {transactions : List Transaction}
  {account : Account}

theorem netFlow_add {start middle finish : Instant} (first : start ≤ middle)
    (second : middle ≤ finish) :
    netFlow tenantId transactions account start middle +
        netFlow tenantId transactions account middle finish =
      netFlow tenantId transactions account start finish := by
  unfold netFlow transactionsBetween
  induction transactions with
  | nil => simp
  | cons transaction rest ih =>
      simp only [List.filter_cons]
      by_cases own : transaction.tenantId = tenantId ∧ transaction.accountId = account.id ∧
          transaction.currencyCode.toUpper = account.currencyCode.toUpper
      · rcases lt_or_ge start transaction.occurredAt with started | early
        · rcases lt_or_ge middle transaction.occurredAt with late | middling
          · simp only [own.1, own.2.1, own.2.2, started, late, not_le.mpr late, true_and,
              and_false, decide_false, Bool.false_eq_true, if_false]
            split
            · rw [List.map_cons, List.sum_cons, List.map_cons, List.sum_cons,
                ← ih]
              ring
            · exact ih
          · simp only [own.1, own.2.1, own.2.2, started, middling, not_lt.mpr middling,
              middling.trans second, true_and, and_self, decide_true, if_true, false_and,
              decide_false, Bool.false_eq_true, if_false, List.map_cons, List.sum_cons,
              ← ih]
            ring
        · have notMiddle : ¬ middle < transaction.occurredAt :=
            not_lt.mpr (early.trans first)
          simpa only [not_lt.mpr early, notMiddle, false_and, and_false, decide_false,
            Bool.false_eq_true, if_false] using ih
      · have others : ∀ condition : Prop, ¬ (transaction.tenantId = tenantId ∧
            transaction.accountId = account.id ∧
            transaction.currencyCode.toUpper = account.currencyCode.toUpper ∧ condition) :=
          fun condition all => own ⟨all.1, all.2.1, all.2.2.1⟩
        simpa only [others, decide_false, Bool.false_eq_true, if_false]
          using ih

/-- Along a chain of consistent snapshots the transactions add up. -/
theorem Consistent.telescope (consistent : Consistent tenantId balances transactions account)
    {first second : Balance} (firstMem : first ∈ snapshotsOf tenantId balances account)
    (secondMem : second ∈ snapshotsOf tenantId balances account)
    (sameKind : first.balanceKind = second.balanceKind)
    (before : first.observedAt < second.observedAt) :
    second.amount = first.amount +
      netFlow tenantId transactions account first.observedAt second.observedAt := by
  generalize duration : (second.observedAt - first.observedAt).toNat = length
  induction length using Nat.strong_induction_on generalizing second with
  | _ length ih =>
      have candidate : first ∈ (snapshotsOf tenantId balances account).filter fun other =>
          other.balanceKind = second.balanceKind ∧ other.observedAt < second.observedAt := by
        simp [firstMem, sameKind, before]
      -- The snapshot of the kind before the second one.
      cases found : ((snapshotsOf tenantId balances account).filter fun other =>
          other.balanceKind = second.balanceKind ∧
            other.observedAt < second.observedAt).argmax Balance.observedAt with
      | none =>
          rw [List.argmax_eq_none] at found
          rw [found] at candidate
          contradiction
      | some previous =>
          have previousMem := List.argmax_mem found
          simp only [List.mem_filter, decide_eq_true_eq] at previousMem
          obtain ⟨stored, previousKind, earlier⟩ := previousMem
          have notBefore : first.observedAt ≤ previous.observedAt :=
            List.le_of_mem_argmax candidate found
          have nothingBetween : ∀ between ∈ snapshotsOf tenantId balances account,
              between.balanceKind = second.balanceKind →
              between.observedAt < second.observedAt →
              between.observedAt ≤ previous.observedAt := by
            intro between betweenMem kind isEarlier
            exact List.le_of_mem_argmax (f := Balance.observedAt)
              (by simp [betweenMem, kind, isEarlier]) found
          rcases notBefore.eq_or_lt with same | strictly
          · refine consistent.chain first firstMem second secondMem sameKind before ?_
            rw [same]
            exact nothingBetween
          · have step := consistent.chain previous stored second secondMem previousKind earlier
              nothingBetween
            have shorter : (previous.observedAt - first.observedAt).toNat < length := by
              have gap : (previous.observedAt - first.observedAt : Int) <
                second.observedAt - first.observedAt := Int.sub_lt_sub_right earlier _
              have positive : (0 : Int) < second.observedAt - first.observedAt :=
                Int.sub_pos_of_lt before
              rw [← duration]
              exact (Int.toNat_lt_toNat positive).mpr gap
            rw [step, ih _ shorter stored (sameKind.trans previousKind.symm)
              strictly rfl, add_assoc, netFlow_add notBefore earlier.le]

end Chain

/-! ## What the check compares -/

section Check

variable {order : NewestFirst} {tenantId : Uuid} {balances : List Balance}
  {transactions : List Transaction} {account : Account}

/-- The check of the account's own balance. -/
def BalanceOff (account : Account) (closing : Balance) : Prop :=
  tolerance < |closing.amount - comparedBalance account closing|

/-- The check of the flow between two snapshots. -/
def FlowOff (tenantId : Uuid) (transactions : List Transaction) (account : Account)
    (opening closing : Balance) : Prop :=
  opening.id ≠ closing.id ∧
    tolerance < |closing.amount - (opening.amount +
      ((countedTransactions tenantId transactions account opening closing).map
        cashAmount).sum)|

/-- What the check finds on an account. -/
def Detected (order : NewestFirst) (tenantId : Uuid) (balances : List Balance)
    (transactions : List Transaction) (account : Account) : Prop :=
  ∃ closing ∈ latestBalance (balanceRows order tenantId balances) account,
    BalanceOff account closing ∨
      ∃ opening ∈ openingBalance (balanceRows order tenantId balances) account,
        FlowOff tenantId transactions account opening closing

theorem accountId_of_mem_accountIssues {rows : List Balance} {issue : CashIssue}
    (isMem : issue ∈ accountIssues tenantId transactions rows account) :
    issue.accountId = account.id := by
  unfold accountIssues at isMem
  split at isMem
  · rw [List.mem_singleton.mp isMem]
    rfl
  · rcases List.mem_append.mp isMem with own | flow
    · unfold balanceIssues at own
      dsimp only at own
      split at own
      · rw [List.mem_singleton.mp own]
        rfl
      · contradiction
    · split at flow
      · contradiction
      · unfold flowIssues at flow
        dsimp only at flow
        split at flow
        · contradiction
        · split at flow
          · contradiction
          · rw [List.mem_singleton.mp flow]
            rfl

theorem blocking_balanceIssues_iff {closing : Balance} :
    (∃ issue ∈ balanceIssues account closing, issue.blocking) ↔ BalanceOff account closing := by
  unfold balanceIssues BalanceOff
  dsimp only
  split
  · rename_i off
    simp [off, CashIssue.blocking]
  · rename_i agrees
    simp [agrees]

theorem blocking_flowIssues_iff {opening closing : Balance} :
    (∃ issue ∈ flowIssues tenantId transactions account opening closing, issue.blocking) ↔
      FlowOff tenantId transactions account opening closing := by
  unfold flowIssues FlowOff
  by_cases same : opening.id = closing.id
  · simp [same]
  · simp only [same, if_false, ne_eq, not_false_eq_true, true_and]
    split
    · rename_i agrees
      simp [not_lt.mpr agrees]
    · rename_i off
      simp [not_le.mp off, CashIssue.blocking]

theorem blocking_accountIssues_iff :
    (∃ issue ∈ accountIssues tenantId transactions (balanceRows order tenantId balances) account,
        issue.blocking) ↔
      Detected order tenantId balances transactions account := by
  unfold accountIssues Detected
  cases latestBalance (balanceRows order tenantId balances) account with
  | none => simp [CashIssue.blocking]
  | some closing =>
      simp only [List.mem_append, or_and_right, exists_or, blocking_balanceIssues_iff,
        Option.mem_some_iff, exists_eq_left']
      cases openingBalance (balanceRows order tenantId balances) account with
      | none => simp
      | some opening => simp [blocking_flowIssues_iff]

/-- An account gets a blocking issue exactly if it is checked and something is
detected. -/
theorem blocking_iff (accounts : Table Account Visibility.Account.id)
    (stored : account ∈ accounts.rows) :
    (∃ issue ∈ cashReconciliationIssues order tenantId accounts.rows balances transactions,
        issue.accountId = account.id ∧ issue.blocking) ↔
      account ∈ reconciledAccounts tenantId accounts.rows ∧
        Detected order tenantId balances transactions account := by
  rw [← blocking_accountIssues_iff]
  constructor
  · rintro ⟨issue, issueMem, own, blocking⟩
    obtain ⟨other, otherMem, ofOther⟩ := List.mem_flatMap.mp issueMem
    have sameId := (accountId_of_mem_accountIssues ofOther).symm.trans own
    have same : other = account :=
      accounts.eq_of_key_eq (List.mem_filter.mp otherMem).1 stored sameId
    subst same
    exact ⟨otherMem, issue, ofOther, blocking⟩
  · rintro ⟨checked, issue, issueMem, blocking⟩
    exact ⟨issue, List.mem_flatMap.mpr ⟨account, checked, issueMem⟩,
      accountId_of_mem_accountIssues issueMem, blocking⟩

/-! ## Amounts that are misread -/

/-- What the check takes a transaction for. -/
def countedAmount (transaction : Transaction) : ℚ :=
  if transaction.transactionType ∈ cashTypes then cashAmount transaction else 0

/-- What the check misses between two snapshots: transactions of types that it
does not count, withdrawals, fees and taxes whose sign it turns, and deleted
transactions that it counts all the same. -/
def misread (tenantId : Uuid) (transactions : List Transaction) (account : Account)
    (opening closing : Balance) : ℚ :=
  ((transactionsBetween tenantId transactions account opening.observedAt
    closing.observedAt).map fun transaction =>
      signedAmount transaction - countedAmount transaction).sum

theorem sum_counted (tenantId : Uuid) (transactions : List Transaction) (account : Account)
    (opening closing : Balance) :
    ((countedTransactions tenantId transactions account opening closing).map cashAmount).sum =
      netFlow tenantId transactions account opening.observedAt closing.observedAt -
        misread tenantId transactions account opening closing := by
  have selected : countedTransactions tenantId transactions account opening closing =
      (transactionsBetween tenantId transactions account opening.observedAt
        closing.observedAt).filter fun transaction =>
          transaction.transactionType ∈ cashTypes := by
    rw [countedTransactions, transactionsBetween, List.filter_filter]
    refine List.filter_congr fun transaction _ => ?_
    rw [← Bool.decide_and, decide_eq_decide]
    tauto
  rw [selected, netFlow, misread]
  induction transactionsBetween tenantId transactions account opening.observedAt
      closing.observedAt with
  | nil => simp
  | cons transaction rest ih =>
      by_cases counted : transaction.transactionType ∈ cashTypes
      · simp only [List.filter_cons, counted, decide_true, if_true, List.map_cons,
          List.sum_cons, ih, countedAmount]
        ring
      · simp only [List.filter_cons, counted, decide_false, Bool.false_eq_true, if_false,
          List.map_cons, List.sum_cons, ih, countedAmount]
        ring

theorem mem_accountBalances {balance : Balance} :
    balance ∈ accountBalances (balanceRows order tenantId balances) account ↔
      balance ∈ snapshotsOf tenantId balances account ∧
        balance.balanceKind ∈ [BalanceKind.current, .cash, .available, .booked] := by
  simp only [accountBalances, balanceRows, snapshotsOf, List.mem_filter, OrderBy.mem_sort,
    decide_eq_true_eq]
  tauto

/-- The latest snapshot is the latest of its kind. -/
theorem latest_of_kind {closing : Balance}
    (found : closing ∈ latestBalance (balanceRows order tenantId balances) account) :
    closing ∈ snapshotsOf tenantId balances account ∧
      ∀ other ∈ snapshotsOf tenantId balances account,
        other.balanceKind = closing.balanceKind → other.observedAt ≤ closing.observedAt := by
  obtain ⟨stored, kind⟩ := mem_accountBalances.mp (List.argmax_mem found)
  refine ⟨stored, fun other otherMem sameKind => ?_⟩
  have compared : recency other ≤ recency closing :=
    List.le_of_mem_argmax (mem_accountBalances.mpr ⟨otherMem, sameKind ▸ kind⟩) found
  rcases (Prod.Lex.toLex_le_toLex.mp compared) with earlier | same
  · exact earlier.le
  · exact same.1.le

/-- The account's field agrees, as it does if the latest snapshot is of a kind
that the account shows. -/
def BalanceAccepted (account : Account) (closing : Balance) : Prop :=
  closing.balanceKind ∈ [BalanceKind.current, .available] ∨
    |closing.amount - comparedBalance account closing| ≤ tolerance

/-- What the check misses between the first and the latest snapshot cancels; if
they are of different kinds or of one moment, they agree with what it counts. -/
def FlowAccepted (tenantId : Uuid) (transactions : List Transaction) (account : Account)
    (opening closing : Balance) : Prop :=
  opening.id ≠ closing.id →
    if opening.balanceKind = closing.balanceKind ∧ opening.observedAt < closing.observedAt then
      |misread tenantId transactions account opening closing| ≤ tolerance
    else
      |closing.amount - (opening.amount +
        ((countedTransactions tenantId transactions account opening closing).map
          cashAmount).sum)| ≤ tolerance

/-- What has to hold of a consistent account for the check to accept it. -/
def Accepted (order : NewestFirst) (tenantId : Uuid) (balances : List Balance)
    (transactions : List Transaction) (account : Account) : Prop :=
  ∀ closing ∈ latestBalance (balanceRows order tenantId balances) account,
    BalanceAccepted account closing ∧
      ∀ opening ∈ openingBalance (balanceRows order tenantId balances) account,
        FlowAccepted tenantId transactions account opening closing

section Accepted

variable (consistent : Consistent tenantId balances transactions account)

include consistent

theorem Consistent.balanceAccepted_iff {closing : Balance}
    (found : closing ∈ latestBalance (balanceRows order tenantId balances) account) :
    BalanceAccepted account closing ↔ ¬ BalanceOff account closing := by
  obtain ⟨stored, isLatest⟩ := latest_of_kind found
  have cent : (0 : ℚ) ≤ tolerance := by norm_num [tolerance]
  rw [BalanceOff, not_lt]
  refine ⟨fun accepted => accepted.elim (fun shown => ?_) id, Or.inr⟩
  rcases List.mem_cons.mp shown with current | rest
  · have balance := consistent.current closing stored current
      fun other otherMem kind => isLatest other otherMem (kind.trans current.symm)
    simpa [comparedBalance, current, balance] using cent
  · have available : closing.balanceKind = .available := by simpa using rest
    have balance := consistent.available closing stored available
      fun other otherMem kind => isLatest other otherMem (kind.trans available.symm)
    simpa [comparedBalance, available, balance] using cent

theorem Consistent.flowAccepted_iff {opening closing : Balance}
    (foundClosing : closing ∈ latestBalance (balanceRows order tenantId balances) account)
    (foundOpening : opening ∈ openingBalance (balanceRows order tenantId balances) account) :
    FlowAccepted tenantId transactions account opening closing ↔
      ¬ FlowOff tenantId transactions account opening closing := by
  have openingMem := (mem_accountBalances.mp (List.argmin_mem foundOpening)).1
  have closingMem := (latest_of_kind foundClosing).1
  rw [FlowOff, not_and, not_lt, FlowAccepted]
  refine imp_congr_right fun _ => ?_
  split
  · rename_i comparable
    rw [sum_counted, consistent.telescope openingMem closingMem comparable.1 comparable.2]
    ring_nf
  · rfl

theorem Consistent.accepted_iff :
    Accepted order tenantId balances transactions account ↔
      ¬ Detected order tenantId balances transactions account := by
  simp only [Accepted, Detected, not_exists, not_and, not_or]
  refine forall₂_congr fun closing foundClosing => and_congr ?_ ?_
  · exact consistent.balanceAccepted_iff foundClosing
  · exact forall₂_congr fun opening foundOpening =>
      consistent.flowAccepted_iff foundClosing foundOpening

end Accepted

/-- The check accepts a consistent account and finds an inconsistent one exactly
if what it misreads in the former cancels, and in the latter the field of the
account or the counted flow from the first to the latest snapshot is off. -/
theorem cashReconciliation_iff (order : NewestFirst) (tenantId : Uuid)
    (accounts : Table Account Visibility.Account.id) (stored : account ∈ accounts.rows)
    (balances : List Balance) (transactions : List Transaction) :
    ((Consistent tenantId balances transactions account →
          ∀ issue ∈ cashReconciliationIssues order tenantId accounts.rows balances transactions,
            issue.accountId = account.id → ¬ issue.blocking) ∧
        (Inconsistent tenantId balances transactions account →
          ∃ issue ∈ cashReconciliationIssues order tenantId accounts.rows balances transactions,
            issue.accountId = account.id ∧ issue.blocking)) ↔
      (Consistent tenantId balances transactions account →
          account ∈ reconciledAccounts tenantId accounts.rows →
            Accepted order tenantId balances transactions account) ∧
        (Inconsistent tenantId balances transactions account →
          account ∈ reconciledAccounts tenantId accounts.rows ∧
            Detected order tenantId balances transactions account) := by
  have blocking : (∃ issue ∈ cashReconciliationIssues order tenantId accounts.rows balances
      transactions, issue.accountId = account.id ∧ issue.blocking) ↔ _ :=
    blocking_iff accounts stored
  rw [blocking]
  refine and_congr_left fun _ => imp_congr_right fun consistent => ?_
  rw [consistent.accepted_iff, ← not_and, ← blocking]
  simp only [not_exists, not_and]

end Check

/-! ## A card payment and a lost transaction -/

def currentSnapshot (id : Uuid) (observedAt : Instant) (amount : ℚ) : Balance :=
  { id, tenantId := 1, accountId := 0, observedAt, balanceKind := .current, amount,
    currencyCode := "EUR" }

def currentAccounts (currentBalance : ℚ) : Table Account Visibility.Account.id :=
  Table.empty.insert
    { id := 0, tenantId := 1, providerKey := "bank", externalAccountId := "A", name := "A",
      accountType := "checking", currentBalance := some currentBalance } rfl

def currentAccount (currentBalance : ℚ) : Account :=
  { id := 0, tenantId := 1, providerKey := "bank", externalAccountId := "A", name := "A",
    accountType := "checking", currentBalance := some currentBalance }

def cardPayment : Transaction :=
  { id := 1, tenantId := 1, accountId := 0, transactionType := .cardPayment, amount := -60,
    currencyCode := "EUR", occurredAt := 5 }

/-- Newest first, as inserted within one moment. -/
def newestFirst : NewestFirst :=
  OrderBy.stable fun balance : Balance => toDual balance.observedAt

theorem cashReconciliation_iff_cardPayment :
    ((Consistent 1 [currentSnapshot 1 0 100, currentSnapshot 2 10 40] [cardPayment]
            (currentAccount 40) →
          ∀ issue ∈ cashReconciliationIssues newestFirst 1 (currentAccounts 40).rows
            [currentSnapshot 1 0 100, currentSnapshot 2 10 40] [cardPayment],
            issue.accountId = 0 → ¬ issue.blocking) ∧
        (Inconsistent 1 [currentSnapshot 1 0 100, currentSnapshot 2 10 40] [cardPayment]
            (currentAccount 40) →
          ∃ issue ∈ cashReconciliationIssues newestFirst 1 (currentAccounts 40).rows
            [currentSnapshot 1 0 100, currentSnapshot 2 10 40] [cardPayment],
            issue.accountId = 0 ∧ issue.blocking)) ↔
      (Consistent 1 [currentSnapshot 1 0 100, currentSnapshot 2 10 40] [cardPayment]
            (currentAccount 40) →
          currentAccount 40 ∈ reconciledAccounts 1 (currentAccounts 40).rows →
            Accepted newestFirst 1 [currentSnapshot 1 0 100, currentSnapshot 2 10 40]
              [cardPayment] (currentAccount 40)) ∧
        (Inconsistent 1 [currentSnapshot 1 0 100, currentSnapshot 2 10 40] [cardPayment]
            (currentAccount 40) →
          currentAccount 40 ∈ reconciledAccounts 1 (currentAccounts 40).rows ∧
            Detected newestFirst 1 [currentSnapshot 1 0 100, currentSnapshot 2 10 40]
              [cardPayment] (currentAccount 40)) :=
  cashReconciliation_iff newestFirst 1 (currentAccounts 40)
    (List.mem_append_right _ (List.mem_singleton.mpr rfl)) _ _

/-- A consistent account with a card payment is blocked; an account whose middle
snapshot is off by fifty is not. -/
theorem cashReconciliation_wrong :
    (Consistent 1 [currentSnapshot 1 0 100, currentSnapshot 2 10 40] [cardPayment]
          (currentAccount 40) ∧
        ∃ issue ∈ cashReconciliationIssues newestFirst 1 (currentAccounts 40).rows
          [currentSnapshot 1 0 100, currentSnapshot 2 10 40] [cardPayment],
          issue.accountId = 0 ∧ issue.blocking) ∧
      Inconsistent 1
          [currentSnapshot 1 0 100, currentSnapshot 2 5 150, currentSnapshot 3 10 100] []
          (currentAccount 100) ∧
        ∀ issue ∈ cashReconciliationIssues newestFirst 1 (currentAccounts 100).rows
          [currentSnapshot 1 0 100, currentSnapshot 2 5 150, currentSnapshot 3 10 100] [],
          issue.accountId = 0 → ¬ issue.blocking := by
  refine ⟨⟨⟨?_, ?_, ?_⟩, ?_⟩, ⟨currentSnapshot 1 0 100, ?_, currentSnapshot 2 5 150, ?_, ?_⟩, ?_⟩
  all_goals decide +kernel

end FinanceSync.Portfolio
