import FinanceSync.Lib.Views
import FinanceSync.Visibility.Requests

/-!
# What a scope sees of a database

Two databases agree within a scope if the visible accounts are the same, and the
rows attached to them.  Reads within the scope cannot tell such databases apart,
and a write to a visible transaction keeps them in agreement and leaves alone what
is not visible.
-/

namespace FinanceSync.Visibility

open Lib Auth

/-! ## Narrower scopes -/

/-- Every account that the one scope sees, the other sees. -/
def ReadScope.within (narrow wide : ReadScope) : Bool :=
  narrow.tenantId = wide.tenantId &&
    match wide.accountIds, narrow.accountIds with
    | none, _ => true
    | some _, none => false
    | some allowed, some accountIds => accountIds.all (· ∈ allowed)

variable {narrow wide scope : ReadScope} {db first second third : Database}

theorem ReadScope.isVisible_of_within (within : narrow.within wide) {account : Account}
    (isVisible : narrow.isVisible account) : wide.isVisible account := by
  rw [ReadScope.within, Bool.and_eq_true, decide_eq_true_iff] at within
  cases wideIds : wide.accountIds with
  | none =>
      cases narrowIds : narrow.accountIds <;> simp_all [ReadScope.isVisible]
  | some allowed =>
      cases narrowIds : narrow.accountIds with
      | none => simp [wideIds, narrowIds] at within
      | some accountIds =>
          simp_all [ReadScope.isVisible]

namespace Database

/-! ## Agreement -/

/-- The rows of a table that belong to visible transactions. -/
def visibleAttached (db : Database) (scope : ReadScope) (table : AttachedTable) : List Attached :=
  (db.attached table).filter fun row =>
    row.transactionId.any (· ∈ (db.visibleTransactions scope).map Transaction.id)

/-- The databases differ only outside the scope. -/
structure Agree (scope : ReadScope) (first second : Database) : Prop where
  accounts : first.visibleAccounts scope = second.visibleAccounts scope
  transactions : first.visibleTransactions scope = second.visibleTransactions scope
  attached : ∀ table, first.visibleAttached scope table = second.visibleAttached scope table
  holdings : first.visibleHoldings scope = second.visibleHoldings scope
  taxLots : (first.visibleTaxLots scope).rows = (second.visibleTaxLots scope).rows
  securities : first.securities = second.securities
  prices : first.prices = second.prices
  credentials : first.credentials = second.credentials

theorem Agree.refl (scope : ReadScope) (db : Database) : db.Agree scope db :=
  ⟨rfl, rfl, fun _ => rfl, rfl, rfl, rfl, rfl, rfl⟩

theorem Agree.symm (agree : first.Agree scope second) : second.Agree scope first :=
  ⟨agree.accounts.symm, agree.transactions.symm, fun table => (agree.attached table).symm,
    agree.holdings.symm, agree.taxLots.symm, agree.securities.symm, agree.prices.symm,
    agree.credentials.symm⟩

theorem Agree.trans (agree : first.Agree scope second) (next : second.Agree scope third) :
    first.Agree scope third :=
  ⟨agree.accounts.trans next.accounts, agree.transactions.trans next.transactions,
    fun table => (agree.attached table).trans (next.attached table),
    agree.holdings.trans next.holdings, agree.taxLots.trans next.taxLots,
    agree.securities.trans next.securities, agree.prices.trans next.prices,
    agree.credentials.trans next.credentials⟩

theorem Agree.accountIds (agree : first.Agree scope second) :
    first.visibleAccountIds scope = second.visibleAccountIds scope := by
  rw [visibleAccountIds, visibleAccountIds, agree.accounts]

theorem Agree.isVisibleTransaction (agree : first.Agree scope second) :
    first.isVisibleTransaction scope = second.isVisibleTransaction scope := by
  funext transaction
  rw [Database.isVisibleTransaction, Database.isVisibleTransaction, agree.accountIds]

theorem mem_accountIds_of_within (within : narrow.within wide) {id : Uuid}
    (isMem : id ∈ db.visibleAccountIds narrow) : id ∈ db.visibleAccountIds wide := by
  obtain ⟨account, accountMem, rfl⟩ := List.mem_map.mp isMem
  rw [visibleAccounts, List.mem_filter] at accountMem
  apply List.mem_map_of_mem
  rw [visibleAccounts, List.mem_filter]
  exact ⟨accountMem.1, ReadScope.isVisible_of_within within accountMem.2⟩

theorem tenantId_of_within (within : narrow.within wide) : narrow.tenantId = wide.tenantId := by
  rw [ReadScope.within, Bool.and_eq_true, decide_eq_true_iff] at within
  exact within.1

theorem isVisibleTransaction_of_within (within : narrow.within wide) {transaction : Transaction}
    (isVisible : db.isVisibleTransaction narrow transaction) :
    db.isVisibleTransaction wide transaction := by
  simp only [isVisibleTransaction, Bool.and_eq_true, decide_eq_true_iff] at isVisible ⊢
  exact ⟨isVisible.1.trans (tenantId_of_within within),
    mem_accountIds_of_within within isVisible.2⟩

/-- Databases that agree within a scope agree within every narrower one. -/
theorem Agree.mono (agree : first.Agree wide second) (within : narrow.within wide) :
    first.Agree narrow second := by
  have accounts : first.visibleAccounts narrow = second.visibleAccounts narrow := by
    have narrowed : ∀ db : Database,
        (db.visibleAccounts wide).filter narrow.isVisible = db.visibleAccounts narrow :=
      fun db => filter_filter_of_imp _ fun _ _ => ReadScope.isVisible_of_within within
    rw [← narrowed first, ← narrowed second, agree.accounts]
  have accountIds : first.visibleAccountIds narrow = second.visibleAccountIds narrow := by
    rw [visibleAccountIds, visibleAccountIds, accounts]
  have sameView : first.isVisibleTransaction narrow = second.isVisibleTransaction narrow := by
    funext transaction
    rw [Database.isVisibleTransaction, Database.isVisibleTransaction, accountIds]
  have transactions : first.visibleTransactions narrow = second.visibleTransactions narrow := by
    have narrowed : ∀ db : Database,
        (db.visibleTransactions wide).filter (db.isVisibleTransaction narrow) =
          db.visibleTransactions narrow :=
      fun db => filter_filter_of_imp _ fun _ _ => isVisibleTransaction_of_within within
    rw [← narrowed first, ← narrowed second, agree.transactions, sameView]
  apply Agree.mk accounts transactions _ _ _ agree.securities agree.prices agree.credentials
  · intro table
    have narrowed : ∀ db : Database,
        (db.visibleAttached wide table).filter (fun row =>
            row.transactionId.any (· ∈ (db.visibleTransactions narrow).map Transaction.id)) =
          db.visibleAttached narrow table := by
      intro db
      apply filter_filter_of_imp
      intro row _ isVisible
      simp only [Option.any_eq_true, decide_eq_true_eq] at isVisible ⊢
      obtain ⟨id, isId, idMem⟩ := isVisible
      obtain ⟨transaction, transactionMem, rfl⟩ := List.mem_map.mp idMem
      rw [visibleTransactions, List.mem_filter] at transactionMem
      apply Exists.intro transaction.id
      apply And.intro isId
      apply List.mem_map_of_mem
      rw [visibleTransactions, List.mem_filter]
      exact ⟨transactionMem.1, isVisibleTransaction_of_within within transactionMem.2⟩
    rw [← narrowed first, ← narrowed second, agree.attached, transactions]
  · have narrowed : ∀ db : Database,
        (db.visibleHoldings wide).filter (fun holding =>
            holding.tenantId = narrow.tenantId &&
              holding.accountId ∈ db.visibleAccountIds narrow) =
          db.visibleHoldings narrow := by
      intro db
      apply filter_filter_of_imp
      intro holding _ isVisible
      simp only [Bool.and_eq_true, decide_eq_true_iff] at isVisible ⊢
      exact ⟨isVisible.1.trans (tenantId_of_within within),
        mem_accountIds_of_within within isVisible.2⟩
    rw [← narrowed first, ← narrowed second, agree.holdings, accountIds]
  · have narrowed : ∀ db : Database,
        ((db.visibleTaxLots wide).rows).filter (fun lot =>
            lot.accountId ∈ db.visibleAccountIds narrow) =
          (db.visibleTaxLots narrow).rows := by
      intro db
      rw [visibleTaxLots, visibleTaxLots, tenantId_of_within within]
      apply filter_filter_of_imp
      intro lot _ isVisible
      simp only [decide_eq_true_iff] at isVisible ⊢
      exact mem_accountIds_of_within within isVisible
    rw [← narrowed first, ← narrowed second, agree.taxLots, accountIds]

/-! ## Reads -/

theorem Agree.portfolio (agree : first.Agree scope second) :
    first.getPortfolio scope = second.getPortfolio scope := by
  have breakdown : first.holdingBreakdown = second.holdingBreakdown := by
    funext holding
    simp only [holdingBreakdown, latestDailyPrice, agree.securities, agree.prices]
  have account : first.accountBreakdown scope = second.accountBreakdown scope := by
    funext holdings accountId
    simp only [accountBreakdown, agree.accounts, breakdown]
  simp only [getPortfolio, latestHoldings, agree.holdings, account]

/-- Reads within a scope answer the same on databases that agree. -/
theorem Agree.read (agree : first.Agree scope second) (now : Instant) (request : ReadRequest) :
    first.read scope now request = second.read scope now request := by
  cases request with
  | listTaxLots query => simp only [Database.read, listTaxLots, agree.taxLots]
  | taxLotSummary accountId securityId =>
      simp only [Database.read, Database.taxLotSummary, TaxLots.getTaxLotSummary, agree.taxLots]
  | getPortfolio => simp only [Database.read, agree.portfolio]
  | getPortfolioHistory query =>
      simp only [Database.read, getPortfolioHistory, agree.holdings]
  | getCashflow dateFrom dateTo accountId =>
      simp only [Database.read, getCashflow, bookedTransactions, agree.transactions]
  | getCashflowHistory query =>
      simp only [Database.read, getCashflowHistory, bookedTransactions, agree.transactions]

/-- So does what goes into a prompt. -/
theorem Agree.financialData (agree : first.Agree scope second) (now : Instant)
    (timePeriodDays : Nat) :
    first.collectFinancialData scope now timePeriodDays =
      second.collectFinancialData scope now timePeriodDays := by
  simp only [collectFinancialData, getNetWorth, listAccounts, listAccountTransactions,
    agree.portfolio, agree.accounts, agree.transactions]

end Database

end FinanceSync.Visibility
