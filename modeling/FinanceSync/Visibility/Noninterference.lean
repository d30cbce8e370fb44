import FinanceSync.Visibility.Confinement

/-!
# Requests seen from a scope

Every request keeps two processes in agreement that differ only outside a scope.  A
request of a principal with that scope is answered alike by both, and changes
nothing outside, if it reaches nothing outside.
-/

namespace FinanceSync.Visibility

open Lib Auth

variable {scope : ReadScope} {db first second : Database} {transaction : Transaction}

namespace Database

/-! ## Writes -/

/-- The database after a write, which a refused one leaves as it was. -/
def after (db : Database) : Except RequestError (Database × WriteReply) → Database
  | .ok written => written.1
  | .error _ => db

variable {tenantId transactionId : Uuid} {writer : Writer} {request : WriteRequest}

theorem write_of_some (found : request.find db tenantId transactionId = some transaction) :
    db.write tenantId transactionId writer request = (do
      let handler ← request.handler writer
      let write ← handler transaction (db.attachedTo transaction)
      return (db.commit transaction write, write.reply)) := by
  rw [write, found]
  rfl

/-- What a write did: nothing, or it was committed for the transaction that was
found. -/
theorem after_write_cases (db : Database) (tenantId transactionId : Uuid) (writer : Writer)
    (request : WriteRequest) :
    db.after (db.write tenantId transactionId writer request) = db ∨
      ∃ transaction, request.find db tenantId transactionId = some transaction ∧
        ∃ write : Write transaction,
          db.after (db.write tenantId transactionId writer request) =
            db.commit transaction write := by
  cases found : request.find db tenantId transactionId with
  | none =>
      left
      rw [write, found]
      cases request.handler writer <;> rfl
  | some transaction =>
      rw [write_of_some found]
      cases request.handler writer with
      | error error => exact .inl rfl
      | ok handler =>
          cases handled : handler transaction (db.attachedTo transaction) with
          | error error =>
              left
              simp only [bind, Except.bind, handled]
              rfl
          | ok write =>
              right
              apply Exists.intro transaction
              apply And.intro rfl
              apply Exists.intro write
              simp only [bind, Except.bind, handled]
              rfl

/-- A write that finds nothing within the scope cannot be seen there. -/
theorem agree_after_write
    (unseen : ∀ found, request.find db tenantId transactionId = some found →
      db.isVisibleTransaction scope found = false) :
    db.Agree scope (db.after (db.write tenantId transactionId writer request)) := by
  rcases after_write_cases db tenantId transactionId writer request with
    same | ⟨found, isFound, write, same⟩
  · rw [same]
    exact Agree.refl scope db
  · rw [same]
    exact agree_commit_hidden write (find_stored request isFound).1 (unseen found isFound)

/-- A write for a transaction that both databases find and show is the same write. -/
theorem Agree.write (agree : first.Agree scope second)
    (firstFound : request.find first tenantId transactionId = some transaction)
    (secondFound : request.find second tenantId transactionId = some transaction)
    (isVisible : first.isVisibleTransaction scope transaction) :
    (first.after (first.write tenantId transactionId writer request)).Agree scope
        (second.after (second.write tenantId transactionId writer request)) ∧
      (first.write tenantId transactionId writer request).map Prod.snd =
        (second.write tenantId transactionId writer request).map Prod.snd := by
  have stored := (find_stored request firstFound).1
  rw [write_of_some firstFound, write_of_some secondFound, agree.attachedTo stored isVisible]
  cases request.handler writer with
  | error error => exact ⟨agree, rfl⟩
  | ok handler =>
      simp only [bind, Except.bind]
      cases handler transaction (second.attachedTo transaction) with
      | error error => exact ⟨agree, rfl⟩
      | ok write => exact ⟨agree.commit write stored (find_stored request secondFound).1, rfl⟩

/-- Databases that agree still do after the same request to write. -/
theorem Agree.after_write (agree : first.Agree scope second) :
    (first.after (first.write tenantId transactionId writer request)).Agree scope
      (second.after (second.write tenantId transactionId writer request)) := by
  by_cases shown : ∃ found, request.find first tenantId transactionId = some found ∧
      first.isVisibleTransaction scope found
  · obtain ⟨found, firstFound, isVisible⟩ := shown
    exact (agree.write firstFound (agree.find request firstFound isVisible) isVisible).1
  · have firstUnseen : ∀ found, request.find first tenantId transactionId = some found →
        first.isVisibleTransaction scope found = false := by
      intro found isFound
      rw [Bool.eq_false_iff]
      intro isVisible
      exact shown ⟨found, isFound, isVisible⟩
    have secondUnseen : ∀ found, request.find second tenantId transactionId = some found →
        second.isVisibleTransaction scope found = false := by
      intro found isFound
      rw [Bool.eq_false_iff]
      intro isVisible
      apply shown
      have isFoundFirst := agree.symm.find request isFound isVisible
      rw [← agree.isVisibleTransaction] at isVisible
      exact ⟨found, isFoundFirst, isVisible⟩
    exact ((agree_after_write firstUnseen).symm.trans agree).trans (agree_after_write secondUnseen)

/-- A request that names nothing outside the scope is answered alike. -/
theorem Agree.write_reply (agree : first.Agree scope second)
    (firstShown : first.hides scope (request.find first tenantId transactionId) = false)
    (secondShown : second.hides scope (request.find second tenantId transactionId) = false) :
    (first.write tenantId transactionId writer request).map Prod.snd =
      (second.write tenantId transactionId writer request).map Prod.snd := by
  have same := agree.find_eq request firstShown secondShown
  cases found : request.find first tenantId transactionId with
  | some transaction =>
      rw [found, hides, Option.any_some, Bool.not_eq_false'] at firstShown
      exact (agree.write found (same ▸ found) firstShown).2
  | none =>
      rw [Database.write, Database.write, ← same, found]
      cases request.handler writer <;> rfl

/-- A request that names nothing outside the scope changes nothing there. -/
theorem untouched_after_write
    (shown : db.hides scope (request.find db tenantId transactionId) = false) :
    db.Untouched scope (db.after (db.write tenantId transactionId writer request)) := by
  rcases after_write_cases db tenantId transactionId writer request with
    same | ⟨found, isFound, write, same⟩
  · rw [same]
    exact Untouched.refl scope db
  · rw [same]
    rw [isFound, hides, Option.any_some, Bool.not_eq_false'] at shown
    exact untouched_commit write (find_stored request isFound).1 shown

/-! ## Reads of one transaction, and the queue -/

theorem Agree.spendingDetail (agree : first.Agree scope second)
    (firstShown : first.hides scope (first.loadTransaction tenantId transactionId) = false)
    (secondShown : second.hides scope (second.loadTransaction tenantId transactionId) = false) :
    first.spendingDetail tenantId transactionId = second.spendingDetail tenantId transactionId := by
  -- the transaction is looked for as writes look for it
  have same : first.loadTransaction tenantId transactionId =
      second.loadTransaction tenantId transactionId :=
    agree.find_eq .tombstoneSpendingTransaction firstShown secondShown
  rw [Database.spendingDetail, Database.spendingDetail, ← same]
  cases found : first.loadTransaction tenantId transactionId with
  | none => rfl
  | some transaction =>
      have stored := find_stored .tombstoneSpendingTransaction found
      rw [found, hides, Option.any_some, Bool.not_eq_false'] at firstShown
      simp only [agree.attachedTo stored.1 firstShown]

/-- The rows that the queue looks at are those of the visible transactions, if they
all are visible. -/
theorem reviewRows_eq {limit : Nat}
    (shown : ∀ row ∈ db.reviewRows tenantId limit, db.isVisibleTransaction scope row) :
    db.reviewRows tenantId limit =
      ((OrderBy.stable reviewKey).sort
        ((db.visibleTransactions scope).filter fun transaction =>
          db.isBankTransaction tenantId transaction &&
            transaction.classificationOverride.isNone &&
            transaction.tombstonedAt.isNone)).take (limit * 10) := by
  rw [reviewRows, ← take_filter_of_forall _ shown, OrderBy.filter_stable, visibleTransactions,
    List.filter_comm]

theorem Agree.reviewRows (agree : first.Agree scope second) {limit : Nat}
    (firstShown : ∀ row ∈ first.reviewRows tenantId limit, first.isVisibleTransaction scope row)
    (secondShown : ∀ row ∈ second.reviewRows tenantId limit,
      second.isVisibleTransaction scope row) :
    first.reviewRows tenantId limit = second.reviewRows tenantId limit := by
  rw [reviewRows_eq firstShown, reviewRows_eq secondShown, ← agree.transactions]
  congr 2
  apply List.filter_congr
  intro row isMem
  rw [agree.isBankTransaction (List.mem_filter.mp isMem).2]

theorem Agree.otherItem (agree : first.Agree scope second)
    (isVisible : first.isVisibleTransaction scope transaction) :
    first.otherItem tenantId transaction = second.otherItem tenantId transaction := by
  have fallback : first.accountCategoryFallback tenantId transaction.accountId =
      second.accountCategoryFallback tenantId transaction.accountId := by
    rw [accountCategoryFallback, accountCategoryFallback, agree.credentials,
      agree.find_account isVisible]
    intro account isFound
    simp only [Bool.and_eq_true, decide_eq_true_eq] at isFound
    exact isFound.1.1
  rw [Database.otherItem, Database.otherItem, agree.bankAccount isVisible, fallback]

theorem Agree.reviewQueue (agree : first.Agree scope second) {limit : Nat}
    (firstShown : ∀ row ∈ first.reviewRows tenantId limit, first.isVisibleTransaction scope row)
    (secondShown : ∀ row ∈ second.reviewRows tenantId limit,
      second.isVisibleTransaction scope row) :
    first.listBunqOtherTransactions tenantId limit =
      second.listBunqOtherTransactions tenantId limit := by
  rw [listBunqOtherTransactions, listBunqOtherTransactions,
    ← agree.reviewRows firstShown secondShown]
  congr 1
  apply List.filterMap_congr
  intro row isMem
  exact agree.otherItem (firstShown row isMem)

end Database

/-! ## The cache -/

/-- Entries that were made for one scope at one time, and are the same if that
scope is within the given one. -/
structure CacheEntry.Agree (scope : ReadScope) (first second : CacheEntry) : Prop where
  expiresAt : first.expiresAt = second.expiresAt
  madeWithin : first.scope = second.scope
  value : first.scope.within scope → first.value = second.value

def CachesAgree (scope : ReadScope) (first second : Cache) : Prop :=
  ∀ key, Option.Rel (CacheEntry.Agree scope) (first key) (second key)

/-- What is cached for a request, if it is still to be served, was made within the
scope. -/
def servesWithin (scope : ReadScope) (cache : Cache) (tenantId : Uuid) (now : Instant)
    (request : AIRequest) : Bool :=
  request.forceRefresh ||
    (cache (request.cacheKey tenantId now)).all fun entry =>
      entry.expiresAt < now || entry.scope.within scope

section Caches

variable {firstCache secondCache : Cache} {settings : Settings} {llm : LanguageModel}
variable {now : Instant} {outage : Option RequestError}

theorem CachesAgree.update (agree : CachesAgree scope firstCache secondCache) (key : CacheKey)
    {firstEntry secondEntry : Option CacheEntry}
    (entries : Option.Rel (CacheEntry.Agree scope) firstEntry secondEntry) :
    CachesAgree scope (Function.update firstCache key firstEntry)
      (Function.update secondCache key secondEntry) := by
  intro other
  rw [Function.update_apply, Function.update_apply]
  split
  · exact entries
  · exact agree other

/-- Lookups hit and miss alike, and what they find is the same if it was made within
the scope. -/
theorem CachesAgree.lookUp (agree : CachesAgree scope firstCache secondCache) (tenantId : Uuid)
    (now : Instant) (request : AIRequest) :
    CachesAgree scope (lookUp firstCache tenantId now request).2
        (lookUp secondCache tenantId now request).2 ∧
      (lookUp firstCache tenantId now request).1.isSome =
        (lookUp secondCache tenantId now request).1.isSome ∧
      (servesWithin scope firstCache tenantId now request →
        (lookUp firstCache tenantId now request).1 =
          (lookUp secondCache tenantId now request).1) := by
  rw [Visibility.lookUp, Visibility.lookUp, servesWithin]
  cases request.forceRefresh with
  | true => exact ⟨agree, rfl, fun _ => rfl⟩
  | false =>
      have entries := agree (request.cacheKey tenantId now)
      simp only [Bool.false_eq_true, if_false, Bool.false_or, cacheGet]
      cases firstCached : firstCache (request.cacheKey tenantId now) with
      | none =>
          cases secondCached : secondCache (request.cacheKey tenantId now) with
          | none => exact ⟨agree, rfl, fun _ => rfl⟩
          | some secondEntry =>
              rw [firstCached, secondCached] at entries
              cases entries
      | some firstEntry =>
          cases secondCached : secondCache (request.cacheKey tenantId now) with
          | none =>
              rw [firstCached, secondCached] at entries
              cases entries
          | some secondEntry =>
              rw [firstCached, secondCached] at entries
              have entry : CacheEntry.Agree scope firstEntry secondEntry := by
                cases entries with
                | some entry => exact entry
              simp only [← entry.expiresAt, Option.all_some]
              by_cases expired : firstEntry.expiresAt < now
              · rw [if_pos expired, if_pos expired]
                exact ⟨agree.update _ .none, rfl, fun _ => rfl⟩
              · rw [if_neg expired, if_neg expired, decide_eq_false expired, Bool.false_or]
                exact ⟨agree, rfl, fun within => congrArg some (entry.value within)⟩

/-- The language model is asked alike for data that is alike. -/
theorem Database.Agree.generateFresh_eq (agree : first.Agree scope second) (request : AIRequest) :
    (generateFresh settings llm first firstCache scope now outage request).2 =
      (generateFresh settings llm second secondCache scope now outage request).2 := by
  simp only [generateFresh, agree.financialData]
  split <;> rfl

theorem Database.Agree.generateFresh (agree : first.Agree scope second)
    (caches : CachesAgree scope firstCache secondCache) (reader : ReadScope)
    (request : AIRequest) :
    CachesAgree scope
      (generateFresh settings llm first firstCache reader now outage request).1
      (generateFresh settings llm second secondCache reader now outage request).1 := by
  simp only [Visibility.generateFresh, callLlm]
  cases (llmRefusal settings).or outage with
  | some error => exact caches
  | none =>
      apply caches.update
      apply Option.Rel.some
      refine ⟨rfl, rfl, ?_⟩
      intro within
      simp only [(agree.mono within).financialData]

/-- Caches that agree still do after the same request, whoever makes it. -/
theorem Database.Agree.generate (agree : first.Agree scope second)
    (caches : CachesAgree scope firstCache secondCache) (reader : ReadScope)
    (request : AIRequest) :
    CachesAgree scope (generate settings llm first firstCache reader now outage request).1
      (generate settings llm second secondCache reader now outage request).1 := by
  have looked := caches.lookUp reader.tenantId now request
  simp only [Visibility.generate]
  cases firstFound : lookUp firstCache reader.tenantId now request with
  | mk firstValue firstCache =>
      cases secondFound : lookUp secondCache reader.tenantId now request with
      | mk secondValue secondCache =>
          simp only [firstFound, secondFound] at looked
          cases firstValue with
          | some firstValue =>
              cases secondValue with
              | some secondValue => exact looked.1
              | none => cases looked.2.1
          | none =>
              cases secondValue with
              | some secondValue => cases looked.2.1
              | none => exact agree.generateFresh looked.1 reader request

/-- A request within the scope is answered alike, where what the cache serves was
made within the scope. -/
theorem Database.Agree.generate_eq (agree : first.Agree scope second)
    (caches : CachesAgree scope firstCache secondCache) {request : AIRequest}
    (serves : servesWithin scope firstCache scope.tenantId now request) :
    (Visibility.generate settings llm first firstCache scope now outage request).2 =
      (Visibility.generate settings llm second secondCache scope now outage request).2 := by
  have looked := (caches.lookUp scope.tenantId now request).2.2 serves
  simp only [Visibility.generate]
  cases firstFound : lookUp firstCache scope.tenantId now request with
  | mk firstValue firstCache =>
      cases secondFound : lookUp secondCache scope.tenantId now request with
      | mk secondValue secondCache =>
          simp only [firstFound, secondFound] at looked
          cases looked
          cases firstValue with
          | some value => rfl
          | none => exact agree.generateFresh_eq request

end Caches

/-! ## Requests -/

namespace Process

variable {settings : Settings} {llm : LanguageModel} {process before other : Process} {call : Call}

/-- The processes differ only outside the scope. -/
structure Agree (scope : ReadScope) (before other : Process) : Prop where
  db : before.db.Agree scope other.db
  cache : CachesAgree scope before.cache other.cache

theorem agree_start (agree : first.Agree scope second) :
    (start first).Agree scope (start second) :=
  ⟨agree, fun _ => .none⟩

/-- The request reaches nothing outside the scope: it is refused, it names no
transaction outside, the queue looks at none, and no summary that was made within
another scope is served to it. -/
def staysWithin (settings : Settings) (scope : ReadScope) (process : Process) (call : Call) :
    Bool :=
  let tenantId := call.principal.tenantId
  !(call.guard settings).isOk ||
    match call.request with
    | .write transactionId request =>
        !(request.handler call.writer).isOk ||
          !process.db.hides scope (request.find process.db tenantId transactionId)
    | .spendingDetail transactionId =>
        !process.db.hides scope (process.db.loadTransaction tenantId transactionId)
    | .listBunqOtherTransactions limit =>
        (process.db.reviewRows tenantId limit).all (process.db.isVisibleTransaction scope)
    | .read _ => true
    | .ai request => servesWithin scope process.cache tenantId call.now request

theorem handle_write {transactionId : Uuid} {request : WriteRequest}
    (isWrite : call.request = .write transactionId request) :
    process.handle settings llm call =
      let result := process.db.write call.principal.tenantId transactionId call.writer request
      ({ process with db := process.db.after result },
        (result.map Prod.snd).map .written) := by
  rw [handle, isWrite]
  cases result : process.db.write call.principal.tenantId transactionId call.writer request with
  | error error => simp [result, Database.after, Except.map]
  | ok written => simp [result, Database.after, Except.map]

theorem handle_ai {request : AIRequest} (isAI : call.request = .ai request) :
    process.handle settings llm call =
      let result := generate settings llm process.db process.cache
        (getReadScope call.principal) call.now call.outage request
      ({ process with cache := result.1 }, result.2.map .generated) := by
  rw [handle, isAI]

/-- Requests keep processes in agreement, whoever makes them. -/
theorem Agree.serve (agree : before.Agree scope other) (call : Call) :
    (before.serve settings llm call).1.Agree scope (other.serve settings llm call).1 := by
  rw [Process.serve, Process.serve]
  cases call.guard settings with
  | error error => exact agree
  | ok auth =>
      cases isRequest : call.request with
      | write transactionId request =>
          simp only [handle_write isRequest]
          exact ⟨agree.db.after_write, agree.cache⟩
      | ai request =>
          simp only [handle_ai isRequest]
          exact ⟨agree.db, agree.db.generate agree.cache _ request⟩
      | _ =>
          simp only [handle, isRequest]
          exact agree

/-- A request within the scope that reaches nothing outside it is answered alike. -/
theorem Agree.serve_alike (agree : before.Agree scope other)
    (isReader : getReadScope call.principal = scope)
    (beforeWithin : before.staysWithin settings scope call)
    (otherWithin : other.staysWithin settings scope call) :
    (before.serve settings llm call).2 = (other.serve settings llm call).2 := by
  rw [Process.serve, Process.serve]
  cases guarded : call.guard settings with
  | error error => rfl
  | ok auth =>
      simp only [staysWithin, guarded, Except.isOk, Except.toBool, Bool.not_true,
        Bool.false_or] at beforeWithin otherWithin
      cases isRequest : call.request with
      | write transactionId request =>
          simp only [isRequest] at beforeWithin otherWithin
          simp only [handle_write isRequest]
          cases handled : request.handler call.writer with
          | error error => simp [Database.write, handled, bind, Except.bind]
          | ok handler =>
              simp only [handled, Bool.not_true, Bool.false_or, Bool.not_eq_true'] at beforeWithin
              simp only [handled, Bool.not_true, Bool.false_or, Bool.not_eq_true'] at otherWithin
              rw [agree.db.write_reply beforeWithin otherWithin]
      | spendingDetail transactionId =>
          simp only [isRequest, Bool.not_eq_true'] at beforeWithin otherWithin
          simp only [handle, isRequest, agree.db.spendingDetail beforeWithin otherWithin]
      | listBunqOtherTransactions limit =>
          simp only [isRequest, List.all_eq_true] at beforeWithin otherWithin
          simp only [handle, isRequest, agree.db.reviewQueue beforeWithin otherWithin]
      | read request =>
          simp only [handle, isRequest, isReader, agree.db.read]
      | ai request =>
          simp only [isRequest, ← tenantId_getReadScope, isReader] at beforeWithin
          simp only [handle_ai isRequest, isReader, agree.db.generate_eq agree.cache beforeWithin]

/-- A request that reaches nothing outside the scope changes nothing there. -/
theorem serve_untouched (within : process.staysWithin settings scope call) :
    process.db.Untouched scope (process.serve settings llm call).1.db := by
  rw [serve]
  cases guarded : call.guard settings with
  | error error => exact Database.Untouched.refl scope process.db
  | ok auth =>
      simp only [staysWithin, guarded, Except.isOk, Except.toBool, Bool.not_true,
        Bool.false_or] at within
      cases isRequest : call.request with
      | write transactionId request =>
          simp only [isRequest] at within
          simp only [handle_write isRequest]
          cases handled : request.handler call.writer with
          | error error =>
              simp only [Database.write, handled, bind, Except.bind]
              exact Database.Untouched.refl scope process.db
          | ok handler =>
              simp only [handled, Bool.not_true, Bool.false_or, Bool.not_eq_true'] at within
              exact Database.untouched_after_write within
      | ai request =>
          simp only [handle_ai isRequest]
          exact Database.Untouched.refl scope process.db
      | _ =>
          simp only [handle, isRequest]
          exact Database.Untouched.refl scope process.db

end Process

end FinanceSync.Visibility
