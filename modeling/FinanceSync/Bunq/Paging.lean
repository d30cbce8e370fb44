import FinanceSync.Bunq.Payments
import FinanceSync.Lib.FirstByKey
import FinanceSync.Lib.PageChains

/-!
# Pages of payments

The first page of an account's payments is requested by a path and each further one by the
absolute address that the page before it names.  A page that comes back under another name
is read a second time.
-/

namespace FinanceSync.Bunq

open Lib

variable (runtime : Runtime)

/-! ## The loop -/

/-- The part of an answer that leads on; an empty object counts as none. -/
structure Pagination where
  futureUrl : Option String := none

/-- An answer: its entries, of which some are no payments, and what leads on. -/
structure PageData where
  response : List (Option PaymentData) := []
  pagination : Option Pagination := none
  paginatedResponse : Option Pagination := none

structure Session where
  baseUrl : String
  userId : String

/-- What the client gets for an address, which it completes with the base URL. -/
structure Server (Page : Type) where
  pageAt : String → Page
  data : Page → PageData

def isAbsolute (url : String) : Bool :=
  "http://".toList.isPrefixOf url.toList || "https://".toList.isPrefixOf url.toList

/-- `text.removeprefix(start)` -/
def removePrefix (start text : String) : String :=
  if start.toList.isPrefixOf text.toList then
    String.ofList (text.toList.drop start.toList.length)
  else text

/-- Extract the next-page URL from a paginated response. -/
def nextPageUrl (session : Session) (data : PageData) : Option String :=
  match ((data.pagination.or data.paginatedResponse).bind Pagination.futureUrl).filter (· ≠ "") with
  | none => none
  | some futureUrl =>
      if isAbsolute futureUrl then some futureUrl
      else some (session.baseUrl ++ removePrefix "/v1" futureUrl)

def defaultCount : Nat := 200

/-- The address of the first page. -/
def firstUrl (session : Session) (accountId : String) : String :=
  "/user/" ++ session.userId ++ "/monetary-account/" ++ accountId ++ "/payment?count=" ++
    toString defaultCount

/-- `limit and len(items) >= limit` -/
def isReached {Item : Type} (limit : Option Nat) (items : List Item) : Bool :=
  (limit.filter fun limit => limit ≠ 0 ∧ limit ≤ items.length).isSome

/-- The items after the entries of a page: those to return, or those to go on with. -/
inductive Progress
  | returned (items : List RawTransaction)
  | going (items : List RawTransaction)

def readEntries (accountId : String) (since : Instant) (limit : Option Nat)
    (items : List RawTransaction) : List (Option PaymentData) → Progress
  | [] => .going items
  | none :: rest => readEntries accountId since limit items rest
  | some payment :: rest =>
      let txn := parsePayment runtime accountId payment
      if since ≤ txn.occurredAt then
        if isReached limit (items ++ [txn]) then .returned (items ++ [txn])
        else readEntries accountId since limit (items ++ [txn]) rest
      else readEntries accountId since limit items rest

/-- What a fetch returns, and the addresses that it has requested. -/
structure Fetched where
  items : List RawTransaction
  requested : List String

/-- The loop of `_fetch_account_payments`.  No result means that the steps did not
suffice. -/
def fetchPages {Page : Type} (session : Session) (server : Server Page) (accountId : String)
    (since : Instant) (limit : Option Nat) :
    Nat → List String → Option String → List RawTransaction → Option Fetched
  | 0, _, _, _ => none
  | steps + 1, seenUrls, url, items =>
      match url.filter (· ≠ "") with
      | none => some ⟨items, seenUrls⟩
      | some url =>
          if url ∈ seenUrls then some ⟨items, seenUrls⟩
          else
            let data := server.data (server.pageAt url)
            match readEntries runtime accountId since limit items data.response with
            | .returned items => some ⟨items, seenUrls ++ [url]⟩
            | .going items =>
                fetchPages session server accountId since limit steps (seenUrls ++ [url])
                  (nextPageUrl session data) items

def fetchAccountPayments {Page : Type} (session : Session) (server : Server Page)
    (accountId : String) (since : Instant) (limit : Option Nat) (steps : Nat) : Option Fetched :=
  fetchPages runtime session server accountId since limit steps []
    (some (firstUrl session accountId)) []

/-- The loop of `fetch_transactions` over accounts. -/
def fetchTransactions {Page : Type} (session : Session) (server : Server Page)
    (since : Instant) (limit : Option Nat) (steps : Nat) :
    List String → List RawTransaction → Option (List RawTransaction)
  | [], txns => some txns
  | accountId :: rest, txns =>
      match fetchAccountPayments runtime session server accountId since limit steps with
      | none => none
      | some fetched =>
          match limit.filter fun limit => limit ≠ 0 ∧ limit ≤ (txns ++ fetched.items).length with
          | some limit => some ((txns ++ fetched.items).take limit)
          | none => fetchTransactions session server since limit steps rest (txns ++ fetched.items)

/-! ## The limit -/

section Limit

variable {Item : Type} {limit : Option Nat}

/-- The first items, where there is a limit. -/
def limited (limit : Option Nat) (items : List Item) : List Item :=
  match limit.filter (· ≠ 0) with
  | none => items
  | some limit => items.take limit

theorem isReached_iff {items : List Item} :
    isReached limit items ↔ ∃ count, limit = some count ∧ count ≠ 0 ∧ count ≤ items.length := by
  cases limit with
  | none => simp [isReached]
  | some count => simp [isReached, Option.filter_some]

theorem isReached_mono {fewer more : List Item} (isPrefix : fewer <+: more)
    (reached : isReached limit fewer) : isReached limit more := by
  rw [isReached_iff] at reached ⊢
  rcases reached with ⟨count, rfl, notZero, le⟩
  exact ⟨count, rfl, notZero, le.trans isPrefix.length_le⟩

theorem prefix_limited (items : List Item) : limited limit items <+: items := by
  rw [limited]
  split
  · exact List.prefix_rfl
  · exact List.take_prefix _ _

theorem limited_of_not_reached {items : List Item} (notReached : ¬ isReached limit items) :
    limited limit items = items := by
  rw [isReached_iff] at notReached
  rw [limited]
  split
  · rfl
  · next count isCount =>
      rw [Option.filter_eq_some_iff] at isCount
      rw [List.take_of_length_le]
      by_contra longer
      exact notReached ⟨count, isCount.1, by simpa using isCount.2, by omega⟩

theorem limited_append {items : List Item} (reached : isReached limit items) (more : List Item) :
    limited limit (items ++ more) = limited limit items := by
  rcases isReached_iff.mp reached with ⟨count, rfl, notZero, le⟩
  have isLimit : (some count).filter (· ≠ 0) = some count := by simp [notZero]
  rw [limited, limited, isLimit]
  exact List.take_append_of_le_length le

/-- The item that reaches the limit is the last of the first ones. -/
theorem limited_of_reached_last {items : List Item} {item : Item}
    (notReached : ¬ isReached limit items) (reached : isReached limit (items ++ [item])) :
    limited limit (items ++ [item]) = items ++ [item] := by
  rcases isReached_iff.mp reached with ⟨count, rfl, notZero, le⟩
  have isLimit : (some count).filter (· ≠ 0) = some count := by simp [notZero]
  have longer : items.length < count := by
    by_contra enough
    exact notReached (isReached_iff.mpr ⟨count, rfl, notZero, by omega⟩)
  rw [limited, isLimit]
  apply List.take_of_length_le
  rw [List.length_append, List.length_singleton]
  exact longer

theorem isReached_limited {items : List Item} (reached : isReached limit items) :
    isReached limit (limited limit items) := by
  rcases isReached_iff.mp reached with ⟨count, rfl, notZero, le⟩
  have isLimit : (some count).filter (· ≠ 0) = some count := by simp [notZero]
  rw [isReached_iff, limited, isLimit]
  exact ⟨count, rfl, notZero, by rw [List.length_take, min_eq_left le]⟩

theorem limited_limited (limit : Option Nat) (items : List Item) :
    limited limit (limited limit items) = limited limit items := by
  rw [limited, limited]
  split
  · rfl
  · rw [List.take_take, min_self]

/-- The first of fewer items are among the first of more. -/
theorem limited_prefix_limited {fewer more : List Item} (isPrefix : fewer <+: more) :
    limited limit fewer <+: limited limit more := by
  rw [limited, limited]
  split
  · exact isPrefix
  · exact isPrefix.take _

/-- The first items have different keys exactly if leaving out repeated keys beforehand
makes no difference. -/
theorem limited_firsts_iff {Key : Type} [DecidableEq Key] (key : Item → Key)
    (limit : Option Nat) (items : List Item) :
    limited limit items = limited limit (firsts key items) ↔
      ((limited limit items).map key).Nodup := by
  constructor
  · intro same
    rw [same]
    exact (nodup_keys_firsts key items).sublist ((prefix_limited _).sublist.map key)
  · intro nodup
    have isPrefix : limited limit items <+: items := prefix_limited items
    rcases isPrefix with ⟨rest, whole⟩
    by_cases reached : isReached limit (limited limit items)
    · have inFront := prefix_keepFirst key nodup (fun _ _ => List.not_mem_nil) rest
      rw [whole] at inFront
      rcases inFront with ⟨later, isFirsts⟩
      have same := limited_append reached rest
      rw [whole] at same
      rw [firsts, ← isFirsts, limited_append reached]
      exact same
    · have all : limited limit items = items :=
        limited_of_not_reached fun wholeReached => reached (isReached_limited wholeReached)
      rw [all] at nodup
      rw [firsts, keepFirst_of_nodup key nodup]
      simp

end Limit

/-! ## What is requested -/

section Run

variable {runtime : Runtime} {Page : Type} {session : Session} {server : Server Page}
  {accountId : String} {since : Instant} {limit : Option Nat}

/-- The addresses of an account's pages, each named by the page before it. -/
def urls (session : Session) (server : Server Page) (accountId : String) : Chain String Page where
  first := firstUrl session accountId
  pageOf := server.pageAt
  next page := (nextPageUrl session (server.data page)).filter (· ≠ "")

/-- The records of payments that are recent enough. -/
def recent (runtime : Runtime) (accountId : String) (since : Instant)
    (entries : List (Option PaymentData)) : List RawTransaction :=
  ((entries.filterMap id).map (parsePayment runtime accountId)).filter fun txn =>
    since ≤ txn.occurredAt

/-- What is wanted of pages. -/
def wanted (runtime : Runtime) (server : Server Page) (accountId : String) (since : Instant)
    (pages : List Page) : List RawTransaction :=
  pages.flatMap fun page => recent runtime accountId since (server.data page).response

theorem prefix_wanted {fewer more : List Page} (isPrefix : fewer <+: more) :
    wanted runtime server accountId since fewer <+: wanted runtime server accountId since more := by
  rcases isPrefix with ⟨rest, rfl⟩
  exact ⟨wanted runtime server accountId since rest, (List.flatMap_append ..).symm⟩

/-- The entries of a page are read to the limit. -/
theorem readEntries_eq {items : List RawTransaction} (notReached : ¬ isReached limit items)
    (entries : List (Option PaymentData)) :
    readEntries runtime accountId since limit items entries =
      let all := items ++ recent runtime accountId since entries
      if isReached limit all then .returned (limited limit all) else .going all := by
  induction entries generalizing items with
  | nil => simp [readEntries, recent, notReached]
  | cons entry rest ih =>
      cases entry with
      | none => exact ih notReached
      | some payment =>
          by_cases isRecent : since ≤ (parsePayment runtime accountId payment).occurredAt
          · have first : recent runtime accountId since (some payment :: rest) =
                parsePayment runtime accountId payment ::
                  recent runtime accountId since rest := by
              simp [recent, isRecent]
            rw [first, List.append_cons]
            simp only [readEntries, if_pos isRecent]
            by_cases reached : isReached limit (items ++ [parsePayment runtime accountId payment])
            · rw [if_pos reached, if_pos (isReached_mono (List.prefix_append _ _) reached),
                limited_append reached, limited_of_reached_last notReached reached]
            · rw [if_neg reached]
              exact ih reached
          · have first : recent runtime accountId since (some payment :: rest) =
                recent runtime accountId since rest := by
              simp [recent, isRecent]
            rw [first]
            simp only [readEntries, if_neg isRecent]
            exact ih notReached

/-- The addresses are distinct names of the first pages up to the end or the limit, and the
items are what is wanted of these pages. -/
structure Fetches (runtime : Runtime) (session : Session) (server : Server Page)
    (accountId : String) (since : Instant) (limit : Option Nat) (fetched : Fetched) : Prop where
  trail : ∃ name, (urls session server accountId).IsTrail fetched.requested name ∧
    (Chain.IsTrail.Ended fetched.requested name ∨
      isReached limit (wanted runtime server accountId since
        ((urls session server accountId).pages fetched.requested.length)))
  goes : ∀ count < fetched.requested.length,
    ¬ isReached limit (wanted runtime server accountId since
      ((urls session server accountId).pages count))
  items : fetched.items = limited limit (wanted runtime server accountId since
    (fetched.requested.map server.pageAt))

theorem fetches_of_trail [Fintype Page] {steps : Nat} {seenUrls : List String}
    {url : Option String} {items : List RawTransaction}
    (trail : (urls session server accountId).IsTrail seenUrls (url.filter (· ≠ "")))
    (isItems : items = wanted runtime server accountId since (seenUrls.map server.pageAt))
    (goes : ∀ count ≤ seenUrls.length, ¬ isReached limit (wanted runtime server accountId since
      ((urls session server accountId).pages count)))
    (enough : Fintype.card Page + 2 ≤ steps + seenUrls.length) :
    ∃ fetched, fetchPages runtime session server accountId since limit steps seenUrls url items =
      some fetched ∧ Fetches runtime session server accountId since limit fetched := by
  induction steps generalizing seenUrls url items with
  | zero =>
      have le := trail.length_le
      omega
  | succ steps ih =>
      have notReached := goes seenUrls.length le_rfl
      have samePages := trail.pages
      change _ = seenUrls.map server.pageAt at samePages
      rw [samePages, ← isItems] at notReached
      have ended : Chain.IsTrail.Ended seenUrls (url.filter (· ≠ "")) →
          Fetches runtime session server accountId since limit ⟨items, seenUrls⟩ := by
        intro ended
        refine ⟨⟨_, trail, .inl ended⟩, fun count lt => goes count lt.le, ?_⟩
        rw [← isItems]
        exact (limited_of_not_reached notReached).symm
      rw [fetchPages]
      generalize url.filter _ = name at trail ended
      cases name with
      | none => exact ⟨_, rfl, ended (by simp [Chain.IsTrail.Ended])⟩
      | some url =>
          by_cases isSeen : url ∈ seenUrls
          · simp only [if_pos isSeen]
            exact ⟨_, rfl, ended (by simpa [Chain.IsTrail.Ended] using isSeen)⟩
          · have next := trail.step isSeen
            have allItems : items ++ recent runtime accountId since
                (server.data (server.pageAt url)).response =
                wanted runtime server accountId since ((seenUrls ++ [url]).map server.pageAt) := by
              rw [isItems, List.map_append, wanted, wanted, List.flatMap_append]
              simp
            have nextPages := next.pages
            change _ = (seenUrls ++ [url]).map server.pageAt at nextPages
            have before : ∀ count < (seenUrls ++ [url]).length,
                ¬ isReached limit (wanted runtime server accountId since
                  ((urls session server accountId).pages count)) := by
              intro count lt
              rw [List.length_append, List.length_singleton, Nat.lt_succ_iff] at lt
              exact goes count lt
            simp only [if_neg isSeen, readEntries_eq notReached, allItems]
            by_cases reached : isReached limit
                (wanted runtime server accountId since ((seenUrls ++ [url]).map server.pageAt))
            · simp only [if_pos reached]
              refine ⟨_, rfl, ⟨_, next, .inr ?_⟩, before, rfl⟩
              rw [nextPages]
              exact reached
            · simp only [if_neg reached]
              apply ih next rfl
              · intro count le
                rcases Nat.lt_or_eq_of_le le with lt | rfl
                · exact before count lt
                · rw [nextPages]
                  exact reached
              · rw [List.length_append, List.length_singleton]
                omega

/-- More steps do not change what a fetch that ends returns. -/
theorem fetchPages_mono {steps more : Nat} (le : steps ≤ more) {seenUrls : List String}
    {url : Option String} {items : List RawTransaction} {fetched : Fetched}
    (ends : fetchPages runtime session server accountId since limit steps seenUrls url items =
      some fetched) :
    fetchPages runtime session server accountId since limit more seenUrls url items =
      some fetched := by
  induction steps generalizing more seenUrls url items with
  | zero => cases ends
  | succ steps ih =>
      cases more with
      | zero => cases le
      | succ more =>
          rw [fetchPages] at ends ⊢
          generalize url.filter _ = name at ends ⊢
          cases name with
          | none => exact ends
          | some url =>
              by_cases isSeen : url ∈ seenUrls
              · simp only [if_pos isSeen] at ends ⊢
                exact ends
              · simp only [if_neg isSeen] at ends ⊢
                cases entries : readEntries runtime accountId since limit items
                    (server.data (server.pageAt url)).response with
                | returned items =>
                    simp only [entries] at ends ⊢
                    exact ends
                | going items =>
                    simp only [entries] at ends ⊢
                    exact ih (Nat.le_of_succ_le_succ le) ends

theorem firstUrl_ne_empty (session : Session) (accountId : String) :
    firstUrl session accountId ≠ "" := by
  intro same
  have length := congrArg String.length same
  simp [firstUrl] at length

/-- The fetch of an account's payments ends after one request more than there are pages. -/
theorem fetches [Fintype Page] :
    ∃ fetched, (∀ steps, Fintype.card Page + 2 ≤ steps →
      fetchAccountPayments runtime session server accountId since limit steps = some fetched) ∧
        Fetches runtime session server accountId since limit fetched := by
  have trail : (urls session server accountId).IsTrail []
      ((some (firstUrl session accountId)).filter (· ≠ "")) := by
    rw [Option.filter_some, if_pos (decide_eq_true (firstUrl_ne_empty session accountId))]
    exact Chain.IsTrail.start
  have goes : ∀ count ≤ ([] : List String).length,
      ¬ isReached limit (wanted runtime server accountId since
        ((urls session server accountId).pages count)) := by
    intro count le reached
    rw [List.length_nil, Nat.le_zero] at le
    rcases isReached_iff.mp reached with ⟨most, _, notZero, short⟩
    rw [le] at short
    exact notZero (Nat.le_zero.mp short)
  rcases fetches_of_trail trail rfl goes le_rfl with ⟨fetched, ends, isFetched⟩
  exact ⟨fetched, fun steps enough => fetchPages_mono enough ends, isFetched⟩

/-! ## Complete and free of duplicates -/

/-- Every page is requested once, unless the limit is reached before, and what is returned
is every wanted payment of these pages once. -/
structure IsComplete (runtime : Runtime) (session : Session) (server : Server Page)
    (accountId : String) (since : Instant) (limit : Option Nat) (fetched : Fetched) : Prop where
  once : (fetched.requested.map server.pageAt).Nodup
  all : isReached limit fetched.items ∨
    ∀ index, ∀ url ∈ (urls session server accountId).nameAt index,
      server.pageAt url ∈ fetched.requested.map server.pageAt
  items : fetched.items = limited limit (firsts RawTransaction.externalTransactionId
    (wanted runtime server accountId since (fetched.requested.map server.pageAt)))

/-- Up to the limit no page is named in two ways, and no payment is listed twice on
different pages or on one. -/
structure GoesByOneName (runtime : Runtime) (session : Session) (server : Server Page)
    (accountId : String) (since : Instant) (limit : Option Nat) : Prop where
  pages : ∀ {earlier later one other}, earlier < later →
    (urls session server accountId).nameAt earlier = some one →
    (urls session server accountId).nameAt later = some other →
    server.pageAt one = server.pageAt other → one ≠ other →
    isReached limit (wanted runtime server accountId since
      ((urls session server accountId).pages later))
  payments : ∀ count, ((urls session server accountId).pages count).Nodup →
    ((limited limit (wanted runtime server accountId since
      ((urls session server accountId).pages count))).map
        RawTransaction.externalTransactionId).Nodup

namespace Fetches

variable {fetched : Fetched}

theorem reached_or_all
    (isFetched : Fetches runtime session server accountId since limit fetched) :
    isReached limit fetched.items ∨
      ∀ index, ∀ url ∈ (urls session server accountId).nameAt index,
        server.pageAt url ∈ fetched.requested.map server.pageAt := by
  rcases isFetched.trail with ⟨name, trail, ended | reached⟩
  · right
    intro index url atIndex
    exact List.mem_map_of_mem (trail.all_seen ended atIndex)
  · left
    rw [trail.pages] at reached
    rw [isFetched.items]
    exact isReached_limited reached

theorem nodup_iff (isFetched : Fetches runtime session server accountId since limit fetched) :
    (fetched.requested.map server.pageAt).Nodup ↔
      ∀ {earlier later one other}, earlier < later →
        (urls session server accountId).nameAt earlier = some one →
        (urls session server accountId).nameAt later = some other →
        server.pageAt one = server.pageAt other → one ≠ other →
        isReached limit (wanted runtime server accountId since
          ((urls session server accountId).pages later)) := by
  rcases isFetched.trail with ⟨name, trail, done⟩
  exact Chain.IsTrail.nodup_pages_iff
    (fun pages => isReached limit (wanted runtime server accountId since pages)) trail
    (fun isPrefix => isReached_mono (prefix_wanted isPrefix)) isFetched.goes done

/-- Where no page is read twice, the payments that are returned are different exactly if
those of any different pages are. -/
theorem items_nodup_iff
    (isFetched : Fetches runtime session server accountId since limit fetched)
    (once : (fetched.requested.map server.pageAt).Nodup) :
    (fetched.items.map RawTransaction.externalTransactionId).Nodup ↔
      ∀ count, ((urls session server accountId).pages count).Nodup →
        ((limited limit (wanted runtime server accountId since
          ((urls session server accountId).pages count))).map
            RawTransaction.externalTransactionId).Nodup := by
  rcases isFetched.trail with ⟨name, trail, done⟩
  have requested := trail.pages
  change _ = fetched.requested.map server.pageAt at requested
  rw [isFetched.items]
  constructor
  · intro nodup count ne
    have isPrefix : (urls session server accountId).pages count <+:
          fetched.requested.map server.pageAt →
        ((limited limit (wanted runtime server accountId since
          ((urls session server accountId).pages count))).map
            RawTransaction.externalTransactionId).Nodup := fun isPrefix =>
      nodup.sublist ((limited_prefix_limited (prefix_wanted isPrefix)).sublist.map _)
    rcases done with ended | reached
    · exact isPrefix (trail.pages_prefix_of_nodup ended ne)
    · rcases Nat.le_total count fetched.requested.length with le | longer
      · apply isPrefix
        rw [← requested]
        exact Chain.pages_prefix _ le
      · rw [requested] at reached
        have more : wanted runtime server accountId since _ <+: wanted _ _ _ _ _ :=
          prefix_wanted (Chain.pages_prefix (urls session server accountId) longer)
        rw [requested] at more
        rcases more with ⟨rest, isMore⟩
        rw [← isMore, limited_append reached]
        exact nodup
  · intro ne
    have last := ne fetched.requested.length
    rw [requested] at last
    exact last once

end Fetches

/-- A single account is fetched as its payments are. -/
theorem fetchTransactions_single {steps : Nat} {fetched : Fetched}
    (ends : fetchAccountPayments runtime session server accountId since limit steps =
      some fetched)
    (isFetched : Fetches runtime session server accountId since limit fetched) :
    fetchTransactions runtime session server since limit steps [accountId] [] =
      some fetched.items := by
  have same := limited_limited limit (wanted runtime server accountId since
    (fetched.requested.map server.pageAt))
  rw [← isFetched.items, limited] at same
  rw [fetchTransactions, ends]
  simp only [List.nil_append]
  split
  · next count isCount =>
      rw [Option.filter_eq_some_iff, decide_eq_true_eq] at isCount
      rw [isCount.1, Option.filter_some, if_pos (decide_eq_true isCount.2.1)] at same
      exact congrArg some same
  · rfl

/-- The fetch of an account's payments ends, and it is complete and free of duplicates
exactly if every page and every payment goes by one name. -/
theorem account_payments_iff (runtime : Runtime) {Page : Type} [Fintype Page]
    (session : Session) (server : Server Page) (accountId : String) (since : Instant)
    (limit : Option Nat) :
    ∃ fetched, (∀ steps, Fintype.card Page + 2 ≤ steps →
        fetchAccountPayments runtime session server accountId since limit steps = some fetched ∧
          fetchTransactions runtime session server since limit steps [accountId] [] =
            some fetched.items) ∧
      (IsComplete runtime session server accountId since limit fetched ↔
        GoesByOneName runtime session server accountId since limit) := by
  have fetch : ∃ fetched, _ ∧ Fetches runtime session server accountId since limit fetched :=
    fetches
  rcases fetch with ⟨fetched, ends, isFetched⟩
  refine ⟨fetched, fun steps enough =>
    ⟨ends steps enough, fetchTransactions_single (ends steps enough) isFetched⟩, ?_⟩
  have sameItems := limited_firsts_iff RawTransaction.externalTransactionId limit
    (wanted runtime server accountId since (fetched.requested.map server.pageAt))
  rw [← isFetched.items] at sameItems
  constructor
  · intro complete
    exact ⟨isFetched.nodup_iff.mp complete.once,
      (isFetched.items_nodup_iff complete.once).mp (sameItems.mp complete.items)⟩
  · intro oneName
    have once := isFetched.nodup_iff.mpr oneName.pages
    exact ⟨once, isFetched.reached_or_all,
      sameItems.mpr ((isFetched.items_nodup_iff once).mpr oneName.payments)⟩

end Run

/-! ### A page that names itself -/

/-- A runtime that reads one text. -/
def sampleRuntime : Runtime where
  upper := id
  strptime text format :=
    if text = "2025-06-01 12:30:00" ∧ format = "%Y-%m-%d %H:%M:%S" then
      some (Instant.days 20240 + 45000 * 1000000)
    else none

def sampleSession : Session where
  baseUrl := "https://api.bunq.com/v1"
  userId := "54321"

/-- A payment on the only page, whose link comes back to it. -/
def cycleServer : Server Bool where
  pageAt url :=
    (if isAbsolute url then url else sampleSession.baseUrl ++ url) =
      sampleSession.baseUrl ++ firstUrl sampleSession "1001"
  data isKnown :=
    if isKnown then
      { response := [some { id := "1", created := some "2025-06-01 12:30:00" }]
        pagination := some { futureUrl := some ("/v1" ++ firstUrl sampleSession "1001") } }
    else {}

theorem first_page_fetched_twice :
    ∃ fetched, fetchAccountPayments sampleRuntime sampleSession cycleServer "1001" 0 none 4 =
      some fetched ∧
        fetched.items.map RawTransaction.externalTransactionId = ["1", "1"] ∧
        ¬ IsComplete sampleRuntime sampleSession cycleServer "1001" 0 none fetched := by
  have run : (fetchAccountPayments sampleRuntime sampleSession cycleServer "1001" 0 none 4).map
      (fun fetched => (fetched.items.map RawTransaction.externalTransactionId,
        fetched.requested.map cycleServer.pageAt)) = some (["1", "1"], [true, true]) := by
    decide +kernel
  rcases Option.map_eq_some_iff.mp run with ⟨fetched, ends, outcome⟩
  rw [Prod.mk.injEq] at outcome
  refine ⟨fetched, ends, outcome.1, fun complete => ?_⟩
  have once := complete.once
  rw [outcome.2] at once
  exact absurd once (by decide)

end FinanceSync.Bunq
