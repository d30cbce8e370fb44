import FinanceSync.Trading212.Connector

/-!
# Pages of a history

The pages of a history are linked by `nextPagePath`, and the last one leads nowhere or
back to a page that has been seen.  The loop over them ends, and it is complete where
no page that reaches back before `since` comes before one with an item after it.
-/

namespace FinanceSync.Trading212

variable (runtime : Runtime) (session : Session)

/-! ## The loop -/

structure Page (Item : Type) where
  items : List Item
  nextPagePath : Option String := none

/-- `_fetch_order_history` and `_fetch_transaction_history`, with the answers to paths.
No result means that the steps did not suffice. -/
def fetchPages {Item : Type} (parse : Item → RawTransaction) (since : Instant)
    (limit : Option Nat) (get : String → Page Item) :
    Nat → List String → Option String → List RawTransaction → Option (List RawTransaction)
  | 0, _, _, _ => none
  | steps + 1, seenPaths, path, items =>
      match path.filter (· ≠ "") with
      | none => some items
      | some path =>
          if path ∈ seenPaths then some items
          else
            let page := get path
            let parsed := page.items.map parse
            let items := items ++ parsed.filter fun txn => since ≤ txn.occurredAt
            match limit.filter (fun limit => limit ≠ 0 ∧ limit ≤ items.length) with
            | some limit => some (items.take limit)
            | none =>
                if parsed.any fun txn => txn.occurredAt < since then some items
                else
                  fetchPages parse since limit get steps (path :: seenPaths) page.nextPagePath items

/-- These paths follow each other from a path on, and the last leads nowhere or to a
path that has been seen. -/
def Linked {Item : Type} (get : String → Page Item) :
    List String → Option String → List String → Prop
  | seenPaths, path, [] => path.filter (· ≠ "") = none ∨ ∃ seen ∈ seenPaths, path = some seen
  | seenPaths, path, next :: rest =>
      path = some next ∧ next ≠ "" ∧ next ∉ seenPaths ∧
        Linked get (next :: seenPaths) (get next).nextPagePath rest

/-- A finite or cyclic chain of pages from a first path on. -/
structure History (Item : Type) where
  get : String → Page Item
  path : String
  paths : List String
  linked : Linked get [] (some path) paths

def History.pages {Item : Type} (history : History Item) : List (List Item) :=
  history.paths.map fun path => (history.get path).items

/-- The loop over linked pages is the loop over the list of their items. -/
theorem fetchPages_linked {Item : Type} (parse : Item → RawTransaction) (since : Instant)
    (limit : Option Nat) (get : String → Page Item) {paths seenPaths : List String}
    {path : Option String} (linked : Linked get seenPaths path paths) {steps : Nat}
    (enough : paths.length < steps) (items : List RawTransaction) :
    fetchPages parse since limit get steps seenPaths path items =
      some (fetchHistory parse since limit items (paths.map fun path => (get path).items)) := by
  induction paths generalizing seenPaths path steps items with
  | nil =>
      cases steps with
      | zero => cases enough
      | succ steps =>
          rw [fetchPages]
          rcases linked with nowhere | ⟨seen, isSeen, rfl⟩
          · rw [nowhere]
            rfl
          · rw [Option.filter_some]
            split_ifs
            · simp only [if_pos isSeen]
              rfl
            · rfl
  | cons next rest ih =>
      rcases linked with ⟨rfl, filled, isNew, linked⟩
      cases steps with
      | zero => cases enough
      | succ steps =>
          rw [fetchPages, Option.filter_some, if_pos (decide_eq_true filled), List.map_cons,
            fetchHistory]
          simp only [if_neg isNew]
          generalize limit.filter _ = reached
          cases reached with
          | some limit => rfl
          | none =>
              split_ifs
              · rfl
              · exact ih linked (Nat.lt_of_succ_lt_succ enough) _

/-! ## Completeness -/

/-- No page that reaches back before `since` comes before one with an item after it. -/
def ReachesBackLast {Item : Type} (parse : Item → RawTransaction) (since : Instant)
    (pages : List (List Item)) : Prop :=
  pages.Pairwise fun page later =>
    (∃ item ∈ page, (parse item).occurredAt < since) →
      ∀ item ∈ later, (parse item).occurredAt < since

/-- What is wanted of a history. -/
def inWindow {Item : Type} (parse : Item → RawTransaction) (since : Instant)
    (pages : List (List Item)) : List RawTransaction :=
  (pages.flatten.map parse).filter fun txn => since ≤ txn.occurredAt

theorem inWindow_eq_nil_iff {Item : Type} {parse : Item → RawTransaction} {since : Instant}
    {pages : List (List Item)} :
    inWindow parse since pages = [] ↔
      ∀ page ∈ pages, ∀ item ∈ page, (parse item).occurredAt < since := by
  simp only [inWindow, List.filter_eq_nil_iff, List.mem_map, List.mem_flatten, decide_eq_true_eq,
    not_le]
  constructor
  · intro older page pageMem item itemMem
    exact older _ ⟨item, ⟨page, pageMem, itemMem⟩, rfl⟩
  · rintro older _ ⟨item, ⟨page, pageMem, itemMem⟩, rfl⟩
    exact older page pageMem item itemMem

/-- Without a limit the loop returns what is wanted exactly if no page cuts it off. -/
theorem fetchHistory_eq_iff {Item : Type} (parse : Item → RawTransaction) (since : Instant)
    (pages : List (List Item)) (items : List RawTransaction) :
    fetchHistory parse since none items pages = items ++ inWindow parse since pages ↔
      ReachesBackLast parse since pages := by
  induction pages generalizing items with
  | nil => simp [fetchHistory, inWindow, ReachesBackLast]
  | cons page rest ih =>
      have whole : inWindow parse since (page :: rest) =
          ((page.map parse).filter fun txn => since ≤ txn.occurredAt) ++
            inWindow parse since rest := by
        simp [inWindow]
      rw [fetchHistory, whole, ← List.append_assoc, ReachesBackLast, List.pairwise_cons]
      simp only [Option.filter_none]
      split
      · next reachesBack =>
          have older : ∃ item ∈ page, (parse item).occurredAt < since := by
            simpa using reachesBack
          rw [List.self_eq_append_right, inWindow_eq_nil_iff]
          constructor
          · intro nothing
            refine ⟨fun later laterMem _ => nothing later laterMem, ?_⟩
            exact List.pairwise_of_forall_mem_list fun _ _ later laterMem _ =>
              nothing later laterMem
          · intro ordered later laterMem
            exact ordered.1 later laterMem older
      · next recent =>
          have noOlder : ¬ ∃ item ∈ page, (parse item).occurredAt < since := by
            simpa using recent
          rw [ih, ReachesBackLast]
          exact (and_iff_right fun _ _ older => absurd older noOlder).symm

/-- A history is fetched in as many steps as it has pages and one more, and it is
fetched as a whole exactly if no page cuts off a later one. -/
theorem fetchPages_complete {Item : Type} (parse : Item → RawTransaction) (since : Instant)
    (history : History Item) :
    ∃ fetched, (∀ steps, history.paths.length < steps →
        fetchPages parse since none history.get steps [] (some history.path) [] = some fetched) ∧
      (fetched = inWindow parse since history.pages ↔
        ReachesBackLast parse since history.pages) := by
  refine ⟨fetchHistory parse since none [] history.pages, fun steps enough =>
    fetchPages_linked parse since none history.get history.linked enough [], ?_⟩
  have complete := fetchHistory_eq_iff parse since history.pages []
  rw [List.nil_append] at complete
  exact complete

/-- The two histories are fetched, and completely so exactly if no page of orders, or
of cash transactions, cuts off a later one. -/
theorem histories_complete_iff (since : Instant) (orders : History OrderData)
    (cash : History CashData) :
    (∃ fetched, (∀ steps, orders.paths.length < steps →
        fetchPages (parseOrder runtime session) since none orders.get steps [] (some orders.path)
          [] = some fetched) ∧
      (fetched = inWindow (parseOrder runtime session) since orders.pages ↔
        ReachesBackLast (parseOrder runtime session) since orders.pages)) ∧
    ∃ fetched, (∀ steps, cash.paths.length < steps →
        fetchPages (parseCashTransaction runtime session) since none cash.get steps []
          (some cash.path) [] = some fetched) ∧
      (fetched = inWindow (parseCashTransaction runtime session) since cash.pages ↔
        ReachesBackLast (parseCashTransaction runtime session) since cash.pages) :=
  ⟨fetchPages_complete _ since orders, fetchPages_complete _ since cash⟩

/-! ### Orders that are filled late -/

/-- A runtime that reads three dates. -/
def sampleRuntime : Runtime where
  upper := id
  strptime text format :=
    if format = "%Y-%m-%dT%H:%M:%S" then
      ([("2024-01-06T10:00:00", Instant.days 19728), ("2023-12-31T10:00:00", Instant.days 19722),
        ("2024-01-07T10:00:00", Instant.days 19729)] : List (String × Instant)).lookup text
    else none

/-- Orders listed newest first by creation; the third was created before the second and
filled a week after it. -/
def sampleOrder (id creationTime filledTime : String) : OrderData where
  id
  side := "BUY"
  status := "FILLED"
  creationTime := some creationTime
  filledTime := some filledTime

def sampleHistory : History OrderData where
  get path :=
    if path = "first" then
      { items := [sampleOrder "1" "2024-01-02T10:00:00Z" "2024-01-06T10:00:00Z",
          sampleOrder "2" "2023-12-31T09:00:00Z" "2023-12-31T10:00:00Z"]
        nextPagePath := some "second" }
    else { items := [sampleOrder "3" "2023-12-30T10:00:00Z" "2024-01-07T10:00:00Z"] }
  path := "first"
  paths := ["first", "second"]
  linked := by simp [Linked]

/-- The order that was filled last is cut off. -/
theorem late_fill_cut_off :
    (fetchPages (parseOrder sampleRuntime ⟨"account", "EUR"⟩) (Instant.days 19727) none
        sampleHistory.get 3 [] (some sampleHistory.path) []).map
          (·.map (·.externalTransactionId)) = some ["order_1"] ∧
      (inWindow (parseOrder sampleRuntime ⟨"account", "EUR"⟩) (Instant.days 19727)
        sampleHistory.pages).map (·.externalTransactionId) = ["order_1", "order_3"] := by
  decide +kernel

end FinanceSync.Trading212
