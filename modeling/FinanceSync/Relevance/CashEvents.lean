import FinanceSync.Relevance.Feed
import FinanceSync.Relevance.Partition

/-!
# Cash events

An interest or currency observation without a security concerns every account.  A build of
the feed matches it with one account after the other, but looks its rows up by observation
and security only: the first account gets the row and the others go without.  An account
sees the story if another observation of it was matched for that account.
-/

namespace FinanceSync.Relevance

open FinanceSync.Intel (FactValue MarketIntelligenceItem)
open Lib

/-! ## A build of the feed -/

/-- What a build reads beside the tables of matches.  The accounts are those with holdings and
the cash accounts, in the order in which the set is iterated. -/
structure Build where
  since : Instant
  holdings : List Position
  recentlySold : List Uuid
  holdingWeight : Uuid → Option ℚ
  cashAccounts : List Uuid
  accountIds : List Uuid
  score : ClusterScore
  nodup : accountIds.Nodup
  isAccount : ∀ accountId, accountId ∈ accountIds ↔
    accountId ∈ holdings.map (·.accountId) ∨ accountId ∈ cashAccounts

section Calls

variable (tools : TextTools) (tables : MatchTables) (build : Build)

/-- The observations in the window, newest first. -/
def windowItems : List MarketIntelligenceItem :=
  ((tables.observations.map (·.item)).filter fun item =>
    build.since ≤ item.publishedAt).mergeSort fun first second =>
      decide (second.publishedAt ≤ first.publishedAt)

/-- The row of an observation with its security. -/
def securityRow (item : MarketIntelligenceItem) : Option HoldingRelevanceItem :=
  item.securityId.bind fun securityId =>
    if securityId ∈ build.holdings.map (·.securityId) then
      some
        { tenantId := 0
          itemId := item.id
          securityId := some securityId
          accountId := none
          matchReason := "canonical_security"
          confidence := 1
          holdingStatus := "current"
          holdingWeight := build.holdingWeight securityId
          eventDate := none }
    else if securityId ∈ build.recentlySold then
      some
        { tenantId := 0
          itemId := item.id
          securityId := some securityId
          accountId := none
          matchReason := "recently_sold"
          confidence := 4 / 5
          holdingStatus := "recently_sold"
          holdingWeight := none
          eventDate := none }
    else none

/-- Content that is relevant to cash, of no security. -/
def isCashEvent (item : MarketIntelligenceItem) : Bool :=
  eventTypeFor tools item ∈ ["interest", "currency"] && item.securityId.isNone

/-- The row of a cash event with an account. -/
def cashRow (item : MarketIntelligenceItem) (accountId : Uuid) : HoldingRelevanceItem where
  tenantId := 0
  itemId := item.id
  securityId := none
  accountId := some accountId
  matchReason := "currency_interest"
  confidence := 3 / 5
  holdingStatus := "current"
  holdingWeight := none
  eventDate := none

def securityCalls : List MatchCall :=
  ((windowItems tables build).filterMap (securityRow build)).map .relate

def cashEvents : List MarketIntelligenceItem :=
  (windowItems tables build).filter (isCashEvent tools)

/-- `_match_cash_events`, with an order of the accounts. -/
def cashCalls (order : List Uuid) : List MatchCall :=
  (cashEvents tools tables build).flatMap fun item =>
    order.map fun accountId => .relate (cashRow item accountId)

variable (coerce : FactValue → Option ZonedTime) (tenantId : Uuid)

/-- The tables after the matches of a build, with an order of the accounts. -/
def matched (order : List Uuid) : MatchTables :=
  runAll (matchStep tools coerce tenantId) tables
    (securityCalls tables build ++ cashCalls tools tables build order)

/-- `build_feed`, with an order of the accounts. -/
def buildFeed (order : List Uuid) : MatchTables :=
  matchStep tools coerce tenantId (matched tools tables build coerce tenantId order)
    (.recluster build.score)

/-- What happens to the tables: an observation is stored, or the feed is built. -/
inductive FeedCall
  | observe (observation : Observation)
  | build (build : Build)

def feedStep (tables : MatchTables) : FeedCall → MatchTables
  | .observe observation => matchStep tools coerce tenantId tables (.observe observation)
  | .build build => buildFeed tools tables build coerce tenantId build.accountIds

end Calls

/-! ## What an account sees -/

/-- The database with the tables of matches in it. -/
def MatchTables.database (tables : MatchTables) (rest : Database) : Database :=
  { rest with
    observations := tables.observations
    relevance := tables.rows
    clusters := tables.store.clusters.rows
    clusterItems := tables.store.clusterItems
    acks := tables.store.acks }

/-- The feed of an account contains a story with the observation. -/
def Told (service : HoldingRelevanceService) (rest : Database) (tenantId : Uuid)
    (tables : MatchTables) (accountId itemId : Uuid) : Prop :=
  ∃ entry ∈ service.visibleEntries (tables.database rest) tenantId
    { accountId := some (some accountId) }, itemId ∈ entry.itemIds

/-- Whatever the order of the accounts, every cash account sees every cash event. -/
def ReachesAll (tools : TextTools) (coerce : FactValue → Option ZonedTime)
    (service : HoldingRelevanceService) (rest : Database) (tenantId : Uuid)
    (tables : MatchTables) (build : Build) : Prop :=
  ∀ order, order.Perm build.accountIds → ∀ accountId ∈ build.cashAccounts,
    ∀ item ∈ cashEvents tools tables build,
      Told service rest tenantId (buildFeed tools tables build coerce tenantId order) accountId
        item.id

/-- An observation with a security or without is stored. -/
def MatchTables.IsStored (tables : MatchTables) (itemId : Uuid) (securityId : Option Uuid) : Prop :=
  ∃ stored ∈ tables.observations, stored.item.id = itemId ∧ stored.item.securityId = securityId

/-- An observation has a row for a security or for none. -/
def MatchTables.HasRow (tables : MatchTables) (itemId : Uuid) (securityId : Option Uuid) : Prop :=
  ∃ row ∈ tables.rows, row.itemId = itemId ∧ row.securityId = securityId

/-- An observation has a row for an account. -/
def MatchTables.IsFor (tables : MatchTables) (accountId itemId : Uuid) : Prop :=
  ∃ row ∈ tables.rows, row.itemId = itemId ∧ row.accountId = some accountId

/-- An observation has been matched for an account, or is matched for the first one. -/
def Assigned (tools : TextTools) (tables : MatchTables) (build : Build) (order : List Uuid)
    (accountId itemId : Uuid) : Prop :=
  tables.IsFor accountId itemId ∨
    (∃ item ∈ cashEvents tools tables build, item.id = itemId) ∧ ¬ tables.HasRow itemId none ∧
      order.head? = some accountId

/-- The key is told with the observation, in the cluster that it has or now. -/
def Under (store : ClusterStore) (entries : List Entry) (key : StoryKey) (itemId : Uuid) : Prop :=
  store.Holds key itemId ∨ ∃ story ∈ storiesOf entries, key = story.key ∧ itemId ∈ story.itemIds

/-- In every order, the story of every cash event has for every cash account an observation
that is matched for it. -/
def TellsAll (tools : TextTools) (coerce : FactValue → Option ZonedTime) (tenantId : Uuid)
    (tables : MatchTables) (build : Build) : Prop :=
  ∀ order, order.Perm build.accountIds → ∀ accountId ∈ build.cashAccounts,
    ∀ item ∈ cashEvents tools tables build,
      let after := matched tools tables build coerce tenantId order
      let entries := resolved tools after.observations after.rows
      ∃ story ∈ storiesOf entries, Under tables.store entries story.key item.id ∧
        ∃ other, Under tables.store entries story.key other ∧
          Assigned tools tables build order accountId other

/-! ## Matches -/

section Matches

variable {tools : TextTools} {coerce : FactValue → Option ZonedTime} {tenantId : Uuid}

/-- What the match of a stored observation does: it adds its row unless there is one for the
security. -/
structure Related (tenantId : Uuid) (row : HoldingRelevanceItem) (before after : MatchTables) :
    Prop where
  observations : after.observations = before.observations
  store : after.store = before.store
  rows : (before.HasRow row.itemId row.securityId ∧ after.rows = before.rows) ∨
    ¬ before.HasRow row.itemId row.securityId ∧
      ∃ eventDate, after.rows = before.rows ++ [{ row with tenantId, eventDate }]

theorem related {tables : MatchTables} {row : HoldingRelevanceItem}
    (stored : tables.IsStored row.itemId row.securityId) :
    Related tenantId row tables (matchStep tools coerce tenantId tables (.relate row)) := by
  have known : (row.itemId, row.securityId) ∈
      (tables.rows.map fun row => (row.itemId, row.securityId)) ↔
        tables.HasRow row.itemId row.securityId := by
    simp [MatchTables.HasRow]
  rw [matchStep, upsertRelevance]
  cases found : tables.observations.find? (·.item.id = row.itemId) with
  | none =>
      rcases stored with ⟨observation, isStored, sameId, _⟩
      have other := List.find?_eq_none.mp found observation isStored
      exact absurd (decide_eq_true sameId) other
  | some observation =>
      dsimp only
      split_ifs with hasRow
      · exact ⟨rfl, rfl, .inl ⟨known.mp hasRow, rfl⟩⟩
      · exact ⟨rfl, rfl, .inr ⟨fun row => hasRow (known.mpr row), _, rfl⟩⟩

/-- A match that is there already changes nothing. -/
theorem relate_again {tables : MatchTables} {row : HoldingRelevanceItem}
    (hasRow : tables.HasRow row.itemId row.securityId) :
    matchStep tools coerce tenantId tables (.relate row) = tables := by
  have known : (row.itemId, row.securityId) ∈
      (tables.rows.map fun row => (row.itemId, row.securityId)) := by
    simpa [MatchTables.HasRow] using hasRow
  rw [matchStep, upsertRelevance]
  split
  · rfl
  · rw [if_pos known]

namespace Related

variable {row : HoldingRelevanceItem} {before after : MatchTables}

theorem hasRow_iff (related : Related tenantId row before after) {itemId : Uuid}
    {securityId : Option Uuid} :
    after.HasRow itemId securityId ↔
      before.HasRow itemId securityId ∨ row.itemId = itemId ∧ row.securityId = securityId := by
  rcases related.rows with ⟨hasRow, same⟩ | ⟨_, eventDate, added⟩
  · rw [MatchTables.HasRow, same]
    refine (or_iff_left_of_imp ?_).symm
    rintro ⟨rfl, rfl⟩
    exact hasRow
  · simp only [MatchTables.HasRow, added, List.mem_append, List.mem_singleton, or_and_right,
      exists_or, exists_eq_left]

theorem isFor_iff (related : Related tenantId row before after) {accountId itemId : Uuid} :
    after.IsFor accountId itemId ↔ before.IsFor accountId itemId ∨
      ¬ before.HasRow row.itemId row.securityId ∧ row.itemId = itemId ∧
        row.accountId = some accountId := by
  rcases related.rows with ⟨hasRow, same⟩ | ⟨noRow, eventDate, added⟩
  · rw [MatchTables.IsFor, same]
    exact (or_iff_left fun new => new.1 hasRow).symm
  · simp only [MatchTables.IsFor, added, List.mem_append, List.mem_singleton, or_and_right,
      exists_or, exists_eq_left, noRow, not_false_eq_true, true_and]

end Related

theorem relate_accounts_again {tables : MatchTables} {item : MarketIntelligenceItem}
    (hasRow : tables.HasRow item.id none) (order : List Uuid) :
    runAll (matchStep tools coerce tenantId) tables
      (order.map fun accountId => .relate (cashRow item accountId)) = tables := by
  induction order with
  | nil => rfl
  | cons accountId rest ih =>
      have again : matchStep tools coerce tenantId tables (.relate (cashRow item accountId)) =
          tables := relate_again hasRow
      rw [List.map_cons, runAll_cons, again]
      exact ih

/-- All accounts of a cash event but the first find its row. -/
theorem relate_accounts {tables : MatchTables} {item : MarketIntelligenceItem}
    (stored : tables.IsStored item.id none) (order : List Uuid) :
    runAll (matchStep tools coerce tenantId) tables
        (order.map fun accountId => .relate (cashRow item accountId)) =
      match order.head? with
      | none => tables
      | some accountId =>
          matchStep tools coerce tenantId tables (.relate (cashRow item accountId)) := by
  cases order with
  | nil => rfl
  | cons first rest =>
      have isRelated : Related tenantId (cashRow item first) tables
        (matchStep tools coerce tenantId tables _) := related stored
      rw [List.map_cons, runAll_cons]
      exact relate_accounts_again (isRelated.hasRow_iff.mpr (.inr ⟨rfl, rfl⟩)) rest

/-- What a list of matches leaves. -/
structure AllRelated (before after : MatchTables) : Prop where
  observations : after.observations = before.observations
  store : after.store = before.store

theorem AllRelated.isStored_iff {before after : MatchTables} (related : AllRelated before after)
    {itemId : Uuid} {securityId : Option Uuid} :
    after.IsStored itemId securityId ↔ before.IsStored itemId securityId := by
  rw [MatchTables.IsStored, MatchTables.IsStored, related.observations]

/-- Matches with securities have no account. -/
theorem relate_securities (rows : List HoldingRelevanceItem) :
    ∀ {tables : MatchTables}, (∀ row ∈ rows, tables.IsStored row.itemId row.securityId) →
      (∀ row ∈ rows, row.securityId ≠ none ∧ row.accountId = none) →
      let after := runAll (matchStep tools coerce tenantId) tables (rows.map .relate)
      AllRelated tables after ∧
        (∀ itemId, after.HasRow itemId none ↔ tables.HasRow itemId none) ∧
        ∀ accountId itemId, after.IsFor accountId itemId ↔ tables.IsFor accountId itemId := by
  induction rows with
  | nil => exact fun _ _ => ⟨⟨rfl, rfl⟩, fun _ => Iff.rfl, fun _ _ => Iff.rfl⟩
  | cons row rest ih =>
      intro tables stored ofSecurity
      have isRelated : Related tenantId row tables (matchStep tools coerce tenantId tables _) :=
        related (stored row List.mem_cons_self)
      have first : AllRelated tables (matchStep tools coerce tenantId tables (.relate row)) :=
        ⟨isRelated.observations, isRelated.store⟩
      rcases ofSecurity row List.mem_cons_self with ⟨someSecurity, noAccount⟩
      rcases ih
        (fun other otherMem =>
          first.isStored_iff.mpr (stored other (List.mem_cons_of_mem _ otherMem)))
        (fun other otherMem => ofSecurity other (List.mem_cons_of_mem _ otherMem))
        with ⟨later, hasRow, isFor⟩
      refine ⟨⟨later.observations.trans first.observations, later.store.trans first.store⟩,
        fun itemId => (hasRow itemId).trans ?_, fun accountId itemId =>
          (isFor accountId itemId).trans ?_⟩
      · rw [isRelated.hasRow_iff]
        exact or_iff_left fun same => someSecurity same.2
      · rw [isRelated.isFor_iff]
        refine or_iff_left fun new => ?_
        rw [noAccount] at new
        cases new.2.2

/-- Every cash event without a row gets one for the first account. -/
theorem relate_cashEvents (items : List MarketIntelligenceItem) (order : List Uuid) :
    ∀ {tables : MatchTables}, (∀ item ∈ items, tables.IsStored item.id none) →
      let after := runAll (matchStep tools coerce tenantId) tables
        (items.flatMap fun item => order.map fun accountId => .relate (cashRow item accountId))
      AllRelated tables after ∧
        ∀ accountId itemId, after.IsFor accountId itemId ↔ tables.IsFor accountId itemId ∨
          (∃ item ∈ items, item.id = itemId) ∧ ¬ tables.HasRow itemId none ∧
            order.head? = some accountId := by
  induction items with
  | nil => exact fun _ => ⟨⟨rfl, rfl⟩, fun _ _ => by simp⟩
  | cons item rest ih =>
      intro tables stored
      have isStored := stored item List.mem_cons_self
      rw [List.flatMap_cons, runAll_append, relate_accounts isStored]
      cases isFirst : order.head? with
      | none =>
          rcases ih fun other otherMem =>
            stored other (List.mem_cons_of_mem _ otherMem) with ⟨later, isFor⟩
          refine ⟨later, fun accountId itemId => (isFor accountId itemId).trans ?_⟩
          simp [isFirst]
      | some first =>
          have isRelated : Related tenantId (cashRow item first) tables
            (matchStep tools coerce tenantId tables _) := related isStored
          have one : AllRelated tables
              (matchStep tools coerce tenantId tables (.relate (cashRow item first))) :=
            ⟨isRelated.observations, isRelated.store⟩
          rcases ih fun other otherMem => one.isStored_iff.mpr
            (stored other (List.mem_cons_of_mem _ otherMem)) with ⟨later, isFor⟩
          refine ⟨⟨later.observations.trans one.observations, later.store.trans one.store⟩,
            fun accountId itemId => (isFor accountId itemId).trans ?_⟩
          rw [isRelated.isFor_iff, isRelated.hasRow_iff, isFirst]
          simp only [List.exists_mem_cons_iff, cashRow, and_true]
          by_cases same : item.id = itemId
          · subst same
            simp
          · simp [same]

theorem stored_of_mem_windowItems {tables : MatchTables} {build : Build}
    {item : MarketIntelligenceItem} (isMem : item ∈ windowItems tables build) :
    tables.IsStored item.id item.securityId := by
  rw [windowItems, List.mem_mergeSort, List.mem_filter] at isMem
  rcases List.mem_map.mp isMem.1 with ⟨stored, storedMem, rfl⟩
  exact ⟨stored, storedMem, rfl, rfl⟩

theorem stored_of_mem_cashEvents {tables : MatchTables} {build : Build}
    {item : MarketIntelligenceItem} (isMem : item ∈ cashEvents tools tables build) :
    tables.IsStored item.id none := by
  rw [cashEvents, List.mem_filter, isCashEvent, Bool.and_eq_true, Option.isNone_iff_eq_none]
    at isMem
  rw [← isMem.2.2]
  exact stored_of_mem_windowItems isMem.1

theorem of_securityRow {build : Build} {item : MarketIntelligenceItem} {row : HoldingRelevanceItem}
    (isRow : securityRow build item = some row) :
    row.itemId = item.id ∧ row.securityId = item.securityId ∧ row.securityId ≠ none ∧
      row.accountId = none := by
  rw [securityRow, Option.bind_eq_some_iff] at isRow
  rcases isRow with ⟨securityId, isSecurity, isRow⟩
  rw [isSecurity]
  split_ifs at isRow
  · cases isRow
    exact ⟨rfl, rfl, Option.some_ne_none securityId, rfl⟩
  · cases isRow
    exact ⟨rfl, rfl, Option.some_ne_none securityId, rfl⟩

/-- After the matches of a build the rows for an account are the assigned ones. -/
theorem matched_spec (tables : MatchTables) (build : Build) (order : List Uuid) :
    AllRelated tables (matched tools tables build coerce tenantId order) ∧
      ∀ accountId itemId,
        (matched tools tables build coerce tenantId order).IsFor accountId itemId ↔
          Assigned tools tables build order accountId itemId := by
  have fromWindow : ∀ row ∈ (windowItems tables build).filterMap (securityRow build),
      tables.IsStored row.itemId row.securityId ∧ row.securityId ≠ none ∧ row.accountId = none := by
    intro row isMem
    rcases List.mem_filterMap.mp isMem with ⟨item, itemMem, isRow⟩
    rcases of_securityRow isRow with ⟨sameId, sameSecurity, someSecurity, noAccount⟩
    rw [sameId, sameSecurity] at *
    exact ⟨stored_of_mem_windowItems itemMem, someSecurity, noAccount⟩
  rcases @relate_securities tools coerce tenantId
    ((windowItems tables build).filterMap (securityRow build)) tables
    (fun row isMem => (fromWindow row isMem).1)
    (fun row isMem => (fromWindow row isMem).2) with ⟨first, hasRow, isFor⟩
  rcases @relate_cashEvents tools coerce tenantId (cashEvents tools tables build) order _
    (fun item isMem => first.isStored_iff.mpr (stored_of_mem_cashEvents isMem))
    with ⟨later, isForLater⟩
  rw [matched, runAll_append]
  refine ⟨⟨later.observations.trans first.observations, later.store.trans first.store⟩,
    fun accountId itemId => (isForLater accountId itemId).trans ?_⟩
  rw [isFor, hasRow, Assigned]

/-! ## Tables that belong together -/

/-- Observations have one row each, matches and clusters are of the tenant and have the
securities of their observations. -/
structure Linked (tenantId : Uuid) (tables : MatchTables) : Prop where
  sound : tables.Sound
  ids : (tables.observations.map (·.item.id)).Nodup
  rows : ∀ row ∈ tables.rows,
    row.tenantId = tenantId ∧ tables.IsStored row.itemId row.securityId
  edges : ∀ edge ∈ tables.store.clusterItems, edge.tenantId = tenantId
  clusters : ∀ cluster ∈ tables.store.clusters.rows, cluster.tenantId = tenantId ∧
    ∀ itemId ∈ tables.store.itemsOf cluster.id, tables.IsStored itemId cluster.securityId

theorem empty_linked : Linked tenantId .empty where
  sound := MatchTables.empty_sound
  ids := List.nodup_nil
  rows := List.forall_mem_nil _
  edges := List.forall_mem_nil _
  clusters := List.forall_mem_nil _

theorem MatchTables.IsStored.mono {tables after : MatchTables} {itemId : Uuid}
    {securityId : Option Uuid} (stored : tables.IsStored itemId securityId)
    (more : tables.observations ⊆ after.observations) : after.IsStored itemId securityId := by
  rcases stored with ⟨observation, isMem, isStored⟩
  exact ⟨observation, more isMem, isStored⟩

/-- Of an observation the security is known. -/
theorem Linked.security_unique {tables : MatchTables} (linked : Linked tenantId tables)
    {itemId : Uuid} {one other : Option Uuid} (stored : tables.IsStored itemId one)
    (again : tables.IsStored itemId other) : one = other := by
  rcases stored with ⟨first, firstMem, sameId, rfl⟩
  rcases again with ⟨second, secondMem, again, rfl⟩
  rw [List.inj_on_of_nodup_map linked.ids firstMem secondMem (sameId.trans again.symm)]

theorem linked_observe {tables : MatchTables} (linked : Linked tenantId tables)
    (observation : Observation) :
    Linked tenantId (matchStep tools coerce tenantId tables (.observe observation)) := by
  have sound : (matchStep tools coerce tenantId tables (.observe observation)).Sound :=
    matchStep_sound linked.sound _
  rw [matchStep] at sound ⊢
  split
  · exact linked
  · next isNew =>
      rw [if_neg isNew] at sound
      have more : tables.observations ⊆ tables.observations ++ [observation] :=
        List.subset_append_left _ _
      exact
        { sound
          ids := by
            rw [List.map_append, List.nodup_append]
            refine ⟨linked.ids, List.nodup_singleton _, ?_⟩
            intro id known other isOther same
            rw [List.map_singleton, List.mem_singleton] at isOther
            rw [same, isOther] at known
            exact isNew known
          rows := fun row isMem =>
            ⟨(linked.rows row isMem).1, (linked.rows row isMem).2.mono more⟩
          edges := linked.edges
          clusters := fun cluster isMem =>
            ⟨(linked.clusters cluster isMem).1, fun itemId isItem =>
              ((linked.clusters cluster isMem).2 itemId isItem).mono more⟩ }

theorem linked_relate {tables : MatchTables} (linked : Linked tenantId tables)
    {row : HoldingRelevanceItem} (stored : tables.IsStored row.itemId row.securityId) :
    Linked tenantId (matchStep tools coerce tenantId tables (.relate row)) := by
  have sound : (matchStep tools coerce tenantId tables (.relate row)).Sound :=
    matchStep_sound linked.sound _
  have isRelated : Related tenantId row tables (matchStep tools coerce tenantId tables _) :=
    related stored
  generalize matchStep tools coerce tenantId tables (.relate row) = after at sound isRelated
  have all : AllRelated tables after := ⟨isRelated.observations, isRelated.store⟩
  refine ⟨sound, ?_, ?_, ?_, ?_⟩
  · rw [isRelated.observations]
    exact linked.ids
  · intro other isMem
    rw [all.isStored_iff]
    rcases isRelated.rows with ⟨_, same⟩ | ⟨_, eventDate, added⟩
    · rw [same] at isMem
      exact linked.rows other isMem
    · rw [added, List.mem_append, List.mem_singleton] at isMem
      rcases isMem with old | rfl
      · exact linked.rows other old
      · exact ⟨rfl, stored⟩
  · rw [isRelated.store]
    exact linked.edges
  · rw [isRelated.store]
    intro cluster isMem
    refine ⟨(linked.clusters cluster isMem).1, fun itemId isItem => ?_⟩
    rw [all.isStored_iff]
    exact (linked.clusters cluster isMem).2 itemId isItem

/-- The memberships that a story adds are of the tenant. -/
theorem edge_upsertCluster {store : ClusterStore} {score : ClusterScore} {story : Story}
    {edge : RelevanceClusterItem}
    (isMem : edge ∈ (store.upsertCluster score tenantId story).clusterItems) :
    edge ∈ store.clusterItems ∨ edge.tenantId = tenantId := by
  have synced : ∀ {clusterId itemIds},
      edge ∈ store.syncClusterItems tenantId clusterId itemIds →
        edge ∈ store.clusterItems ∨ edge.tenantId = tenantId := by
    intro clusterId itemIds isSynced
    rcases List.mem_append.mp isSynced with old | new
    · exact .inl old
    · rcases List.mem_map.mp new with ⟨_, _, rfl⟩
      exact .inr rfl
  rw [ClusterStore.upsertCluster] at isMem
  cases isCluster : store.clusterOf story.key <;> rw [isCluster] at isMem <;>
    exact synced isMem

theorem edge_writeStories {score : ClusterScore} (stories : List Story) :
    ∀ {store : ClusterStore} {edge : RelevanceClusterItem},
      edge ∈ (store.writeStories score tenantId stories).clusterItems →
        edge ∈ store.clusterItems ∨ edge.tenantId = tenantId := by
  induction stories with
  | nil => exact fun isMem => .inl isMem
  | cons story rest ih =>
      intro store edge isMem
      rcases ih isMem with old | ofTenant
      · exact edge_upsertCluster old
      · exact .inr ofTenant

theorem edge_recluster {store : ClusterStore} {score : ClusterScore} {entries : List Entry}
    {edge : RelevanceClusterItem}
    (isMem : edge ∈ (store.recluster score tenantId entries).clusterItems) :
    edge ∈ store.clusterItems ∨ edge.tenantId = tenantId :=
  edge_writeStories (storiesOf entries)
    (ClusterStore.mem_foldl_pruneCluster_edges _ _ isMem).1

/-- A match that resolves is a row of a stored observation. -/
theorem mem_resolved {observations : List Observation} {rows : List HoldingRelevanceItem}
    {entry : Entry} (isMem : entry ∈ resolved tools observations rows) : entry.row ∈ rows := by
  rw [resolved, byEventDate, List.mem_insertionSort, List.mem_filterMap] at isMem
  rcases isMem with ⟨row, rowMem, isEntry⟩
  rcases Option.map_eq_some_iff.mp isEntry with ⟨stored, _, rfl⟩
  exact rowMem

theorem exists_resolved {observations : List Observation} {rows : List HoldingRelevanceItem}
    {row : HoldingRelevanceItem} (isMem : row ∈ rows)
    (stored : ∃ observation ∈ observations, observation.item.id = row.itemId) :
    ∃ entry ∈ resolved tools observations rows, entry.row = row := by
  cases found : observations.find? (·.item.id = row.itemId) with
  | none =>
      rcases stored with ⟨observation, observationMem, same⟩
      exact absurd (decide_eq_true same) (List.find?_eq_none.mp found observation observationMem)
  | some observation =>
      refine ⟨⟨row, observation.item, eventTypeFor tools observation.item,
        titleFingerprint tools observation.item.headline⟩, ?_, rfl⟩
      rw [resolved, byEventDate, List.mem_insertionSort, List.mem_filterMap]
      exact ⟨row, isMem, by rw [found]; rfl⟩

theorem linked_recluster {tables : MatchTables} (linked : Linked tenantId tables)
    (score : ClusterScore) :
    Linked tenantId (matchStep tools coerce tenantId tables (.recluster score)) := by
  have built := ClusterStore.recluster_built linked.sound.keyed score tenantId
    (resolved tools tables.observations tables.rows)
  refine ⟨matchStep_sound linked.sound _, linked.ids, linked.rows, ?_, ?_⟩
  · intro edge isMem
    rcases edge_recluster isMem with old | ofTenant
    · exact linked.edges edge old
    · exact ofTenant
  · intro cluster isMem
    rcases built.rows cluster isMem with ⟨story, isStory, isKey, isRow⟩
    have security : cluster.storyKey.securityId = cluster.securityId :=
      (built.keyed.parts cluster isMem).1
    refine ⟨by rw [isRow]; rfl, fun itemId isItem => ?_⟩
    rcases (built.items cluster isMem itemId).mp isItem with
      holds | ⟨told, toldMem, key, inTold⟩
    · rcases holds with ⟨before, beforeMem, sameKey, isItem⟩
      have stored := (linked.clusters before beforeMem).2 itemId isItem
      rw [← (linked.sound.keyed.parts before beforeMem).1, sameKey, security] at stored
      exact stored
    · rcases List.mem_map.mp inTold with ⟨entry, inBucket, rfl⟩
      have isRow := mem_resolved (mem_entries_of_bucket toldMem inBucket)
      have stored := (linked.rows entry.row isRow).2
      rw [(of_mem_bucket toldMem inBucket).1, ← (key_parts told).1, ← key, security] at stored
      exact stored

theorem linked_relates (rows : List HoldingRelevanceItem) :
    ∀ {tables : MatchTables}, Linked tenantId tables →
      (∀ row ∈ rows, tables.IsStored row.itemId row.securityId) →
      Linked tenantId (runAll (matchStep tools coerce tenantId) tables (rows.map .relate)) := by
  induction rows with
  | nil => exact fun linked _ => linked
  | cons row rest ih =>
      intro tables linked stored
      have isStored := stored row List.mem_cons_self
      have isRelated : Related tenantId row tables (matchStep tools coerce tenantId tables _) :=
        related isStored
      apply ih (linked_relate linked isStored)
      intro other isMem
      apply (stored other (List.mem_cons_of_mem _ isMem)).mono
      rw [isRelated.observations]
      exact List.Subset.refl _

/-- The rows that a build matches one after the other. -/
def buildRows (tools : TextTools) (tables : MatchTables) (build : Build) (order : List Uuid) :
    List HoldingRelevanceItem :=
  (windowItems tables build).filterMap (securityRow build) ++
    (cashEvents tools tables build).flatMap fun item => order.map (cashRow item)

theorem matched_eq (tables : MatchTables) (build : Build) (order : List Uuid) :
    matched tools tables build coerce tenantId order =
      runAll (matchStep tools coerce tenantId) tables
        ((buildRows tools tables build order).map .relate) := by
  rw [matched, buildRows, List.map_append, List.map_flatMap, securityCalls, cashCalls]
  simp only [List.map_map, Function.comp_def]

/-- They are of stored observations, and those without a security have one of the accounts. -/
theorem of_mem_buildRows {tables : MatchTables} {build : Build} {order : List Uuid}
    {row : HoldingRelevanceItem} (isMem : row ∈ buildRows tools tables build order) :
    tables.IsStored row.itemId row.securityId ∧
      (row.securityId = none → ∃ accountId ∈ order, row.accountId = some accountId) := by
  rcases List.mem_append.mp isMem with ofSecurity | ofCash
  · rcases List.mem_filterMap.mp ofSecurity with ⟨item, itemMem, isRow⟩
    rcases of_securityRow isRow with ⟨sameId, sameSecurity, someSecurity, _⟩
    refine ⟨?_, fun none => absurd none someSecurity⟩
    rw [sameId, sameSecurity]
    exact stored_of_mem_windowItems itemMem
  · rcases List.mem_flatMap.mp ofCash with ⟨item, itemMem, isRow⟩
    rcases List.mem_map.mp isRow with ⟨accountId, accountMem, rfl⟩
    exact ⟨stored_of_mem_cashEvents itemMem, fun _ => ⟨accountId, accountMem, rfl⟩⟩

theorem linked_matched {tables : MatchTables} (linked : Linked tenantId tables) (build : Build)
    (order : List Uuid) :
    Linked tenantId (matched tools tables build coerce tenantId order) := by
  rw [matched_eq]
  exact linked_relates _ linked fun row isMem => (of_mem_buildRows isMem).1

theorem linked_feedStep {tables : MatchTables} (linked : Linked tenantId tables)
    (call : FeedCall) : Linked tenantId (feedStep tools coerce tenantId tables call) := by
  cases call with
  | observe observation => exact @linked_observe tools coerce tenantId tables linked observation
  | build build =>
      exact @linked_recluster tools coerce tenantId _
        (linked_matched linked build build.accountIds) build.score

end Matches

/-! ## The feed of an account -/

section Reading

variable {tenantId : Uuid} {tables : MatchTables} {service : HoldingRelevanceService}
  {rest : Database}

theorem id_of_observation {db : Database} {id : Uuid} {observation : Observation}
    (found : db.observation id = some observation) : observation.item.id = id := by
  rw [Database.observation] at found
  simpa using List.find?_some found

/-- The observations that an entry shows are those of its cluster. -/
theorem mem_itemsOf_database (linked : Linked tenantId tables) {clusterId itemId : Uuid}
    (stored : ∃ securityId, tables.IsStored itemId securityId) :
    itemId ∈ ((tables.database rest).itemsOf tenantId clusterId).map (·.id) ↔
      itemId ∈ tables.store.itemsOf clusterId := by
  rw [ClusterStore.mem_itemsOf, List.mem_map]
  constructor
  · rintro ⟨item, itemMem, rfl⟩
    rw [Database.itemsOf, List.mem_filterMap] at itemMem
    rcases itemMem with ⟨edge, edgeMem, isItem⟩
    rw [List.mem_mergeSort, List.mem_filter, decide_eq_true_eq] at edgeMem
    rcases Option.map_eq_some_iff.mp isItem with ⟨observation, found, rfl⟩
    rw [id_of_observation found]
    exact ⟨edge, edgeMem.1, edgeMem.2.1, rfl⟩
  · rintro ⟨edge, edgeMem, isCluster, isItem⟩
    rcases stored with ⟨_, observation, observationMem, isId, _⟩
    cases found : (tables.database rest).observation itemId with
    | none =>
        have other := List.find?_eq_none.mp found observation observationMem
        exact absurd (decide_eq_true isId) other
    | some observation =>
        refine ⟨observation.item, ?_, id_of_observation found⟩
        rw [Database.itemsOf, List.mem_filterMap]
        refine ⟨edge, ?_, by rw [isItem, found]; rfl⟩
        rw [List.mem_mergeSort, List.mem_filter, decide_eq_true_eq]
        exact ⟨edgeMem, isCluster, linked.edges edge edgeMem⟩

/-- An entry of the feed of an account shows a cluster, all of its observations. -/
theorem mem_visibleEntries {accountId : Uuid} {entry : FeedEntry}
    (isMem : entry ∈ service.visibleEntries (tables.database rest) tenantId
      { accountId := some (some accountId) }) :
    ∃ cluster ∈ HoldingRelevanceService.matchingClusters (tables.database rest) tenantId
        { accountId := some (some accountId) },
      entry.itemIds = ((tables.database rest).itemsOf tenantId cluster.id).map (·.id) := by
  rw [HoldingRelevanceService.visibleEntries, List.mem_filter, List.mem_filterMap] at isMem
  rcases isMem with ⟨⟨cluster, clusterMem, isEntry⟩, _⟩
  refine ⟨cluster, clusterMem, ?_⟩
  rcases Option.map_eq_some_iff.mp isEntry with ⟨items, isItems, rfl⟩
  cases isItems
  rfl

theorem exists_visibleEntry {accountId : Uuid} {cluster : RelevanceCluster}
    (isMem : cluster ∈ HoldingRelevanceService.matchingClusters (tables.database rest) tenantId
      { accountId := some (some accountId) }) :
    ∃ entry ∈ service.visibleEntries (tables.database rest) tenantId
        { accountId := some (some accountId) },
      entry.itemIds = ((tables.database rest).itemsOf tenantId cluster.id).map (·.id) := by
  cases isEntry : service.clusterToDto (tables.database rest) tenantId cluster none none true with
  | none => cases isEntry
  | some entry =>
      refine ⟨entry, ?_, ?_⟩
      · rw [HoldingRelevanceService.visibleEntries, List.mem_filter, List.mem_filterMap]
        exact ⟨⟨cluster, isMem, isEntry⟩, rfl⟩
      · rcases Option.map_eq_some_iff.mp isEntry with ⟨items, isItems, rfl⟩
        cases isItems
        rfl

/-- Without a security an account sees the clusters with an observation that is matched for
it. -/
theorem mem_filterByAccount {db : Database} {accountId : Uuid} {clusters : List RelevanceCluster}
    {cluster : RelevanceCluster} (noSecurity : cluster.securityId = none) :
    cluster ∈ filterByAccount db tenantId accountId clusters ↔ cluster ∈ clusters ∧
      ∃ edge ∈ db.clusterItems, edge.tenantId = tenantId ∧ edge.clusterId = cluster.id ∧
        ∃ row ∈ db.relevance, (row.tenantId = tenantId ∧ row.accountId = some accountId) ∧
          row.itemId = edge.itemId := by
  have touches : ∀ edge ∈ db.clusterItems, edge.tenantId = tenantId → cluster ∈ clusters →
      edge.clusterId = cluster.id → edge ∈ db.clusterItems.filter fun edge =>
        edge.tenantId = tenantId ∧ edge.clusterId ∈ clusters.map (·.id) := by
    intro edge edgeMem ofTenant clusterMem isCluster
    rw [List.mem_filter, decide_eq_true_eq, isCluster]
    exact ⟨edgeMem, ofTenant, List.mem_map_of_mem clusterMem⟩
  rw [filterByAccount]
  split
  · next noEdges =>
      refine iff_of_false List.not_mem_nil ?_
      rintro ⟨clusterMem, edge, edgeMem, ofTenant, isCluster, _⟩
      have isEdge := touches edge edgeMem ofTenant clusterMem isCluster
      rw [noEdges] at isEdge
      cases isEdge
  · rw [List.mem_filter, noSecurity, Option.any_none, Bool.or_false, List.any_eq_true]
    refine and_congr_right fun clusterMem => ?_
    constructor
    · rintro ⟨edge, edgeMem, isMatched⟩
      rw [List.mem_filter, decide_eq_true_eq] at edgeMem
      rw [decide_eq_true_eq, List.mem_map] at isMatched
      rcases isMatched with ⟨isCluster, row, rowMem, isItem⟩
      rw [List.mem_filter, decide_eq_true_eq] at rowMem
      exact ⟨edge, edgeMem.1, edgeMem.2.1, isCluster, row, rowMem.1, rowMem.2, isItem⟩
    · rintro ⟨edge, edgeMem, ofTenant, isCluster, row, rowMem, isRow, isItem⟩
      refine ⟨edge, touches edge edgeMem ofTenant clusterMem isCluster, ?_⟩
      rw [decide_eq_true_eq, List.mem_map]
      exact ⟨isCluster, row, List.mem_filter.mpr ⟨rowMem, decide_eq_true isRow⟩, isItem⟩

theorem mem_of_mem_filterByAccount {db : Database} {accountId : Uuid}
    {clusters : List RelevanceCluster} {cluster : RelevanceCluster}
    (isMem : cluster ∈ filterByAccount db tenantId accountId clusters) :
    cluster ∈ clusters := by
  rw [filterByAccount] at isMem
  split at isMem
  · cases isMem
  · exact (List.mem_filter.mp isMem).1

/-- The clusters that an account sees. -/
theorem mem_matchingClusters_iff (linked : Linked tenantId tables) {accountId : Uuid}
    {cluster : RelevanceCluster} (noSecurity : cluster.securityId = none) :
    cluster ∈ HoldingRelevanceService.matchingClusters (tables.database rest) tenantId
        { accountId := some (some accountId) } ↔
      cluster ∈ tables.store.clusters.rows ∧
        ∃ itemId ∈ tables.store.itemsOf cluster.id, tables.IsFor accountId itemId := by
  change cluster ∈ filterByAccount _ _ _ _ ↔ _
  rw [mem_filterByAccount noSecurity, List.mem_mergeSort, List.mem_filter]
  constructor
  · rintro ⟨⟨clusterMem, _⟩, edge, edgeMem, _, isCluster, row, rowMem, isRow, isItem⟩
    exact ⟨clusterMem, edge.itemId, ClusterStore.mem_itemsOf.mpr ⟨edge, edgeMem, isCluster, rfl⟩,
      row, rowMem, isItem, isRow.2⟩
  · rintro ⟨clusterMem, itemId, isItem, row, rowMem, isRow, isFor⟩
    rcases ClusterStore.mem_itemsOf.mp isItem with ⟨edge, edgeMem, isCluster, same⟩
    refine ⟨⟨clusterMem, ?_⟩, edge, edgeMem, linked.edges edge edgeMem, isCluster, row, rowMem,
      ⟨(linked.rows row rowMem).1, isFor⟩, isRow.trans same.symm⟩
    simp [(linked.clusters cluster clusterMem).1, isWanted, isWithin]

/-- A story of an observation without a security is told to an account exactly if an
observation of a cluster that it is in is matched for the account. -/
theorem told_iff (linked : Linked tenantId tables) {accountId itemId : Uuid}
    (stored : tables.IsStored itemId none) :
    Told service rest tenantId tables accountId itemId ↔
      ∃ cluster ∈ tables.store.clusters.rows, itemId ∈ tables.store.itemsOf cluster.id ∧
        ∃ other ∈ tables.store.itemsOf cluster.id, tables.IsFor accountId other := by
  have isItem : ∀ clusterId, itemId ∈ ((tables.database rest).itemsOf tenantId clusterId).map
      (·.id) ↔ itemId ∈ tables.store.itemsOf clusterId :=
    fun _ => mem_itemsOf_database linked ⟨none, stored⟩
  have noSecurity : ∀ cluster ∈ tables.store.clusters.rows,
      itemId ∈ tables.store.itemsOf cluster.id → cluster.securityId = none :=
    fun cluster isMem inCluster => linked.security_unique
      ((linked.clusters cluster isMem).2 itemId inCluster) stored
  constructor
  · rintro ⟨entry, entryMem, shown⟩
    rcases mem_visibleEntries entryMem with ⟨cluster, matching, isEntry⟩
    rw [isEntry, isItem] at shown
    have clusterMem := mem_of_mem_filterByAccount matching
    rw [List.mem_mergeSort, List.mem_filter] at clusterMem
    have isMatched := (mem_matchingClusters_iff linked
      (noSecurity cluster clusterMem.1 shown)).mp matching
    exact ⟨cluster, isMatched.1, shown, isMatched.2⟩
  · rintro ⟨cluster, clusterMem, inCluster, matchedItem⟩
    have matching : cluster ∈ HoldingRelevanceService.matchingClusters (tables.database rest)
        tenantId { accountId := some (some accountId) } :=
      (mem_matchingClusters_iff linked (noSecurity cluster clusterMem inCluster)).mpr
        ⟨clusterMem, matchedItem⟩
    rcases @exists_visibleEntry _ _ service _ _ _ matching with ⟨entry, entryMem, isEntry⟩
    refine ⟨entry, entryMem, ?_⟩
    rw [isEntry, isItem]
    exact inCluster

end Reading

/-! ## Every build of a run -/

section Runs

variable {tools : TextTools} {coerce : FactValue → Option ZonedTime} {tenantId : Uuid}
  {service : HoldingRelevanceService} {rest : Database}

theorem under_iff {tables : MatchTables} {score : ClusterScore} {entries : List Entry}
    {after : ClusterStore} (built : ClusterStore.Built score tenantId entries tables.store after)
    {cluster : RelevanceCluster} (isMem : cluster ∈ after.clusters.rows) (itemId : Uuid) :
    itemId ∈ after.itemsOf cluster.id ↔ Under tables.store entries cluster.storyKey itemId :=
  built.items cluster isMem itemId

/-- A build in an order reaches exactly the accounts that an observation of the story is
assigned to. -/
theorem told_buildFeed_iff {tables : MatchTables} (linked : Linked tenantId tables)
    (build : Build) (order : List Uuid) {accountId : Uuid} {item : MarketIntelligenceItem}
    (isEvent : item ∈ cashEvents tools tables build) :
    Told service rest tenantId (buildFeed tools tables build coerce tenantId order) accountId
        item.id ↔
      let after := matched tools tables build coerce tenantId order
      let entries := resolved tools after.observations after.rows
      ∃ story ∈ storiesOf entries, Under tables.store entries story.key item.id ∧
        ∃ other, Under tables.store entries story.key other ∧
          Assigned tools tables build order accountId other := by
  have spec := @matched_spec tools coerce tenantId tables build order
  have linkedMatched := @linked_matched tools coerce tenantId tables linked build order
  have linkedBuilt := @linked_recluster tools coerce tenantId _ linkedMatched build.score
  have stored := spec.1.isStored_iff.mpr (stored_of_mem_cashEvents isEvent)
  rw [buildFeed]
  generalize matched tools tables build coerce tenantId order = after
    at spec linkedMatched linkedBuilt stored ⊢
  rw [told_iff linkedBuilt stored]
  have built : ClusterStore.Built build.score tenantId
      (resolved tools after.observations after.rows) after.store
      (matchStep tools coerce tenantId after (.recluster build.score)).store :=
    ClusterStore.recluster_built linkedMatched.sound.keyed build.score tenantId _
  have sameRows : ∀ accountId itemId,
      (matchStep tools coerce tenantId after (.recluster build.score)).IsFor accountId itemId ↔
        Assigned tools tables build order accountId itemId := spec.2
  simp only [sameRows, ← spec.1.store]
  generalize matchStep tools coerce tenantId after (.recluster build.score) = final at built ⊢
  constructor
  · rintro ⟨cluster, clusterMem, isItem, other, isOther, isFor⟩
    rcases built.rows cluster clusterMem with ⟨story, isStory, isKey, _⟩
    have under := under_iff built clusterMem
    rw [isKey] at under
    exact ⟨story, isStory, (under item.id).mp isItem, other, (under other).mp isOther, isFor⟩
  · rintro ⟨story, isStory, isItem, other, isOther, isFor⟩
    rcases built.exists_row story isStory with ⟨cluster, clusterMem, isKey⟩
    have under := under_iff built clusterMem
    rw [isKey] at under
    exact ⟨cluster, clusterMem, (under item.id).mpr isItem, other, (under other).mpr isOther, isFor⟩

/-! ### A single account -/

/-- Every match without a security is for the account. -/
def OnlyFor (accountId : Uuid) (tables : MatchTables) : Prop :=
  ∀ row ∈ tables.rows, row.securityId = none → row.accountId = some accountId

theorem onlyFor_relates {accountId : Uuid} (rows : List HoldingRelevanceItem) :
    ∀ {tables : MatchTables}, OnlyFor accountId tables →
      (∀ row ∈ rows, tables.IsStored row.itemId row.securityId ∧
        (row.securityId = none → row.accountId = some accountId)) →
      OnlyFor accountId (runAll (matchStep tools coerce tenantId) tables (rows.map .relate)) := by
  induction rows with
  | nil => exact fun only _ => only
  | cons row rest ih =>
      intro tables only all
      rcases all row List.mem_cons_self with ⟨stored, isOnly⟩
      have isRelated : Related tenantId row tables (matchStep tools coerce tenantId tables _) :=
        related stored
      apply ih
      · intro other isMem noSecurity
        rcases isRelated.rows with ⟨_, same⟩ | ⟨_, eventDate, added⟩
        · rw [same] at isMem
          exact only other isMem noSecurity
        · rw [added, List.mem_append, List.mem_singleton] at isMem
          rcases isMem with old | rfl
          · exact only other old noSecurity
          · exact isOnly noSecurity
      · intro other isMem
        rcases all other (List.mem_cons_of_mem _ isMem) with ⟨otherStored, otherOnly⟩
        refine ⟨otherStored.mono ?_, otherOnly⟩
        rw [isRelated.observations]
        exact List.Subset.refl _

/-- The accounts of a call are no others than this one. -/
def FeedCall.IsSingle (accountId : Uuid) : FeedCall → Prop
  | .observe _ => True
  | .build feed => ∀ other ∈ feed.accountIds, other = accountId

theorem onlyFor_feedStep {accountId : Uuid} {tables : MatchTables}
    (only : OnlyFor accountId tables) {call : FeedCall} (single : call.IsSingle accountId) :
    OnlyFor accountId (feedStep tools coerce tenantId tables call) := by
  cases call with
  | observe observation =>
      rw [feedStep, matchStep]
      split
      · exact only
      · exact only
  | build build =>
      change OnlyFor accountId (matched tools tables build coerce tenantId build.accountIds)
      rw [matched_eq]
      apply onlyFor_relates _ only
      intro row isMem
      rcases of_mem_buildRows isMem with ⟨stored, isCash⟩
      refine ⟨stored, fun noSecurity => ?_⟩
      rcases isCash noSecurity with ⟨other, otherMem, isAccount⟩
      rw [isAccount, single other otherMem]

/-- With a single account every story of a cash event is matched for it. -/
theorem tellsAll_of_single {accountId : Uuid} {tables : MatchTables}
    (linked : Linked tenantId tables) (only : OnlyFor accountId tables) {build : Build}
    (single : ∀ other ∈ build.accountIds, other = accountId) :
    TellsAll tools coerce tenantId tables build := by
  intro order perm cashAccount isCash item isEvent after entries
  have inOrder : cashAccount ∈ order :=
    perm.mem_iff.mpr ((build.isAccount cashAccount).mpr (.inr isCash))
  have same : ∀ other ∈ order, other = accountId :=
    fun other isMem => single other (perm.mem_iff.mp isMem)
  rw [same cashAccount inOrder]
  have spec := @matched_spec tools coerce tenantId tables build order
  have linkedAfter := @linked_matched tools coerce tenantId tables linked build order
  have assigned : Assigned tools tables build order accountId item.id := by
    by_cases hasRow : tables.HasRow item.id none
    · rcases hasRow with ⟨row, rowMem, isItem, noSecurity⟩
      exact .inl ⟨row, rowMem, isItem, only row rowMem noSecurity⟩
    · refine .inr ⟨⟨item, isEvent, rfl⟩, hasRow, ?_⟩
      cases order with
      | nil => cases inOrder
      | cons first rest => rw [List.head?_cons, same first List.mem_cons_self]
  -- The row is told in some story.
  rcases (spec.2 accountId item.id).mpr assigned with ⟨row, rowMem, isItem, _⟩
  rcases (linkedAfter.rows row rowMem).2 with ⟨observation, observationMem, isId, _⟩
  have isResolved : ∃ entry ∈ entries, entry.row = row :=
    exists_resolved rowMem ⟨observation, observationMem, isId⟩
  rcases isResolved with ⟨entry, entryMem, rfl⟩
  have inStory := (flatMap_storiesOf entries).mem_iff.mpr entryMem
  rcases List.mem_flatMap.mp inStory with ⟨story, isStory, inBucket⟩
  have under : Under tables.store entries story.key item.id :=
    .inr ⟨story, isStory, rfl, List.mem_map.mpr ⟨entry, inBucket, isItem⟩⟩
  exact ⟨story, isStory, under, item.id, under, assigned⟩

/-! ### All runs -/

/-- Every build of a run meets the condition, which speaks about the tables before it. -/
def AtBuilds (tools : TextTools) (coerce : FactValue → Option ZonedTime) (tenantId : Uuid)
    (condition : MatchTables → Build → Prop) (calls : List FeedCall) : Prop :=
  ∀ before build after, calls = before ++ .build build :: after →
    condition (runAll (feedStep tools coerce tenantId) .empty before) build

theorem linked_run (calls : List FeedCall) :
    ∀ {tables : MatchTables}, Linked tenantId tables →
      Linked tenantId (runAll (feedStep tools coerce tenantId) tables calls) := by
  induction calls with
  | nil => exact fun linked => linked
  | cons call rest ih =>
      exact fun linked => ih (linked_feedStep linked call)

theorem onlyFor_run {accountId : Uuid} (calls : List FeedCall) :
    ∀ {tables : MatchTables}, OnlyFor accountId tables →
      (∀ call ∈ calls, call.IsSingle accountId) →
      OnlyFor accountId (runAll (feedStep tools coerce tenantId) tables calls) := by
  induction calls with
  | nil => exact fun only _ => only
  | cons call rest ih =>
      intro tables only single
      exact ih (onlyFor_feedStep only (single call List.mem_cons_self))
        fun other isMem => single other (List.mem_cons_of_mem _ isMem)

theorem reachesAll_iff {tables : MatchTables} (linked : Linked tenantId tables) (build : Build) :
    ReachesAll tools coerce service rest tenantId tables build ↔
      TellsAll tools coerce tenantId tables build := by
  refine forall₂_congr fun order _ => forall₂_congr fun accountId _ =>
    forall₂_congr fun item isEvent => ?_
  exact told_buildFeed_iff linked build order isEvent

/-- In every run a build lets each cash account see each cash event, in whatever order the
accounts come, exactly if the stories have observations that are matched for the accounts.
That is so for a tenant with a single account. -/
theorem cash_events_reach_iff (tools : TextTools) (coerce : FactValue → Option ZonedTime)
    (service : HoldingRelevanceService) (rest : Database) (tenantId : Uuid)
    (calls : List FeedCall) :
    (AtBuilds tools coerce tenantId (ReachesAll tools coerce service rest tenantId) calls ↔
      AtBuilds tools coerce tenantId (TellsAll tools coerce tenantId) calls) ∧
    ∀ accountId, (∀ call ∈ calls, call.IsSingle accountId) →
      AtBuilds tools coerce tenantId (ReachesAll tools coerce service rest tenantId) calls := by
  have isLinked : ∀ before, Linked tenantId
      (runAll (feedStep tools coerce tenantId) .empty before) :=
    fun before => linked_run before empty_linked
  constructor
  · refine forall_congr' fun before => forall₂_congr fun build after => ?_
    exact imp_congr_right fun _ => reachesAll_iff (isLinked before) build
  · intro accountId single before build after split
    rw [reachesAll_iff (isLinked before)]
    rw [split] at single
    have only : OnlyFor accountId (runAll (feedStep tools coerce tenantId) .empty before) :=
      onlyFor_run before (List.forall_mem_nil _) fun call isMem =>
        single call (List.mem_append_left _ isMem)
    exact tellsAll_of_single (isLinked before) only
      (single (.build build) (List.mem_append_right _ List.mem_cons_self))

end Runs

/-! ### Two accounts -/

/-- A change of the interest rate. -/
def rateChange : Observation where
  tenantId := 1
  item :=
    { sampleItem 1 "rate change" with
      securityId := none
      facts := [{ key := "event_type", value := .text "interest" }] }

/-- A tenant with the cash accounts 10 and 20. -/
def twoAccounts : Build where
  since := 0
  holdings := []
  recentlySold := []
  holdingWeight := fun _ => none
  cashAccounts := [10, 20]
  accountIds := [10, 20]
  score := fun _ _ => 0
  nodup := by decide
  isAccount := by simp

theorem second_account_not_told :
    ¬ ReachesAll plainTools (fun _ => none) sampleService (sampleDatabase none) 1
      (runAll (feedStep plainTools (fun _ => none) 1) .empty [.observe rateChange])
      twoAccounts := by
  have linked : Linked 1 (runAll (feedStep plainTools (fun _ => none) 1) .empty
    [.observe rateChange]) := linked_run _ empty_linked
  rw [reachesAll_iff linked]
  intro tells
  have isEvent : rateChange.item ∈ cashEvents plainTools
      (runAll (feedStep plainTools (fun _ => none) 1) .empty [.observe rateChange])
      twoAccounts := by
    rw [cashEvents, List.mem_filter, windowItems, List.mem_mergeSort]
    exact ⟨List.mem_filter.mpr ⟨List.mem_singleton_self _, rfl⟩, by decide +kernel⟩
  rcases tells [10, 20] (List.Perm.refl _) 20 (by decide) rateChange.item isEvent with
    ⟨story, _, _, other, _, old | new⟩
  · rcases old with ⟨row, rowMem, _⟩
    cases rowMem
  · exact absurd new.2.2 (by decide)

end FinanceSync.Relevance
