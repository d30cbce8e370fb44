import FinanceSync.Relevance.Observations

/-!
# The holding feed and its corrections

`feed` shows a user the clusters of a tenant with their sources, `calendar` the events, and
`correct` files a dismissal.  A dismissal takes effect in the clusters of the security that it
was first filed for: there neither the observation nor one with the same title is a source any
more, and a cluster without other sources is not shown.  Nobody else's results change.
-/

namespace FinanceSync.Relevance

open FinanceSync.Intel (IntelLicenseClass IntelStructuredFact MarketIntelligenceItem)
open FinanceSync.Sync (Security)

/-! ## The database -/

structure Database where
  observations : List Observation
  relevance : List HoldingRelevanceItem
  clusters : List RelevanceCluster
  clusterItems : List RelevanceClusterItem
  acks : List RelevanceAck
  corrections : List RelevanceCorrection
  positions : List Position
  securities : List Security

namespace Database

variable (db : Database)

/-- `market_intelligence_items.get` -/
def observation (id : Uuid) : Option Observation := db.observations.find? (·.item.id = id)

/-- The observations of a cluster in the order of their positions. -/
def itemsOf (tenantId clusterId : Uuid) : List MarketIntelligenceItem :=
  let edges := db.clusterItems.filter fun edge =>
    edge.clusterId = clusterId ∧ edge.tenantId = tenantId
  (edges.mergeSort fun first second => decide (first.position ≤ second.position)).filterMap
    fun edge => (db.observation edge.itemId).map (·.item)

end Database

/-! ## Corrections -/

/-- A correction is one of a user about an observation. -/
def RelevanceCorrection.IsOf (tenantId userId itemId : Uuid) (correction : RelevanceCorrection) :
    Prop :=
  correction.tenantId = tenantId ∧ correction.userId = userId ∧ correction.itemId = itemId

instance (tenantId userId itemId : Uuid) (correction : RelevanceCorrection) :
    Decidable (correction.IsOf tenantId userId itemId) :=
  inferInstanceAs (Decidable (_ ∧ _ ∧ _))

/-- `correct`; an identifier that is not well formed is `none`. -/
def correct (tools : TextTools) (db : Database) (tenantId userId : Uuid) (itemId : Option Uuid)
    (securityId : Option Uuid) (action : String) (reason : Option String) : Database × Bool :=
  match itemId with
  | none => (db, false)
  | some itemId =>
      if (db.observation itemId).any (·.tenantId = tenantId) then
        if db.corrections.any (·.IsOf tenantId userId itemId) then (db, true)
        else
          let filed : RelevanceCorrection :=
            { tenantId, userId, itemId, securityId, action
              reason := (reason.filter (· ≠ "")).map fun reason =>
                String.ofList ((tools.redact reason).toList.take 2000) }
          ({ db with corrections := db.corrections ++ [filed] }, true)
      else (db, false)

/-- The corrections of a user for a security. -/
def correctionsFor (db : Database) (tenantId userId securityId : Uuid) :
    List RelevanceCorrection :=
  db.corrections.filter fun correction => correction.tenantId = tenantId ∧
    correction.userId = userId ∧ correction.securityId = some securityId

/-- The titles that corrections dismiss. -/
def dismissedTitles (tools : TextTools) (db : Database)
    (corrections : List RelevanceCorrection) : List String :=
  (corrections.filterMap fun correction => (db.observation correction.itemId).map fun stored =>
    titleFingerprint tools stored.item.headline).filter (· ≠ "")

/-- `_apply_corrections` -/
def applyCorrections (tools : TextTools) (db : Database) (tenantId userId : Uuid)
    (items : List MarketIntelligenceItem) (clusterSecurityId : Option Uuid) :
    List MarketIntelligenceItem :=
  match clusterSecurityId with
  | none => items
  | some securityId =>
      let corrections := correctionsFor db tenantId userId securityId
      items.filter fun item =>
        item.id ∉ corrections.map (·.itemId) ∧
          titleFingerprint tools item.headline ∉ dismissedTitles tools db corrections

/-! ## Entries -/

/-- A source of an entry. -/
structure FeedSource where
  itemId : Uuid
  provider : String
  sourceId : String
  url : Option String
  headline : Option String
  publishedAt : Instant
  fetchedAt : Instant
  fresh : Bool
  licenseClass : IntelLicenseClass

/-- An entry of the feed. -/
structure FeedEntry where
  clusterId : Uuid
  securityId : Option Uuid
  securityTicker : Option String
  securityName : Option String
  eventType : String
  eventDate : Option Instant
  headline : String
  score : ℚ
  matchReason : Option String
  confidence : Option ℚ
  isStale : Bool
  sourceCount : Nat
  clusterReason : Option ClusterReason
  earliestPublishedAt : Option Instant
  itemIds : List Uuid
  bestSourceUrl : Option String
  acknowledged : Bool
  sources : List FeedSource
  hermesExplanation : Option String := none

/-- The service: its clock, its text functions and its optional explainer, which answers
nothing where it fails. -/
structure HoldingRelevanceService where
  tools : TextTools
  now : Instant
  explainer : Option (FeedEntry → Option (List IntelStructuredFact) → Option String)

/-- The first of the rows with the highest confidence. -/
def bestMatch (rows : List HoldingRelevanceItem) : Option HoldingRelevanceItem :=
  rows.foldl (fun best row =>
    match best with
    | none => some row
    | some best => if best.confidence < row.confidence then some row else some best) none

namespace HoldingRelevanceService

variable (service : HoldingRelevanceService) (db : Database)

def feedSource (item : MarketIntelligenceItem) : FeedSource where
  itemId := item.id
  provider := item.provider
  sourceId := item.sourceId
  url := safeSourceUrl service.tools item.canonicalUrl
  headline := item.headline
  publishedAt := item.publishedAt
  fetchedAt := item.fetchedAt
  fresh := isFresh service.now item
  licenseClass := item.licenseClass

/-- The sources of a cluster that a reader sees; `none` where the cluster is left out. -/
def visibleItems (tenantId : Uuid) (cluster : RelevanceCluster) (userId : Option Uuid)
    (includeStale : Bool) : Option (List MarketIntelligenceItem) :=
  let items := db.itemsOf tenantId cluster.id
  let fresh := if includeStale then items else items.filter (isFresh service.now)
  if includeStale = false ∧ fresh = [] then none
  else
    match userId with
    | none => some fresh
    | some userId =>
        let visible := applyCorrections service.tools db tenantId userId fresh cluster.securityId
        if visible = [] then none else some visible

/-- The entry of a cluster with its sources, before it is explained. -/
def entryOf (tenantId : Uuid) (cluster : RelevanceCluster) (ack : Option RelevanceAck)
    (items : List MarketIntelligenceItem) : FeedEntry :=
  let security := cluster.securityId.bind fun id => db.securities.find? (·.id = id)
  let provenance := bestMatch (db.relevance.filter fun row =>
    row.tenantId = tenantId ∧ row.itemId ∈ items.map (·.id))
  { clusterId := cluster.id
    securityId := cluster.securityId
    securityTicker := security.bind (·.ticker)
    securityName := security.map (·.name)
    eventType := cluster.eventType
    eventDate := cluster.eventDate
    headline := cluster.headline
    score := cluster.score
    matchReason := provenance.map (·.matchReason)
    confidence := provenance.map (·.confidence)
    isStale := !items.isEmpty && items.all fun item => !isFresh service.now item
    sourceCount := cluster.sourceCount
    clusterReason := cluster.clusterReason
    earliestPublishedAt := cluster.earliestPublishedAt
    itemIds := items.map (·.id)
    bestSourceUrl := safeSourceUrl service.tools cluster.bestSourceUrl
    acknowledged := (ack.map (·.acknowledged)).getD false
    sources := items.map service.feedSource }

/-- `_cluster_to_dto` -/
def clusterToDto (tenantId : Uuid) (cluster : RelevanceCluster) (ack : Option RelevanceAck)
    (userId : Option Uuid) (includeStale : Bool) : Option FeedEntry :=
  (service.visibleItems db tenantId cluster userId includeStale).map fun items =>
    let entry := service.entryOf db tenantId cluster ack items
    let facts := (items.find? (·.facts ≠ [])).map (·.facts)
    { entry with
      hermesExplanation :=
        (service.explainer.bind fun explain => explain entry facts).filter (· ≠ "") }

end HoldingRelevanceService

/-! ## Reading the feed -/

/-- The filters of a call of `feed`; a filter by an identifier that is not well formed is
`some none`. -/
structure FeedFilter where
  userId : Option Uuid := none
  securityId : Option (Option Uuid) := none
  accountId : Option (Option Uuid) := none
  itemType : Option String := none
  dateFrom : Option Instant := none
  dateTo : Option Instant := none
  unreadOnly : Bool := false
  acknowledged : Option Bool := none
  includeStale : Bool := true
  limit : Nat := 50
  offset : Nat := 0

structure Feed where
  items : List FeedEntry
  total : Nat
  limit : Nat
  offset : Nat

structure CalendarEvent where
  id : Uuid
  securityId : Option Uuid
  securityTicker : Option String
  eventType : String
  eventDate : Option Instant
  headline : String
  score : ℚ

/-- A value is the one that is asked for, if one is. -/
def isWanted {Value : Type} [DecidableEq Value] (wanted : Option (Option Value))
    (value : Option Value) : Bool :=
  match wanted with
  | none => true
  | some none => false
  | some (some wanted) => value = some wanted

/-- `event_date >= date_from` and `event_date <= date_to`; without a date neither holds. -/
def isWithin (dateFrom dateTo eventDate : Option Instant) : Bool :=
  dateFrom.all (fun limit => eventDate.any (limit ≤ ·)) &&
    dateTo.all (fun limit => eventDate.any (· ≤ limit))

/-- Highest score first and latest event first; what has no date comes first. -/
def ranksBefore (first second : RelevanceCluster) : Bool :=
  if first.score = second.score then
    match first.eventDate, second.eventDate with
    | none, _ => true
    | some _, none => false
    | some one, some other => other ≤ one
  else second.score ≤ first.score

/-- `_filter_by_account` -/
def filterByAccount (db : Database) (tenantId accountId : Uuid)
    (clusters : List RelevanceCluster) : List RelevanceCluster :=
  let edges := db.clusterItems.filter fun edge =>
    edge.tenantId = tenantId ∧ edge.clusterId ∈ clusters.map (·.id)
  if edges = [] then []
  else
    let matched := (db.relevance.filter fun row =>
      row.tenantId = tenantId ∧ row.accountId = some accountId).map (·.itemId)
    let held := (db.positions.filter fun position => position.tenantId = tenantId ∧
      position.accountId = accountId ∧ 0 < position.quantity).map (·.securityId)
    clusters.filter fun cluster =>
      (edges.any fun edge => edge.clusterId = cluster.id ∧ edge.itemId ∈ matched) ||
        cluster.securityId.any (· ∈ held)

/-- The ack of a user for a cluster. -/
def ackOf (db : Database) (tenantId : Uuid) (userId : Option Uuid) (clusterId : Uuid) :
    Option RelevanceAck :=
  userId.bind fun userId => db.acks.find? fun ack =>
    ack.tenantId = tenantId ∧ ack.userId = userId ∧ ack.clusterId = clusterId

namespace HoldingRelevanceService

variable (service : HoldingRelevanceService) (db : Database) (tenantId : Uuid)

/-- The clusters that pass the filters, best first. -/
def matchingClusters (filters : FeedFilter) : List RelevanceCluster :=
  let clusters := (db.clusters.filter fun cluster =>
    cluster.tenantId = tenantId && isWanted filters.securityId cluster.securityId &&
      !(filters.accountId == some none) &&
      (filters.itemType.filter (· ≠ "")).all (cluster.eventType = ·) &&
      isWithin filters.dateFrom filters.dateTo cluster.eventDate).mergeSort ranksBefore
  match filters.accountId with
  | some (some accountId) => filterByAccount db tenantId accountId clusters
  | _ => clusters

/-- The filters on what a user has read. -/
def passesAck (filters : FeedFilter) (entry : FeedEntry) : Bool :=
  !(filters.unreadOnly && entry.acknowledged) &&
    filters.acknowledged.all (entry.acknowledged = ·)

/-- The entries that a user can page through. -/
def visibleEntries (filters : FeedFilter) : List FeedEntry :=
  ((matchingClusters db tenantId filters).filterMap fun cluster =>
    service.clusterToDto db tenantId cluster (ackOf db tenantId filters.userId cluster.id)
      filters.userId filters.includeStale).filter (passesAck filters)

/-- `feed` -/
def feed (filters : FeedFilter) : Feed :=
  let visible := service.visibleEntries db tenantId filters
  { items := (visible.drop filters.offset).take filters.limit
    total := visible.length
    limit := filters.limit
    offset := filters.offset }

/-- Earliest event first. -/
def datedBefore (first second : RelevanceCluster) : Bool :=
  match first.eventDate, second.eventDate with
  | some one, some other => one ≤ other
  | _, _ => true

/-- `calendar` -/
def calendar (dateFrom dateTo : Option Instant) (limit : Nat) : List CalendarEvent :=
  let clusters := (db.clusters.filter fun cluster => cluster.tenantId = tenantId &&
    cluster.eventDate.isSome && isWithin dateFrom dateTo cluster.eventDate).mergeSort datedBefore
  (clusters.take limit).filterMap fun cluster =>
    (service.clusterToDto db tenantId cluster none none true).map fun entry =>
      { id := entry.clusterId
        securityId := entry.securityId
        securityTicker := entry.securityTicker
        eventType := entry.eventType
        eventDate := entry.eventDate
        headline := entry.headline
        score := entry.score }

end HoldingRelevanceService

/-! ## What a dismissal hides -/

theorem mem_correctionsFor {db : Database} {tenantId userId securityId : Uuid}
    {correction : RelevanceCorrection} :
    correction ∈ correctionsFor db tenantId userId securityId ↔
      correction ∈ db.corrections ∧ correction.tenantId = tenantId ∧
        correction.userId = userId ∧ correction.securityId = some securityId := by
  simp only [correctionsFor, List.mem_filter, decide_eq_true_eq]

/-- A title has the fingerprint of an observation. -/
def SameTitle (tools : TextTools) (stored : Observation) (headline : Option String) : Prop :=
  titleFingerprint tools stored.item.headline ≠ "" ∧
    titleFingerprint tools headline = titleFingerprint tools stored.item.headline

/-- What is left after the corrections is neither dismissed nor has it a dismissed title. -/
theorem of_mem_applyCorrections {tools : TextTools} {db : Database} {tenantId userId : Uuid}
    {items : List MarketIntelligenceItem} {securityId : Uuid} {item : MarketIntelligenceItem}
    (visible : item ∈ applyCorrections tools db tenantId userId items (some securityId))
    {correction : RelevanceCorrection}
    (filed : correction ∈ correctionsFor db tenantId userId securityId) :
    item.id ≠ correction.itemId ∧
      ∀ stored, db.observation correction.itemId = some stored →
        ¬ SameTitle tools stored item.headline := by
  simp only [applyCorrections, List.mem_filter, decide_eq_true_eq] at visible
  obtain ⟨_, notDismissed, otherTitle⟩ := visible
  constructor
  · intro same
    exact notDismissed (List.mem_map.mpr ⟨correction, filed, same.symm⟩)
  · intro stored isStored ⟨notEmpty, sameTitle⟩
    apply otherTitle
    refine List.mem_filter.mpr ⟨List.mem_filterMap.mpr ⟨correction, filed, ?_⟩, ?_⟩
    · rw [isStored, sameTitle]
      rfl
    · rw [sameTitle]
      exact decide_eq_true notEmpty

namespace HoldingRelevanceService

variable (service : HoldingRelevanceService)

/-- A user sees of a cluster what the corrections leave, and it is something. -/
theorem visibleItems_of_user {db : Database} {tenantId userId : Uuid} {cluster : RelevanceCluster}
    {includeStale : Bool} {visible : List MarketIntelligenceItem}
    (isVisible : service.visibleItems db tenantId cluster (some userId) includeStale =
      some visible) :
    visible ≠ [] ∧ ∃ items,
      visible = applyCorrections service.tools db tenantId userId items cluster.securityId := by
  rw [visibleItems] at isVisible
  simp only at isVisible
  generalize (if includeStale = true then db.itemsOf tenantId cluster.id
    else (db.itemsOf tenantId cluster.id).filter (isFresh service.now)) = fresh at isVisible
  split at isVisible
  · cases isVisible
  · split at isVisible
    · cases isVisible
    · next notEmpty =>
        cases isVisible
        exact ⟨notEmpty, _, rfl⟩

/-- An entry of the feed is that of a cluster with the sources that are visible. -/
theorem exists_of_mem_feed {db : Database} {tenantId : Uuid} {filters : FeedFilter}
    {entry : FeedEntry} (shown : entry ∈ (service.feed db tenantId filters).items) :
    ∃ cluster items,
      service.visibleItems db tenantId cluster filters.userId filters.includeStale = some items ∧
        entry.securityId = cluster.securityId ∧ entry.itemIds = items.map (·.id) ∧
        entry.sources = items.map service.feedSource := by
  have visible := List.mem_of_mem_drop (List.mem_of_mem_take shown)
  obtain ⟨cluster, _, isEntry⟩ := List.mem_filterMap.mp (List.mem_filter.mp visible).1
  obtain ⟨items, isItems, rfl⟩ := Option.map_eq_some_iff.mp isEntry
  exact ⟨cluster, items, isItems, rfl, rfl, rfl⟩

/-- An entry of the security of a correction shows neither the observation nor its title. -/
structure Hides (db : Database) (itemId : Uuid) (entry : FeedEntry) : Prop where
  shows : entry.sources ≠ []
  notListed : itemId ∉ entry.itemIds
  notSource : ∀ source ∈ entry.sources, source.itemId ≠ itemId ∧
    ∀ stored, db.observation itemId = some stored →
      ¬ SameTitle service.tools stored source.headline

theorem hides_of_filed {db : Database} {tenantId userId itemId securityId : Uuid}
    {correction : RelevanceCorrection} (filed : correction ∈ db.corrections)
    (isOf : correction.IsOf tenantId userId itemId)
    (isSecurity : correction.securityId = some securityId) {filters : FeedFilter}
    (reads : filters.userId = some userId) {entry : FeedEntry}
    (shown : entry ∈ (service.feed db tenantId filters).items)
    (ofSecurity : entry.securityId = some securityId) : service.Hides db itemId entry := by
  obtain ⟨cluster, visible, isVisible, sameSecurity, itemIds, sources⟩ :=
    service.exists_of_mem_feed shown
  rw [reads] at isVisible
  obtain ⟨notEmpty, items, applied⟩ := service.visibleItems_of_user isVisible
  rw [← sameSecurity, ofSecurity] at applied
  have apart (item : MarketIntelligenceItem) (itemMem : item ∈ visible) :
      item.id ≠ itemId ∧ ∀ stored, db.observation itemId = some stored →
        ¬ SameTitle service.tools stored item.headline := by
    rw [applied] at itemMem
    rw [← isOf.2.2]
    exact of_mem_applyCorrections itemMem
      (mem_correctionsFor.mpr ⟨filed, isOf.1, isOf.2.1, isSecurity⟩)
  exact
    { shows := by
        rw [sources]
        simpa using notEmpty
      notListed := by
        rw [itemIds]
        intro listed
        obtain ⟨item, itemMem, same⟩ := List.mem_map.mp listed
        exact (apart item itemMem).1 same
      notSource := by
        intro source sourceMem
        rw [sources] at sourceMem
        obtain ⟨item, itemMem, rfl⟩ := List.mem_map.mp sourceMem
        exact apart item itemMem }

end HoldingRelevanceService

/-! ## What a dismissal leaves alone -/

/-- The database as if a user had filed no correction about an observation. -/
def Database.without (db : Database) (tenantId userId itemId : Uuid) : Database :=
  { db with
    corrections := db.corrections.filter fun correction =>
      ¬ correction.IsOf tenantId userId itemId }

theorem correctionsFor_without {db : Database} {tenantId userId itemId tenant user : Uuid}
    (other : tenant ≠ tenantId ∨ user ≠ userId) (securityId : Uuid) :
    correctionsFor (db.without tenantId userId itemId) tenant user securityId =
      correctionsFor db tenant user securityId := by
  rw [correctionsFor, correctionsFor, Database.without, List.filter_filter]
  apply List.filter_congr
  intro correction _
  rw [Bool.eq_iff_iff]
  simp only [RelevanceCorrection.IsOf, Bool.and_eq_true, decide_eq_true_eq]
  constructor
  · exact And.left
  · intro isOther
    refine ⟨isOther, decide_eq_true ?_⟩
    rintro ⟨sameTenant, sameUser, _⟩
    obtain ne | ne := other
    · exact ne (isOther.1.symm.trans sameTenant)
    · exact ne (isOther.2.1.symm.trans sameUser)

namespace HoldingRelevanceService

variable (service : HoldingRelevanceService)

theorem visibleItems_without {db : Database} {tenantId userId itemId tenant : Uuid}
    {reader : Option Uuid} (other : tenant ≠ tenantId ∨ reader ≠ some userId)
    (cluster : RelevanceCluster) (includeStale : Bool) :
    service.visibleItems (db.without tenantId userId itemId) tenant cluster reader includeStale =
      service.visibleItems db tenant cluster reader includeStale := by
  cases reader with
  | none => rfl
  | some user =>
      have otherUser : tenant ≠ tenantId ∨ user ≠ userId :=
        other.imp_right fun ne same => ne (congrArg some same)
      have same (items : List MarketIntelligenceItem) :
          applyCorrections service.tools (db.without tenantId userId itemId) tenant user items
              cluster.securityId =
            applyCorrections service.tools db tenant user items cluster.securityId := by
        cases isSecurity : cluster.securityId with
        | none => rfl
        | some securityId =>
            rw [applyCorrections, applyCorrections]
            simp only [correctionsFor_without otherUser]
            rfl
      simp only [visibleItems, same]
      rfl

theorem clusterToDto_without {db : Database} {tenantId userId itemId tenant : Uuid}
    {reader : Option Uuid} (other : tenant ≠ tenantId ∨ reader ≠ some userId)
    (cluster : RelevanceCluster) (ack : Option RelevanceAck) (includeStale : Bool) :
    service.clusterToDto (db.without tenantId userId itemId) tenant cluster ack reader
        includeStale =
      service.clusterToDto db tenant cluster ack reader includeStale := by
  rw [clusterToDto, clusterToDto, service.visibleItems_without other]
  rfl

theorem feed_without {db : Database} {tenantId userId itemId tenant : Uuid}
    {filters : FeedFilter} (other : tenant ≠ tenantId ∨ filters.userId ≠ some userId) :
    service.feed (db.without tenantId userId itemId) tenant filters =
      service.feed db tenant filters := by
  have same : service.visibleEntries (db.without tenantId userId itemId) tenant filters =
      service.visibleEntries db tenant filters := by
    simp only [visibleEntries, service.clusterToDto_without other]
    rfl
  rw [feed, feed, same]

theorem calendar_without {db : Database} {tenantId userId itemId : Uuid} (tenant : Uuid)
    (dateFrom dateTo : Option Instant) (limit : Nat) :
    service.calendar (db.without tenantId userId itemId) tenant dateFrom dateTo limit =
      service.calendar db tenant dateFrom dateTo limit := by
  have nobody : tenant ≠ tenantId ∨ none ≠ some userId := .inr nofun
  simp only [calendar, service.clusterToDto_without nobody]
  rfl

end HoldingRelevanceService

/-! ## Filing a dismissal -/

/-- Where a correction is taken there is one on file, and the first one stays. -/
theorem exists_of_correct {tools : TextTools} {db after : Database} {tenantId userId : Uuid}
    {itemId : Uuid} {securityId : Option Uuid} {action : String} {reason : Option String}
    (taken : correct tools db tenantId userId (some itemId) securityId action reason =
      (after, true)) :
    ∃ correction ∈ after.corrections, correction.IsOf tenantId userId itemId ∧
      ((∀ earlier ∈ db.corrections, ¬ earlier.IsOf tenantId userId itemId) →
        correction.securityId = securityId) := by
  rw [correct] at taken
  simp only at taken
  split at taken
  · split at taken
    · next earlier =>
        cases taken
        obtain ⟨correction, filed, isOf⟩ := List.any_eq_true.mp earlier
        have isOf := of_decide_eq_true isOf
        exact ⟨correction, filed, isOf, fun first => absurd isOf (first correction filed)⟩
    · cases taken
      exact ⟨_, List.mem_append_right _ List.mem_cons_self, ⟨rfl, rfl, rfl⟩, fun _ => rfl⟩
  · cases taken

/-- A dismissal that is taken is on file from then on: in the clusters of its security the
user sees neither the observation nor its title among the sources, and no cluster without
other sources; everybody else's feed and every calendar are as if it had not been filed. -/
theorem dismissal_hides (service : HoldingRelevanceService) {db after later : Database}
    {tenantId userId itemId : Uuid} {securityId : Option Uuid} {reason : Option String}
    (taken : correct service.tools db tenantId userId (some itemId) securityId "dismiss" reason =
      (after, true))
    (kept : ∀ correction ∈ after.corrections, correction ∈ later.corrections) :
    (∃ correction ∈ later.corrections, correction.IsOf tenantId userId itemId ∧
      ((∀ earlier ∈ db.corrections, ¬ earlier.IsOf tenantId userId itemId) →
        correction.securityId = securityId) ∧
      ∀ filters : FeedFilter, filters.userId = some userId →
        ∀ entry ∈ (service.feed later tenantId filters).items,
          correction.securityId.isSome → entry.securityId = correction.securityId →
            service.Hides later itemId entry) ∧
    (∀ tenant filters, tenant ≠ tenantId ∨ filters.userId ≠ some userId →
      service.feed later tenant filters =
        service.feed (later.without tenantId userId itemId) tenant filters) ∧
    ∀ tenant dateFrom dateTo limit, service.calendar later tenant dateFrom dateTo limit =
      service.calendar (later.without tenantId userId itemId) tenant dateFrom dateTo limit := by
  refine ⟨?_, fun tenant filters other => (service.feed_without other).symm,
    fun tenant dateFrom dateTo limit =>
      (service.calendar_without tenant dateFrom dateTo limit).symm⟩
  obtain ⟨correction, filed, isOf, first⟩ := exists_of_correct taken
  refine ⟨correction, kept correction filed, isOf, first, ?_⟩
  intro filters reads entry shown isSome sameSecurity
  obtain ⟨security, isSecurity⟩ := Option.isSome_iff_exists.mp isSome
  exact service.hides_of_filed (kept correction filed) isOf isSecurity reads shown
    (sameSecurity.trans isSecurity)

/-! ## Two observations of one tenant -/

/-- One cluster with two observations, of a security or of none. -/
def sampleDatabase (securityId : Option Uuid) : Database where
  observations := [⟨1, sampleItem 1 "Alpha"⟩, ⟨1, sampleItem 2 "Beta"⟩]
  relevance := []
  clusters :=
    [{ id := 9, tenantId := 1, storyKey := .titled securityId "interest" "alpha", securityId
       headline := "Alpha", eventType := "interest", eventDate := none, sourceCount := 2
       clusterReason := none, earliestPublishedAt := none, bestSourceUrl := none, score := 1 }]
  clusterItems := [⟨1, 9, 1, 0⟩, ⟨1, 9, 2, 1⟩]
  acks := []
  corrections := []
  positions := []
  securities := []

def sampleService : HoldingRelevanceService where
  tools := ⟨id, id, id⟩
  now := 0
  explainer := none

/-- The database after the user 7 dismissed the first observation for the security 5. -/
def sampleDismissal (securityId : Option Uuid) : Database :=
  (correct sampleService.tools (sampleDatabase securityId) 1 7 (some 1) (some 5) "dismiss" none).1

theorem itemsOf_sampleDismissal (securityId : Option Uuid) :
    (sampleDismissal securityId).itemsOf 1 9 = [sampleItem 1 "Alpha", sampleItem 2 "Beta"] := by
  have ordered : (sampleDismissal securityId).clusterItems.Pairwise
      fun first second => decide (first.position ≤ second.position) := by
    change [(⟨1, 9, 1, 0⟩ : RelevanceClusterItem), ⟨1, 9, 2, 1⟩].Pairwise _
    decide
  rw [Database.itemsOf, List.mergeSort_of_pairwise (ordered.filter _)]
  rfl

/-- The feed of the user shows the cluster with what is visible of it. -/
theorem feed_sampleDismissal {securityId : Option Uuid} {items : List MarketIntelligenceItem}
    (visible : ∀ cluster ∈ (sampleDatabase securityId).clusters,
      sampleService.visibleItems (sampleDismissal securityId) 1 cluster (some 7) true =
        some items) :
    (sampleService.feed (sampleDismissal securityId) 1 { userId := some 7 }).items =
      (sampleDatabase securityId).clusters.map fun cluster =>
        sampleService.entryOf (sampleDismissal securityId) 1 cluster none items := by
  have clusters : HoldingRelevanceService.matchingClusters (sampleDismissal securityId) 1
      { userId := some 7 } = (sampleDatabase securityId).clusters := by
    have alone : (sampleDismissal securityId).clusters.Pairwise
        fun first second => ranksBefore first second :=
      List.pairwise_singleton _ _
    rw [HoldingRelevanceService.matchingClusters, List.mergeSort_of_pairwise (alone.filter _)]
    rfl
  have entries : sampleService.visibleEntries (sampleDismissal securityId) 1 { userId := some 7 } =
      (sampleDatabase securityId).clusters.map fun cluster =>
        sampleService.entryOf (sampleDismissal securityId) 1 cluster none items := by
    rw [HoldingRelevanceService.visibleEntries, clusters]
    simp only [HoldingRelevanceService.clusterToDto, sampleDatabase, List.filterMap_cons]
    rw [visible _ (List.mem_singleton.mpr rfl)]
    rfl
  rw [HoldingRelevanceService.feed, entries]
  rfl

/-- The cluster of the security is shown without the dismissed observation, and as before to
another user. -/
theorem dismissal_hides_sample :
    (∃ entry ∈ (sampleService.feed (sampleDismissal (some 5)) 1 { userId := some 7 }).items,
        entry.securityId = some 5 ∧ sampleService.Hides (sampleDismissal (some 5)) 1 entry) ∧
      sampleService.feed (sampleDismissal (some 5)) 1 { userId := some 8 } =
        sampleService.feed ((sampleDismissal (some 5)).without 1 7 1) 1 { userId := some 8 } := by
  have taken : correct sampleService.tools (sampleDatabase (some 5)) 1 7 (some 1) (some 5)
      "dismiss" none = (sampleDismissal (some 5), true) := rfl
  have kept : ∀ correction ∈ (sampleDismissal (some 5)).corrections,
      correction ∈ (sampleDismissal (some 5)).corrections := fun _ filed => filed
  obtain ⟨⟨correction, _, _, first, hides⟩, others, _⟩ :=
    dismissal_hides sampleService taken kept
  have isSecurity : correction.securityId = some 5 := first fun _ isMem => nomatch isMem
  refine ⟨?_, others 1 { userId := some 8 } (.inr (by decide))⟩
  have visible : ∀ cluster ∈ (sampleDatabase (some 5)).clusters,
      sampleService.visibleItems (sampleDismissal (some 5)) 1 cluster (some 7) true =
        some [sampleItem 2 "Beta"] := by
    intro cluster isMem
    cases List.mem_singleton.mp isMem
    have left : applyCorrections sampleService.tools (sampleDismissal (some 5)) 1 7
        [sampleItem 1 "Alpha", sampleItem 2 "Beta"] (some 5) = [sampleItem 2 "Beta"] := by
      rw [applyCorrections, List.filter_cons_of_neg (by decide +kernel),
        List.filter_cons_of_pos (by decide +kernel)]
      rfl
    rw [HoldingRelevanceService.visibleItems, itemsOf_sampleDismissal]
    simp only [if_pos, left]
    rfl
  obtain ⟨entry, shown⟩ : ∃ entry,
      entry ∈ (sampleService.feed (sampleDismissal (some 5)) 1 { userId := some 7 }).items := by
    rw [feed_sampleDismissal visible]
    exact ⟨_, List.mem_singleton.mpr rfl⟩
  have ofSecurity : entry.securityId = some 5 := by
    have isEntry := shown
    rw [feed_sampleDismissal visible] at isEntry
    cases List.mem_singleton.mp isEntry
    rfl
  exact ⟨entry, shown, ofSecurity, hides { userId := some 7 } rfl entry shown
    (by rw [isSecurity]; rfl) (ofSecurity.trans isSecurity.symm)⟩

/-- In a cluster without a security the dismissed observation is still a source. -/
theorem cashCluster_still_listed :
    (correct sampleService.tools (sampleDatabase none) 1 7 (some 1) (some 5) "dismiss" none).2 =
        true ∧
      ∃ entry ∈ (sampleService.feed (sampleDismissal none) 1 { userId := some 7 }).items,
        1 ∈ entry.itemIds := by
  have visible : ∀ cluster ∈ (sampleDatabase none).clusters,
      sampleService.visibleItems (sampleDismissal none) 1 cluster (some 7) true =
        some [sampleItem 1 "Alpha", sampleItem 2 "Beta"] := by
    intro cluster isMem
    cases List.mem_singleton.mp isMem
    rw [HoldingRelevanceService.visibleItems, itemsOf_sampleDismissal]
    rfl
  refine ⟨rfl, ?_⟩
  rw [feed_sampleDismissal visible]
  exact ⟨_, List.mem_singleton.mpr rfl, List.mem_cons_self⟩

end FinanceSync.Relevance
