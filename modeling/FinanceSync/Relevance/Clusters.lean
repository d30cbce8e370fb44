import FinanceSync.Lib.Grouping
import FinanceSync.Relevance.Observations

/-!
# Clustering

`_recluster`: the matches of a tenant are grouped by security and event type and divided into
stories, by their exact second, by their titles, and by titles on neighbouring days.  A story
is written to the cluster of its key; a cluster whose key no story has any more hands its
acknowledgements over to the first cluster that its date could have gone to, and is deleted.
-/

namespace FinanceSync.Relevance

open FinanceSync.Intel (MarketIntelligenceItem)
open Lib

/-! ## Stories -/

/-- A match with its observation, its event type and its title fingerprint. -/
structure Entry where
  row : HoldingRelevanceItem
  item : MarketIntelligenceItem
  eventType : String
  fingerprint : String

def Entry.eventDate (entry : Entry) : Option ZonedTime := entry.row.eventDate

/-- Earliest event first; what has no date comes last. -/
def Entry.comesBefore (first second : Entry) : Bool :=
  match first.eventDate, second.eventDate with
  | some one, some other => one.instant ≤ other.instant
  | none, some _ => false
  | _, none => true

/-- Sort by event date; the sort is stable. -/
def byEventDate (entries : List Entry) : List Entry :=
  entries.insertionSort fun first second => first.comesBefore second

/-- The matches of a tenant whose observations exist, in the order of the query. -/
def resolved (tools : TextTools) (observations : List Observation)
    (rows : List HoldingRelevanceItem) : List Entry :=
  byEventDate (rows.filterMap fun row =>
    (observations.find? (·.item.id = row.itemId)).map fun stored =>
      { row
        item := stored.item
        eventType := eventTypeFor tools stored.item
        fingerprint := titleFingerprint tools stored.item.headline })

/-- A bucket of matches with the reason why they are one story. -/
abbrev Bucket := List Entry × ClusterReason

/-- Max gap between the event dates of one story. -/
def titleDupDateTolerance : Int := Instant.days 3

/-- Whether a dated match is close enough to a bucket of the same title. -/
def fits (entry : Entry) (bucket : List Entry) : Bool :=
  match bucket with
  | [] => false
  | first :: _ =>
      first.fingerprint ≠ "" && entry.fingerprint ≠ "" &&
        first.fingerprint = entry.fingerprint &&
        bucket.all fun member => member.eventDate.any fun date => entry.eventDate.any fun own =>
          |date.instant - own.instant| ≤ titleDupDateTolerance

/-- Put a match into the first bucket it fits, or into one of its own. -/
def place (entry : Entry) : List (List Entry) → List (List Entry)
  | [] => [[entry]]
  | bucket :: rest =>
      if fits entry bucket then (bucket ++ [entry]) :: rest else bucket :: place entry rest

/-- The group of a second and offset, as its text shows them. -/
def exactKey (entry : Entry) : Option (Int × Int) :=
  entry.eventDate.map fun date => (date.second, date.offset)

/-- The buckets of matches without a date that share a fingerprint. -/
def dateless (group : String × List Entry) : List Bucket :=
  if group.1 = "" then group.2.map fun entry => ([entry], .noDate)
  else if 1 < group.2.length then [(group.2, .titleDuplicate)]
  else [(group.2, .noDate)]

/-- `_cluster_buckets` -/
def clusterBuckets (group : List Entry) : List Bucket :=
  let exact := (groupsOf exactKey (group.filter (·.eventDate.isSome))).map Prod.snd
  let titled := groupsOf Entry.fingerprint (group.filter (·.eventDate.isNone))
  let single := (exact.filter fun bucket => ¬ 1 < bucket.length).flatten
  let merged := (byEventDate single).foldl (fun buckets entry => place entry buckets) []
  (exact.filter fun bucket => 1 < bucket.length).map (fun bucket => (bucket, .exactEvent)) ++
    titled.flatMap dateless ++
    merged.map fun bucket =>
      (bucket, if 1 < bucket.length then .titleDuplicate else .exactEvent)

/-- `fingerprint or "empty"` -/
def fingerprintOrEmpty (fingerprint : String) : String :=
  if fingerprint = "" then "empty" else fingerprint

/-- `_bucket_story_key` -/
def bucketStoryKey (securityId : Option Uuid) (eventType : String) (bucket : Bucket) :
    StoryKey :=
  match bucket.1 with
  | [] => .titled securityId eventType "empty"
  | first :: _ =>
      let titled := StoryKey.titled securityId eventType (fingerprintOrEmpty first.fingerprint)
      match first.eventDate with
      | some date =>
          if bucket.2 = .titleDuplicate then titled
          else .dated securityId eventType date.second
      | none => titled

/-- A bucket with the key it is written under. -/
structure Story where
  securityId : Option Uuid
  eventType : String
  bucket : List Entry
  reason : ClusterReason

def Story.key (story : Story) : StoryKey :=
  bucketStoryKey story.securityId story.eventType (story.bucket, story.reason)

/-- The observations of a story. -/
def Story.itemIds (story : Story) : List Uuid := story.bucket.map (·.row.itemId)

/-- The stories of the matches, by security and event type. -/
def storiesOf (entries : List Entry) : List Story :=
  (groupsOf (fun entry => (entry.row.securityId, entry.eventType)) entries).flatMap fun group =>
    (clusterBuckets group.2).map fun bucket =>
      ⟨group.1.1, group.1.2, bucket.1, bucket.2⟩

/-! ### No story is empty -/

theorem ne_nil_of_mem_place {entry : Entry} {buckets : List (List Entry)}
    (filled : ∀ bucket ∈ buckets, bucket ≠ []) : ∀ bucket ∈ place entry buckets, bucket ≠ [] := by
  induction buckets with
  | nil => simp [place]
  | cons first rest ih =>
      have restFilled := fun bucket bucketMem => filled bucket (List.mem_cons_of_mem _ bucketMem)
      rw [place]
      split
      · rw [List.forall_mem_cons]
        exact ⟨List.append_ne_nil_of_right_ne_nil _ (List.cons_ne_nil _ _), restFilled⟩
      · rw [List.forall_mem_cons]
        exact ⟨filled first List.mem_cons_self, ih restFilled⟩

theorem ne_nil_of_mem_foldl_place (entries : List Entry) :
    ∀ {buckets : List (List Entry)}, (∀ bucket ∈ buckets, bucket ≠ []) →
      ∀ bucket ∈ entries.foldl (fun buckets entry => place entry buckets) buckets,
        bucket ≠ [] := by
  induction entries with
  | nil => exact fun filled => filled
  | cons entry rest ih =>
      exact fun filled => ih (ne_nil_of_mem_place filled)

theorem ne_nil_of_mem_clusterBuckets {group : List Entry} {bucket : Bucket}
    (isMem : bucket ∈ clusterBuckets group) : bucket.1 ≠ [] := by
  rw [clusterBuckets, List.mem_append, List.mem_append] at isMem
  obtain (isExact | isTitled) | isMerged := isMem
  · obtain ⟨entries, entriesMem, rfl⟩ := List.mem_map.mp isExact
    have several := of_decide_eq_true (List.mem_filter.mp entriesMem).2
    exact List.ne_nil_of_length_pos (Nat.zero_lt_of_lt several)
  · obtain ⟨titled, titledMem, isBucket⟩ := List.mem_flatMap.mp isTitled
    have filled := ne_nil_of_mem_groupsOf titledMem
    rw [dateless] at isBucket
    split at isBucket
    · obtain ⟨entry, _, rfl⟩ := List.mem_map.mp isBucket
      exact List.cons_ne_nil _ _
    · split at isBucket
      · cases List.mem_singleton.mp isBucket
        exact filled
      · cases List.mem_singleton.mp isBucket
        exact filled
  · obtain ⟨entries, entriesMem, rfl⟩ := List.mem_map.mp isMerged
    exact ne_nil_of_mem_foldl_place _ (List.forall_mem_nil _) entries entriesMem

theorem itemIds_ne_nil {entries : List Entry} {story : Story}
    (isMem : story ∈ storiesOf entries) : story.itemIds ≠ [] := by
  obtain ⟨group, _, isStory⟩ := List.mem_flatMap.mp isMem
  obtain ⟨bucket, bucketMem, rfl⟩ := List.mem_map.mp isStory
  rw [Story.itemIds, ne_eq, List.map_eq_nil_iff]
  exact ne_nil_of_mem_clusterBuckets bucketMem

/-! ## Cluster rows -/

/-- `_PROVIDER_RELIABILITY`, and one half for any other provider -/
def reliability (provider : String) : ℚ :=
  if provider = "sec" then 1
  else if provider = "sec_press" then 9 / 10
  else if provider = "openbb" then 7 / 10
  else 1 / 2

/-- The first of the observations from the most reliable provider. -/
def mostReliable (items : List MarketIntelligenceItem) : Option MarketIntelligenceItem :=
  items.foldl (fun best item =>
    match best with
    | none => some item
    | some best =>
        if reliability best.provider < reliability item.provider then some item
        else some best) none

/-- The first of the earliest times. -/
def earliest (times : List Instant) : Option Instant :=
  times.foldl (fun best time =>
    match best with
    | none => some time
    | some best => if time < best then some time else some best) none

/-- Score of a story; it depends on the time of the run. -/
abbrev ClusterScore := List HoldingRelevanceItem → Option MarketIntelligenceItem → ℚ

/-- The cluster row of a story. -/
def clusterRow (score : ClusterScore) (tenantId id : Uuid) (story : Story) :
    RelevanceCluster :=
  let items := story.bucket.map (·.item)
  let best := mostReliable items
  let dates := (story.bucket.filterMap Entry.eventDate).map ZonedTime.instant
  let linked := items.filter fun item => (item.canonicalUrl.filter (· ≠ "")).isSome
  { id
    tenantId
    storyKey := story.key
    securityId := story.securityId
    headline := ((best.bind (·.headline)).filter (· ≠ "")).getD "Untitled"
    eventType := story.eventType
    eventDate := if story.reason = .exactEvent ∧ dates ≠ [] then dates.head? else earliest dates
    sourceCount := linked.length
    clusterReason := some story.reason
    earliestPublishedAt := earliest (items.map (·.publishedAt))
    bestSourceUrl := (mostReliable linked).bind (·.canonicalUrl)
    score := score (story.bucket.map (·.row)) best }

/-- A notification that was sent to a user about a cluster. -/
structure RelevanceNotificationLog where
  userId : Uuid
  clusterId : Uuid
  eventType : String
deriving DecidableEq

/-- The rows of one tenant. -/
structure ClusterStore where
  clusters : Table RelevanceCluster RelevanceCluster.id
  clusterItems : List RelevanceClusterItem
  acks : List RelevanceAck
  notificationLogs : List RelevanceNotificationLog

def ClusterStore.empty : ClusterStore := ⟨.empty, [], [], []⟩

namespace ClusterStore

variable (store : ClusterStore)

/-- `_sync_cluster_items`: attach the observations that are not attached yet. -/
def syncClusterItems (tenantId clusterId : Uuid) (itemIds : List Uuid) :
    List RelevanceClusterItem :=
  let existing := (store.clusterItems.filter (·.clusterId = clusterId)).map (·.itemId)
  store.clusterItems ++ (itemIds.zipIdx.filter fun positioned => positioned.1 ∉ existing).map
    fun positioned => ⟨tenantId, clusterId, positioned.1, positioned.2⟩

/-- The cluster of a key. -/
def clusterOf (key : StoryKey) : Option RelevanceCluster :=
  store.clusters.rows.find? (·.storyKey = key)

/-- `_upsert_cluster` -/
def upsertCluster (score : ClusterScore) (tenantId : Uuid) (story : Story) : ClusterStore :=
  match store.clusterOf story.key with
  | some cluster =>
      let updated := { clusterRow score tenantId cluster.id story with
        securityId := cluster.securityId }
      { store with
        clusters := store.clusters.save updated
        clusterItems := store.syncClusterItems tenantId cluster.id story.itemIds }
  | none =>
      let added := clusterRow score tenantId store.clusters.next story
      { store with
        clusters := store.clusters.insert added rfl
        clusterItems := store.syncClusterItems tenantId added.id story.itemIds }

/-- Write all stories. -/
def writeStories (score : ClusterScore) (tenantId : Uuid) (stories : List Story) :
    ClusterStore :=
  stories.foldl (fun store story => store.upsertCluster score tenantId story) store

end ClusterStore

/-! ## Pruning -/

/-- Whether the date window lets a cluster have absorbed a stale one. -/
def mayAbsorb (stale survivor : RelevanceCluster) : Bool :=
  survivor.securityId = stale.securityId && survivor.eventType = stale.eventType &&
    match stale.eventDate, survivor.eventDate with
    | none, none => true
    | some date, some other => |date - other| ≤ titleDupDateTolerance
    | _, _ => false

/-- `_migrate_acks`; of one user there is one ack for a cluster. -/
def migrateAcks (acks : List RelevanceAck) (fromClusterId toClusterId : Uuid) :
    List RelevanceAck :=
  acks.map fun ack =>
    if ack.clusterId = fromClusterId ∧
        ¬ acks.any fun other => other.userId = ack.userId ∧ other.clusterId = toClusterId then
      { ack with clusterId := toClusterId }
    else ack

namespace ClusterStore

variable (store : ClusterStore)

/-- Delete a cluster with all rows that refer to it. -/
def deleteCluster (clusterId : Uuid) : ClusterStore where
  clusters := store.clusters.keep (·.id ≠ clusterId)
  clusterItems := store.clusterItems.filter (·.clusterId ≠ clusterId)
  acks := store.acks.filter (·.clusterId ≠ clusterId)
  notificationLogs := store.notificationLogs.filter (·.clusterId ≠ clusterId)

/-- Hand the acks of a stale cluster over to a survivor, if there is one, and delete it. -/
def pruneCluster (survivors : List RelevanceCluster) (stale : RelevanceCluster) :
    ClusterStore :=
  let handedOver :=
    match survivors.find? (mayAbsorb stale) with
    | some target => { store with acks := migrateAcks store.acks stale.id target.id }
    | none => store
  handedOver.deleteCluster stale.id

/-- `_prune_stale_clusters` -/
def pruneStaleClusters (seenKeys : List StoryKey) : ClusterStore :=
  let survivors := store.clusters.rows.filter (·.storyKey ∈ seenKeys)
  (store.clusters.rows.filter (·.storyKey ∉ seenKeys)).foldl
    (fun store stale => store.pruneCluster survivors stale) store

/-- `_recluster` -/
def recluster (score : ClusterScore) (tenantId : Uuid) (entries : List Entry) : ClusterStore :=
  let stories := storiesOf entries
  (store.writeStories score tenantId stories).pruneStaleClusters (stories.map Story.key)

end ClusterStore

end FinanceSync.Relevance
