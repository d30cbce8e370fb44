import FinanceSync.Relevance.Acknowledgements

/-!
# Clusters partition the matches

The buckets of a build divide the matches of each security and event type without rest.  They
end in clusters that divide them in the same way exactly if no two buckets get the same key
and if no match has left a cluster whose key is produced again, since clusters never lose
observations.
-/

namespace FinanceSync.Relevance

open FinanceSync.Intel (FactValue MarketIntelligenceItem)
open Lib

/-! ## Buckets -/

theorem flatten_place (entry : Entry) (buckets : List (List Entry)) :
    (place entry buckets).flatten.Perm (entry :: buckets.flatten) := by
  induction buckets with
  | nil => exact .refl _
  | cons bucket rest ih =>
      rw [place]
      split
      · rw [List.flatten_cons, List.flatten_cons, List.append_assoc]
        exact List.perm_middle
      · rw [List.flatten_cons, List.flatten_cons]
        exact (ih.append_left bucket).trans List.perm_middle

theorem flatten_foldl_place (entries : List Entry) :
    ∀ buckets : List (List Entry),
      (entries.foldl (fun buckets entry => place entry buckets) buckets).flatten.Perm
        (buckets.flatten ++ entries) := by
  induction entries with
  | nil => simp
  | cons entry rest ih =>
      intro buckets
      rw [List.foldl_cons]
      refine (ih _).trans ?_
      refine ((flatten_place entry buckets).append_right rest).trans ?_
      exact List.perm_middle.symm

theorem flatMap_dateless (group : String × List Entry) :
    (dateless group).flatMap Prod.fst = group.2 := by
  rw [dateless]
  split
  · rw [List.flatMap_map]
    exact List.flatMap_singleton' group.2
  · split
    · simp
    · simp

/-- The buckets of a group are its matches. -/
theorem flatMap_clusterBuckets (group : List Entry) :
    ((clusterBuckets group).flatMap Prod.fst).Perm group := by
  have dated := flatMap_groupsOf exactKey (group.filter (·.eventDate.isSome))
  have undated := flatMap_groupsOf Entry.fingerprint (group.filter (·.eventDate.isNone))
  rw [clusterBuckets]
  set exact := (groupsOf exactKey (group.filter (·.eventDate.isSome))).map Prod.snd
    with isExact
  set titled := groupsOf Entry.fingerprint (group.filter (·.eventDate.isNone))
  set single := (exact.filter fun bucket => ¬ 1 < bucket.length).flatten with isSingle
  have exactFlat : exact.flatten.Perm (group.filter (·.eventDate.isSome)) := by
    rw [isExact, ← List.flatMap_def]
    exact dated
  have merged : ((byEventDate single).foldl (fun buckets entry => place entry buckets)
      []).flatten.Perm single :=
    (flatten_foldl_place _ []).trans (List.perm_insertionSort _ _)
  have exactParts : ((exact.filter fun bucket => 1 < bucket.length).flatten ++ single).Perm
      exact.flatten := by
    rw [isSingle, ← List.flatten_append]
    apply List.Perm.flatten
    have parts := List.filter_append_perm (fun bucket => decide (1 < bucket.length)) exact
    have negated : (exact.filter fun bucket => ¬ 1 < bucket.length) =
        exact.filter fun bucket => !decide (1 < bucket.length) := by
      simp only [decide_not]
    rwa [negated]
  have parts := List.filter_append_perm (fun entry : Entry => entry.eventDate.isSome) group
  have negated : (group.filter fun entry => !entry.eventDate.isSome) =
      group.filter (·.eventDate.isNone) := by
    simp
  rw [negated] at parts
  simp only [List.flatMap_append, List.flatMap_map, List.flatMap_assoc, flatMap_dateless]
  rw [List.flatMap_id', List.flatMap_id']
  refine ((undated.append_left _).append merged).trans ?_
  refine ((List.perm_append_comm.append_right _).trans ?_).trans parts
  rw [List.append_assoc]
  exact ((exactParts.trans exactFlat).append_left _).trans List.perm_append_comm

/-! ## Stories -/

theorem flatMap_storiesOf (entries : List Entry) :
    ((storiesOf entries).flatMap Story.bucket).Perm entries := by
  rw [storiesOf, List.flatMap_assoc]
  refine List.Perm.trans ?_ (flatMap_groupsOf (fun entry : Entry =>
    (entry.row.securityId, entry.eventType)) entries)
  apply List.Perm.flatMap_left
  intro group _
  rw [List.flatMap_map]
  exact flatMap_clusterBuckets group.2

/-- The matches of a story have its security and event type. -/
theorem of_mem_bucket {entries : List Entry} {story : Story} (isStory : story ∈ storiesOf entries)
    {entry : Entry} (isMember : entry ∈ story.bucket) :
    entry.row.securityId = story.securityId ∧ entry.eventType = story.eventType := by
  obtain ⟨group, groupMem, isStory⟩ := List.mem_flatMap.mp isStory
  obtain ⟨bucket, bucketMem, rfl⟩ := List.mem_map.mp isStory
  have inGroup : entry ∈ group.2 := (flatMap_clusterBuckets group.2).mem_iff.mp
    (List.mem_flatMap.mpr ⟨bucket, bucketMem, isMember⟩)
  rw [(mem_groupsOf.mp groupMem).2] at inGroup
  have isKey := of_decide_eq_true (List.mem_filter.mp inGroup).2
  exact ⟨congrArg Prod.fst isKey, congrArg Prod.snd isKey⟩

/-- The security of a key. -/
def StoryKey.securityId : StoryKey → Option Uuid
  | dated securityId _ _ | titled securityId _ _ => securityId

/-- The event type of a key. -/
def StoryKey.eventType : StoryKey → String
  | dated _ eventType _ | titled _ eventType _ => eventType

theorem key_parts (story : Story) :
    story.key.securityId = story.securityId ∧ story.key.eventType = story.eventType := by
  rw [Story.key, bucketStoryKey]
  split
  · exact ⟨rfl, rfl⟩
  · simp only
    split
    · split <;> exact ⟨rfl, rfl⟩
    · exact ⟨rfl, rfl⟩

/-! ## Writing stories -/

namespace ClusterStore

/-- Keys are unique and say the security and event type, and memberships are those of clusters. -/
structure Keyed (store : ClusterStore) : Prop where
  nodup : (store.clusters.rows.map (·.storyKey)).Nodup
  parts : ∀ cluster ∈ store.clusters.rows, cluster.storyKey.securityId = cluster.securityId ∧
    cluster.storyKey.eventType = cluster.eventType
  edges : ∀ edge ∈ store.clusterItems, ∃ cluster ∈ store.clusters.rows, cluster.id = edge.clusterId

theorem mem_itemsOf {store : ClusterStore} {clusterId itemId : Uuid} :
    itemId ∈ store.itemsOf clusterId ↔
      ∃ edge ∈ store.clusterItems, edge.clusterId = clusterId ∧ edge.itemId = itemId := by
  simp [itemsOf, and_assoc]

/-- The memberships after a sync. -/
theorem mem_itemsOf_sync {store after : ClusterStore} {tenantId clusterId : Uuid}
    {itemIds : List Uuid}
    (synced : after.clusterItems = store.syncClusterItems tenantId clusterId itemIds)
    (other itemId : Uuid) :
    itemId ∈ after.itemsOf other ↔
      itemId ∈ store.itemsOf other ∨ other = clusterId ∧ itemId ∈ itemIds := by
  rw [mem_itemsOf, synced]
  constructor
  · intro ⟨edge, edgeMem, isOther, isItem⟩
    obtain old | new := List.mem_append.mp edgeMem
    · exact .inl (mem_itemsOf.mpr ⟨edge, old, isOther, isItem⟩)
    · obtain ⟨positioned, positionedMem, rfl⟩ := List.mem_map.mp new
      have named := List.fst_mem_of_mem_zipIdx (List.mem_filter.mp positionedMem).1
      exact .inr ⟨isOther.symm, isItem ▸ named⟩
  · rintro (holds | ⟨rfl, named⟩)
    · obtain ⟨edge, edgeMem, isOf⟩ := mem_itemsOf.mp holds
      exact ⟨edge, (store.mem_syncClusterItems tenantId clusterId itemIds).1 edge edgeMem, isOf⟩
    · exact (store.mem_syncClusterItems tenantId other itemIds).2 itemId named

/-- An observation is in the cluster of a key. -/
def Holds (store : ClusterStore) (key : StoryKey) (itemId : Uuid) : Prop :=
  ∃ cluster ∈ store.clusters.rows, cluster.storyKey = key ∧ itemId ∈ store.itemsOf cluster.id

/-- What one story changes: the row of its key, and the observations there. -/
structure Written (score : ClusterScore) (tenantId : Uuid) (story : Story)
    (before after : ClusterStore) : Prop where
  keyed : after.Keyed
  rows : ∀ cluster ∈ after.clusters.rows,
    cluster.storyKey = story.key ∧ cluster = clusterRow score tenantId cluster.id story ∨
    cluster.storyKey ≠ story.key ∧ cluster ∈ before.clusters.rows
  keeps : ∀ cluster ∈ before.clusters.rows, cluster.storyKey ≠ story.key →
    cluster ∈ after.clusters.rows
  exists_row : ∃ cluster ∈ after.clusters.rows, cluster.storyKey = story.key
  holds : ∀ key itemId, after.Holds key itemId ↔
    before.Holds key itemId ∨ key = story.key ∧ itemId ∈ story.itemIds

/-- The row of a key that was there is overwritten. -/
theorem written_of_some {store after : ClusterStore} (keyed : store.Keyed) (score : ClusterScore)
    (tenantId : Uuid) (story : Story) {cluster : RelevanceCluster}
    (clusterMem : cluster ∈ store.clusters.rows) (isKey : cluster.storyKey = story.key)
    (clusters : after.clusters =
      store.clusters.save (clusterRow score tenantId cluster.id story))
    (synced : after.clusterItems = store.syncClusterItems tenantId cluster.id story.itemIds) :
    Written score tenantId story store after := by
  have sameId : cluster.id = (clusterRow score tenantId cluster.id story).id := rfl
  have saved (other : RelevanceCluster) :
      other ∈ after.clusters.rows ↔
        other = clusterRow score tenantId cluster.id story ∨
          other ∈ store.clusters.rows ∧ other.id ≠ cluster.id := by
    rw [clusters]
    exact Table.mem_save_iff clusterMem sameId
  have items := mem_itemsOf_sync synced
  have onlyOne {other : RelevanceCluster} (otherMem : other ∈ store.clusters.rows)
      (same : other.storyKey = story.key) : other = cluster :=
    List.inj_on_of_nodup_map keyed.nodup otherMem clusterMem (same.trans isKey.symm)
  have storyRow := (saved _).mpr (.inl rfl)
  exact
    { keyed :=
        { nodup := by
            rw [clusters, Table.nodup_map_save_iff clusterMem sameId keyed.nodup]
            intro other otherMem same
            rw [onlyOne otherMem same]
            rfl
          parts := by
            intro other otherMem
            obtain rfl | ⟨otherMem, _⟩ := (saved other).mp otherMem
            · exact key_parts story
            · exact keyed.parts other otherMem
          edges := by
            intro edge edgeMem
            obtain holds | ⟨isCluster, _⟩ := (items edge.clusterId edge.itemId).mp
              (mem_itemsOf.mpr ⟨edge, edgeMem, rfl, rfl⟩)
            · obtain ⟨old, oldMem, sameCluster, _⟩ := mem_itemsOf.mp holds
              obtain ⟨other, otherMem, isOther⟩ := keyed.edges old oldMem
              by_cases same : other.id = cluster.id
              · exact ⟨_, storyRow, same.symm.trans (isOther.trans sameCluster)⟩
              · exact ⟨other, (saved other).mpr (.inr ⟨otherMem, same⟩),
                  isOther.trans sameCluster⟩
            · exact ⟨_, storyRow, isCluster.symm⟩ }
      rows := by
        intro other otherMem
        obtain rfl | ⟨otherMem, ne⟩ := (saved other).mp otherMem
        · exact .inl ⟨rfl, rfl⟩
        · refine .inr ⟨fun same => ne ?_, otherMem⟩
          rw [onlyOne otherMem same]
      keeps := by
        intro other otherMem otherKey
        refine (saved other).mpr (.inr ⟨otherMem, fun same => otherKey ?_⟩)
        rw [store.clusters.eq_of_key_eq otherMem clusterMem same, isKey]
      exists_row := ⟨_, storyRow, rfl⟩
      holds := by
        intro key itemId
        constructor
        · intro ⟨other, otherMem, otherKey, isItem⟩
          obtain holds | ⟨isCluster, named⟩ := (items other.id itemId).mp isItem
          · obtain rfl | ⟨otherMem, _⟩ := (saved other).mp otherMem
            · exact .inl ⟨cluster, clusterMem, isKey.trans otherKey, holds⟩
            · exact .inl ⟨other, otherMem, otherKey, holds⟩
          · obtain rfl | ⟨_, ne⟩ := (saved other).mp otherMem
            · exact .inr ⟨otherKey.symm, named⟩
            · exact absurd isCluster ne
        · rintro (⟨other, otherMem, otherKey, isItem⟩ | ⟨rfl, named⟩)
          · have attached := (items other.id itemId).mpr (.inl isItem)
            by_cases same : other.id = cluster.id
            · rw [store.clusters.eq_of_key_eq otherMem clusterMem same] at otherKey attached
              exact ⟨_, storyRow, isKey.symm.trans otherKey, attached⟩
            · exact ⟨other, (saved other).mpr (.inr ⟨otherMem, same⟩), otherKey, attached⟩
          · exact ⟨_, storyRow, rfl, (items cluster.id itemId).mpr (.inr ⟨rfl, named⟩)⟩ }

/-- A key that was not there gets a row of its own. -/
theorem written_of_none {store after : ClusterStore} (keyed : store.Keyed) (score : ClusterScore)
    (tenantId : Uuid) (story : Story)
    (unknown : ∀ cluster ∈ store.clusters.rows, cluster.storyKey ≠ story.key)
    (fresh : (clusterRow score tenantId store.clusters.next story).id = store.clusters.next)
    (clusters : after.clusters =
      store.clusters.insert (clusterRow score tenantId store.clusters.next story) fresh)
    (synced : after.clusterItems =
      store.syncClusterItems tenantId store.clusters.next story.itemIds) :
    Written score tenantId story store after := by
  have inserted (other : RelevanceCluster) :
      other ∈ after.clusters.rows ↔ other ∈ store.clusters.rows ∨
        other = clusterRow score tenantId store.clusters.next story := by
    rw [clusters, Table.rows_insert, List.mem_append, List.mem_singleton]
  have items := mem_itemsOf_sync synced
  have storyRow := (inserted _).mpr (.inr rfl)
  -- No row has the new identifier, so no membership has it either.
  have unused (itemId : Uuid) : itemId ∉ store.itemsOf store.clusters.next := by
    intro holds
    obtain ⟨edge, edgeMem, isNext, _⟩ := mem_itemsOf.mp holds
    obtain ⟨cluster, clusterMem, isCluster⟩ := keyed.edges edge edgeMem
    have below := store.clusters.below cluster clusterMem
    rw [isCluster, isNext] at below
    exact lt_irrefl _ below
  exact
    { keyed :=
        { nodup := by
            rw [clusters, Table.nodup_map_insert_iff _ keyed.nodup]
            exact unknown
          parts := by
            intro other otherMem
            obtain otherMem | rfl := (inserted other).mp otherMem
            · exact keyed.parts other otherMem
            · exact key_parts story
          edges := by
            intro edge edgeMem
            obtain holds | ⟨isNext, _⟩ := (items edge.clusterId edge.itemId).mp
              (mem_itemsOf.mpr ⟨edge, edgeMem, rfl, rfl⟩)
            · obtain ⟨old, oldMem, sameCluster, _⟩ := mem_itemsOf.mp holds
              obtain ⟨other, otherMem, isOther⟩ := keyed.edges old oldMem
              exact ⟨other, (inserted other).mpr (.inl otherMem), isOther.trans sameCluster⟩
            · exact ⟨_, storyRow, isNext.symm⟩ }
      rows := by
        intro other otherMem
        obtain otherMem | rfl := (inserted other).mp otherMem
        · exact .inr ⟨unknown other otherMem, otherMem⟩
        · exact .inl ⟨rfl, rfl⟩
      keeps := fun other otherMem _ => (inserted other).mpr (.inl otherMem)
      exists_row := ⟨_, storyRow, rfl⟩
      holds := by
        intro key itemId
        constructor
        · intro ⟨other, otherMem, otherKey, isItem⟩
          obtain holds | ⟨isNext, named⟩ := (items other.id itemId).mp isItem
          · obtain otherMem | rfl := (inserted other).mp otherMem
            · exact .inl ⟨other, otherMem, otherKey, holds⟩
            · exact absurd holds (unused itemId)
          · obtain otherMem | rfl := (inserted other).mp otherMem
            · exact absurd isNext (store.clusters.below other otherMem).ne
            · exact .inr ⟨otherKey.symm, named⟩
        · rintro (⟨other, otherMem, otherKey, isItem⟩ | ⟨rfl, named⟩)
          · exact ⟨other, (inserted other).mpr (.inl otherMem), otherKey,
              (items other.id itemId).mpr (.inl isItem)⟩
          · exact ⟨_, storyRow, rfl,
              (items store.clusters.next itemId).mpr (.inr ⟨rfl, named⟩)⟩ }

theorem upsertCluster_written {store : ClusterStore} (keyed : store.Keyed) (score : ClusterScore)
    (tenantId : Uuid) (story : Story) :
    Written score tenantId story store (store.upsertCluster score tenantId story) := by
  rw [upsertCluster]
  cases isCluster : store.clusterOf story.key with
  | some cluster =>
      have clusterMem := List.mem_of_find?_eq_some isCluster
      have isKey := List.find?_some isCluster
      rw [decide_eq_true_eq] at isKey
      have securityId : cluster.securityId = story.securityId := by
        rw [← (keyed.parts cluster clusterMem).1, isKey, (key_parts story).1]
      have row : { clusterRow score tenantId cluster.id story with
          securityId := cluster.securityId } = clusterRow score tenantId cluster.id story := by
        rw [securityId]
        rfl
      exact written_of_some keyed score tenantId story clusterMem isKey
        (congrArg store.clusters.save row) rfl
  | none =>
      have unknown := List.find?_eq_none.mp isCluster
      simp only [decide_eq_true_eq] at unknown
      exact written_of_none keyed score tenantId story unknown rfl rfl rfl

/-- What several stories change. -/
structure AllWritten (score : ClusterScore) (tenantId : Uuid) (stories : List Story)
    (before after : ClusterStore) : Prop where
  keyed : after.Keyed
  rows : ∀ cluster ∈ after.clusters.rows,
    (∃ story ∈ stories, cluster.storyKey = story.key ∧
      cluster = clusterRow score tenantId cluster.id story) ∨
    cluster.storyKey ∉ stories.map Story.key ∧ cluster ∈ before.clusters.rows
  exists_row : ∀ story ∈ stories, ∃ cluster ∈ after.clusters.rows, cluster.storyKey = story.key
  keeps : ∀ cluster ∈ before.clusters.rows, ∃ later ∈ after.clusters.rows,
    later.storyKey = cluster.storyKey
  holds : ∀ key itemId, after.Holds key itemId ↔
    before.Holds key itemId ∨ ∃ story ∈ stories, key = story.key ∧ itemId ∈ story.itemIds

theorem writeStories_written (score : ClusterScore) (tenantId : Uuid) (stories : List Story) :
    ∀ {store : ClusterStore}, store.Keyed →
      AllWritten score tenantId stories store (store.writeStories score tenantId stories) := by
  induction stories with
  | nil =>
      intro store keyed
      exact
        { keyed := keyed
          rows := fun cluster clusterMem => .inr ⟨List.not_mem_nil, clusterMem⟩
          exists_row := List.forall_mem_nil _
          keeps := fun cluster clusterMem => ⟨cluster, clusterMem, rfl⟩
          holds := by
            intro key itemId
            simp [writeStories] }
  | cons first rest ih =>
      intro store keyed
      have one := upsertCluster_written keyed score tenantId first
      have others := ih one.keyed
      exact
        { keyed := others.keyed
          rows := by
            intro cluster clusterMem
            obtain ⟨story, storyMem, isStory⟩ | ⟨otherKey, old⟩ := others.rows cluster clusterMem
            · exact .inl ⟨story, List.mem_cons_of_mem _ storyMem, isStory⟩
            · obtain isFirst | ⟨notFirst, older⟩ := one.rows cluster old
              · exact .inl ⟨first, List.mem_cons_self, isFirst⟩
              · refine .inr ⟨?_, older⟩
                rw [List.map_cons, List.mem_cons, not_or]
                exact ⟨notFirst, otherKey⟩
          exists_row := by
            intro story storyMem
            obtain rfl | inRest := List.mem_cons.mp storyMem
            · obtain ⟨cluster, clusterMem, isKey⟩ := one.exists_row
              obtain ⟨later, laterMem, sameKey⟩ := others.keeps cluster clusterMem
              exact ⟨later, laterMem, sameKey.trans isKey⟩
            · exact others.exists_row story inRest
          keeps := by
            intro cluster clusterMem
            have kept : ∃ next ∈ (store.upsertCluster score tenantId first).clusters.rows,
                next.storyKey = cluster.storyKey := by
              by_cases isFirst : cluster.storyKey = first.key
              · obtain ⟨next, nextMem, isKey⟩ := one.exists_row
                exact ⟨next, nextMem, isKey.trans isFirst.symm⟩
              · exact ⟨cluster, one.keeps cluster clusterMem isFirst, rfl⟩
            obtain ⟨next, nextMem, sameKey⟩ := kept
            obtain ⟨later, laterMem, laterKey⟩ := others.keeps next nextMem
            exact ⟨later, laterMem, laterKey.trans sameKey⟩
          holds := by
            intro key itemId
            rw [show store.writeStories score tenantId (first :: rest) =
              (store.upsertCluster score tenantId first).writeStories score tenantId rest from rfl,
              others.holds, one.holds, or_assoc]
            simp only [List.mem_cons, exists_eq_or_imp] }

/-! ## Pruning -/

theorem clusterItems_pruneCluster (store : ClusterStore) (survivors : List RelevanceCluster)
    (stale : RelevanceCluster) :
    (store.pruneCluster survivors stale).clusterItems =
      store.clusterItems.filter (·.clusterId ≠ stale.id) := by
  simp only [pruneCluster]
  split
  · rfl
  · rfl

theorem mem_foldl_pruneCluster_edges (survivors staleClusters : List RelevanceCluster) :
    ∀ {store : ClusterStore} {edge : RelevanceClusterItem},
      edge ∈ (staleClusters.foldl
        (fun store cluster => store.pruneCluster survivors cluster) store).clusterItems →
      edge ∈ store.clusterItems ∧ edge.clusterId ∉ staleClusters.map (·.id) := by
  induction staleClusters with
  | nil => exact fun edgeMem => ⟨edgeMem, List.not_mem_nil⟩
  | cons first rest ih =>
      intro store edge edgeMem
      obtain ⟨kept, notRest⟩ := ih edgeMem
      have inFirst : edge ∈ store.clusterItems ∧ edge.clusterId ≠ first.id := by
        rw [clusterItems_pruneCluster] at kept
        obtain ⟨edgeMem, ne⟩ := List.mem_filter.mp kept
        exact ⟨edgeMem, of_decide_eq_true ne⟩
      refine ⟨inFirst.1, ?_⟩
      rw [List.map_cons, List.mem_cons, not_or]
      exact ⟨inFirst.2, notRest⟩

theorem Keyed.prune {written : ClusterStore} (keyed : written.Keyed) (seenKeys : List StoryKey) :
    (written.pruneStaleClusters seenKeys).Keyed := by
  have left := pruneStaleClusters_spec written seenKeys
  exact
    { nodup := by
        rw [left.rows]
        exact (List.filter_sublist.map _).nodup keyed.nodup
      parts := by
        intro cluster clusterMem
        rw [left.rows] at clusterMem
        exact keyed.parts cluster (List.mem_filter.mp clusterMem).1
      edges := by
        intro edge edgeMem
        obtain ⟨old, notStale⟩ := mem_foldl_pruneCluster_edges _ _ edgeMem
        obtain ⟨cluster, clusterMem, isCluster⟩ := keyed.edges edge old
        rw [left.rows]
        refine ⟨cluster, List.mem_filter.mpr ⟨clusterMem, decide_eq_true ?_⟩, isCluster⟩
        by_contra unseen
        exact notStale (List.mem_map.mpr
          ⟨cluster, List.mem_filter.mpr ⟨clusterMem, decide_eq_true unseen⟩, isCluster⟩) }

/-- What a build leaves: the clusters of its stories, with the observations that they had
and got. -/
structure Built (score : ClusterScore) (tenantId : Uuid) (entries : List Entry)
    (before after : ClusterStore) : Prop where
  keyed : after.Keyed
  rows : ∀ cluster ∈ after.clusters.rows, ∃ story ∈ storiesOf entries,
    cluster.storyKey = story.key ∧ cluster = clusterRow score tenantId cluster.id story
  exists_row : ∀ story ∈ storiesOf entries,
    ∃ cluster ∈ after.clusters.rows, cluster.storyKey = story.key
  items : ∀ cluster ∈ after.clusters.rows, ∀ itemId,
    itemId ∈ after.itemsOf cluster.id ↔ before.Holds cluster.storyKey itemId ∨
      ∃ story ∈ storiesOf entries, cluster.storyKey = story.key ∧ itemId ∈ story.itemIds

theorem recluster_built {store : ClusterStore} (keyed : store.Keyed) (score : ClusterScore)
    (tenantId : Uuid) (entries : List Entry) :
    Built score tenantId entries store (store.recluster score tenantId entries) := by
  have written := writeStories_written score tenantId (storiesOf entries) keyed
  have left := pruneStaleClusters_spec (store.writeStories score tenantId (storiesOf entries))
    ((storiesOf entries).map Story.key)
  have survives (cluster : RelevanceCluster) :
      cluster ∈ (store.recluster score tenantId entries).clusters.rows ↔
        cluster ∈ (store.writeStories score tenantId (storiesOf entries)).clusters.rows ∧
          cluster.storyKey ∈ (storiesOf entries).map Story.key := by
    rw [recluster, left.rows, survivors, List.mem_filter, decide_eq_true_eq]
  exact
    { keyed := written.keyed.prune _
      rows := by
        intro cluster clusterMem
        obtain ⟨isWritten, seen⟩ := (survives cluster).mp clusterMem
        obtain isStory | ⟨unseen, _⟩ := written.rows cluster isWritten
        · exact isStory
        · exact absurd seen unseen
      exists_row := by
        intro story isStory
        obtain ⟨cluster, clusterMem, isKey⟩ := written.exists_row story isStory
        refine ⟨cluster, (survives cluster).mpr ⟨clusterMem, ?_⟩, isKey⟩
        rw [isKey]
        exact List.mem_map_of_mem isStory
      items := by
        intro cluster clusterMem itemId
        obtain ⟨isWritten, seen⟩ := (survives cluster).mp clusterMem
        rw [← written.holds, recluster, left.items cluster
          (List.mem_filter.mpr ⟨isWritten, decide_eq_true seen⟩)]
        constructor
        · intro holds
          exact ⟨cluster, isWritten, rfl, holds⟩
        · intro ⟨other, otherMem, sameKey, holds⟩
          have same := List.inj_on_of_nodup_map written.keyed.nodup otherMem isWritten sameKey
          rwa [same] at holds }

end ClusterStore

/-! ## Keys of stories -/

/-- The date that a bucket is identified by; merged titles have none. -/
def keyDate (bucket : Bucket) : Option ZonedTime :=
  if bucket.2 = .titleDuplicate then none else bucket.1.head?.bind Entry.eventDate

/-- The title that a bucket without such a date is identified by. -/
def keyTitle (bucket : Bucket) : String :=
  fingerprintOrEmpty ((bucket.1.head?.map Entry.fingerprint).getD "")

/-- Two buckets show the same wall clock, or are identified by the same title. -/
def Collide (bucket other : Bucket) : Prop :=
  match keyDate bucket, keyDate other with
  | some date, some otherDate => date.second = otherDate.second
  | none, none => keyTitle bucket = keyTitle other
  | _, _ => False

theorem bucketStoryKey_eq (securityId : Option Uuid) (eventType : String) (bucket : Bucket) :
    bucketStoryKey securityId eventType bucket =
      match keyDate bucket with
      | some date => .dated securityId eventType date.second
      | none => .titled securityId eventType (keyTitle bucket) := by
  obtain ⟨entries, reason⟩ := bucket
  cases entries with
  | nil => simp [bucketStoryKey, keyDate, keyTitle, fingerprintOrEmpty]
  | cons first rest =>
      cases isDate : first.eventDate with
      | none => simp [bucketStoryKey, keyDate, keyTitle, isDate]
      | some date =>
          by_cases merged : reason = .titleDuplicate
          · simp [bucketStoryKey, keyDate, keyTitle, isDate, merged]
          · simp [bucketStoryKey, keyDate, isDate, merged]

theorem bucketStoryKey_eq_iff (securityId : Option Uuid) (eventType : String)
    (bucket other : Bucket) :
    bucketStoryKey securityId eventType bucket = bucketStoryKey securityId eventType other ↔
      Collide bucket other := by
  rw [bucketStoryKey_eq, bucketStoryKey_eq, Collide]
  cases keyDate bucket with
  | none =>
      cases keyDate other with
      | none => simp
      | some otherDate => simp
  | some date =>
      cases keyDate other with
      | none => simp
      | some otherDate => simp

/-- No two buckets of one security and event type collide. -/
def Distinct (entries : List Entry) : Prop :=
  ∀ group ∈ groupsOf (fun entry : Entry => (entry.row.securityId, entry.eventType)) entries,
    (clusterBuckets group.2).Pairwise fun bucket other => ¬Collide bucket other

theorem nodup_keys_iff (entries : List Entry) :
    ((storiesOf entries).map Story.key).Nodup ↔ Distinct entries := by
  rw [storiesOf, List.map_flatMap, List.nodup_iff_pairwise_ne, List.pairwise_flatMap, Distinct]
  have apart : (groupsOf (fun entry : Entry => (entry.row.securityId, entry.eventType))
      entries).Pairwise fun group other =>
        ∀ key ∈ ((clusterBuckets group.2).map fun bucket =>
            (⟨group.1.1, group.1.2, bucket.1, bucket.2⟩ : Story)).map Story.key,
          ∀ otherKey ∈ ((clusterBuckets other.2).map fun bucket =>
            (⟨other.1.1, other.1.2, bucket.1, bucket.2⟩ : Story)).map Story.key,
            key ≠ otherKey := by
    rw [groupsOf, List.pairwise_map]
    refine (nodup_eraseDups _).imp ?_
    intro parts otherParts ne key isKey otherKey isOther same
    obtain ⟨story, isStory, rfl⟩ := List.mem_map.mp isKey
    obtain ⟨bucket, -, rfl⟩ := List.mem_map.mp isStory
    obtain ⟨otherStory, isOtherStory, rfl⟩ := List.mem_map.mp isOther
    obtain ⟨otherBucket, -, rfl⟩ := List.mem_map.mp isOtherStory
    have first := key_parts ⟨parts.1, parts.2, bucket.1, bucket.2⟩
    have second := key_parts ⟨otherParts.1, otherParts.2, otherBucket.1, otherBucket.2⟩
    rw [same] at first
    exact ne (Prod.ext (first.1.symm.trans second.1) (first.2.symm.trans second.2))
  rw [and_iff_left apart]
  refine forall_congr' fun group => forall_congr' fun _ => ?_
  rw [List.map_map, List.pairwise_map]
  constructor
  · intro ne
    exact ne.imp fun keys collide =>
      keys ((bucketStoryKey_eq_iff group.1.1 group.1.2 _ _).mpr collide)
  · intro distinct
    exact distinct.imp fun separate same =>
      separate ((bucketStoryKey_eq_iff group.1.1 group.1.2 _ _).mp same)

/-! ## Builds and what arrives between them -/

/-- The facts that may name the date of an event, in the order in which they are asked. -/
def eventDateKeys : List String :=
  ["event_date", "ex_date", "record_date", "payment_date", "meeting_date", "split_date",
    "filing_date", "earnings_date"]

/-- `_event_date_for`: the first date that a fact names, or the time of publication.
`coerce` reads a date with its offset. -/
def eventDateFor (coerce : FactValue → Option ZonedTime) (item : MarketIntelligenceItem) :
    ZonedTime :=
  (eventDateKeys.findSome? fun key =>
    let raw := factValue item key
    if isTrue raw then coerce raw else none).getD ⟨item.publishedAt, 0⟩

/-- The tables of one tenant, and what the last build read: its matches and the score of
its time. -/
structure MatchTables where
  observations : List Observation
  rows : List HoldingRelevanceItem
  store : ClusterStore
  built : List Entry
  score : ClusterScore

def MatchTables.empty : MatchTables := ⟨[], [], .empty, [], fun _ _ => 0⟩

inductive MatchCall
  | observe (observation : Observation)
  | relate (row : HoldingRelevanceItem)
  | recluster (score : ClusterScore)

section Calls

variable (tools : TextTools) (coerce : FactValue → Option ZonedTime) (tenantId : Uuid)

/-- `_upsert_relevance`: insert a row for an observation and a security, unless there is one. -/
def upsertRelevance (tables : MatchTables) (row : HoldingRelevanceItem) : MatchTables :=
  match tables.observations.find? (·.item.id = row.itemId) with
  | none => tables
  | some stored =>
      if (row.itemId, row.securityId) ∈ tables.rows.map fun row => (row.itemId, row.securityId) then
        tables
      else
        { tables with
          rows := tables.rows ++
            [{ row with tenantId, eventDate := some (eventDateFor coerce stored.item) }] }

/-- One call. -/
def matchStep (tables : MatchTables) : MatchCall → MatchTables
  | .observe observation =>
      if observation.item.id ∈ tables.observations.map (·.item.id) then tables
      else { tables with observations := tables.observations ++ [observation] }
  | .relate row => upsertRelevance coerce tenantId tables row
  | .recluster score =>
      let entries := resolved tools tables.observations tables.rows
      { tables with
        store := tables.store.recluster score tenantId entries
        built := entries
        score }

end Calls

/-! ## A partition -/

/-- A cluster of the security and event type of a match has its observation. -/
def Covers (store : ClusterStore) (entry : Entry) (cluster : RelevanceCluster) : Prop :=
  cluster.securityId = entry.row.securityId ∧ cluster.eventType = entry.eventType ∧
    entry.row.itemId ∈ store.itemsOf cluster.id

/-- The clusters divide the matches of the last build as its stories do, and another build
changes nothing. -/
structure Partitioned (tenantId : Uuid) (tables : MatchTables) : Prop where
  covered : ∀ entry ∈ tables.built, ∃ cluster ∈ tables.store.clusters.rows,
    Covers tables.store entry cluster ∧
      ∀ other ∈ tables.store.clusters.rows, Covers tables.store entry other → other = cluster
  members : ∀ cluster ∈ tables.store.clusters.rows, ∃ story ∈ storiesOf tables.built,
    cluster.storyKey = story.key ∧
      ∀ itemId, itemId ∈ tables.store.itemsOf cluster.id ↔ itemId ∈ story.itemIds
  keys : ((storiesOf tables.built).map Story.key).Nodup
  again : tables.store.recluster tables.score tenantId tables.built = tables.store

/-- A build keeps buckets apart, and no observation leaves a cluster whose story is told
again. -/
def TellsApart (tools : TextTools) (tables : MatchTables) : MatchCall → Prop
  | .recluster _ =>
      Distinct (resolved tools tables.observations tables.rows) ∧
        ∀ story ∈ storiesOf (resolved tools tables.observations tables.rows), ∀ itemId,
          tables.store.Holds story.key itemId → itemId ∈ story.itemIds
  | _ => True

/-- Rows are unique for an observation and a security, and the clusters are keyed. -/
structure MatchTables.Sound (tables : MatchTables) : Prop where
  rows : (tables.rows.map fun row => (row.itemId, row.securityId)).Nodup
  built : (tables.built.map fun entry => (entry.row.itemId, entry.row.securityId)).Nodup
  keyed : tables.store.Keyed

theorem MatchTables.empty_sound : MatchTables.empty.Sound where
  rows := List.nodup_nil
  built := List.nodup_nil
  keyed := ⟨List.nodup_nil, List.forall_mem_nil _, List.forall_mem_nil _⟩

section Steps

variable {tools : TextTools} {coerce : FactValue → Option ZonedTime} {tenantId : Uuid}

/-- A match that resolves is a row. -/
theorem nodup_resolved {observations : List Observation} {rows : List HoldingRelevanceItem}
    (nodup : (rows.map fun row => (row.itemId, row.securityId)).Nodup) :
    ((resolved tools observations rows).map fun entry =>
      (entry.row.itemId, entry.row.securityId)).Nodup := by
  have sorted : (resolved tools observations rows).Perm _ := List.perm_insertionSort _ _
  rw [(sorted.map _).nodup_iff]
  refine nodup.sublist ?_
  rw [List.map_filterMap]
  clear sorted
  induction rows with
  | nil => exact List.Sublist.slnil
  | cons row rest ih =>
      have later := ih (List.nodup_cons.mp nodup).2
      rw [List.map_cons, List.filterMap_cons]
      cases observations.find? (·.item.id = row.itemId) with
      | none => exact later.cons _
      | some stored => exact later.cons_cons _

theorem matchStep_sound {tables : MatchTables} (sound : tables.Sound) (call : MatchCall) :
    (matchStep tools coerce tenantId tables call).Sound := by
  cases call with
  | observe observation =>
      rw [matchStep]
      split
      · exact sound
      · exact ⟨sound.rows, sound.built, sound.keyed⟩
  | relate row =>
      rw [matchStep, upsertRelevance]
      split
      · exact sound
      · split
        · exact sound
        · next fresh =>
            refine ⟨?_, sound.built, sound.keyed⟩
            rw [List.map_append, List.nodup_append]
            refine ⟨sound.rows, List.nodup_singleton _, ?_⟩
            intro old oldMem new newMem same
            rw [List.map_singleton, List.mem_singleton] at newMem
            rw [same, newMem] at oldMem
            exact fresh oldMem
  | recluster score =>
      exact ⟨sound.rows, nodup_resolved sound.rows,
        (ClusterStore.recluster_built sound.keyed score tenantId _).keyed⟩

/-! ## One build -/

namespace ClusterStore

/-- A story that is written in the same way already changes nothing. -/
theorem upsertCluster_again {store : ClusterStore} (keyed : store.Keyed) {score : ClusterScore}
    {story : Story} {cluster : RelevanceCluster} (clusterMem : cluster ∈ store.clusters.rows)
    (isKey : cluster.storyKey = story.key)
    (isRow : cluster = clusterRow score tenantId cluster.id story)
    (attached : ∀ itemId ∈ story.itemIds, itemId ∈ store.itemsOf cluster.id) :
    store.upsertCluster score tenantId story = store := by
  have found : store.clusterOf story.key = some cluster := by
    cases isCluster : store.clusterOf story.key with
    | none =>
        have unknown := List.find?_eq_none.mp isCluster cluster clusterMem
        rw [decide_eq_true_eq] at unknown
        exact absurd isKey unknown
    | some other =>
        have otherMem := List.mem_of_find?_eq_some isCluster
        have otherKey := List.find?_some isCluster
        rw [decide_eq_true_eq] at otherKey
        rw [List.inj_on_of_nodup_map keyed.nodup otherMem clusterMem
          (otherKey.trans isKey.symm)]
  have sameRow : { clusterRow score tenantId cluster.id story with
      securityId := cluster.securityId } = cluster := by
    rw [isRow]
    rfl
  have nothingNew : store.syncClusterItems tenantId cluster.id story.itemIds =
      store.clusterItems := by
    rw [syncClusterItems, List.filter_eq_nil_iff.mpr, List.map_nil, List.append_nil]
    intro positioned positionedMem isNew
    have holds := attached positioned.1 (List.fst_mem_of_mem_zipIdx positionedMem)
    exact of_decide_eq_true isNew holds
  rw [upsertCluster, found]
  dsimp only
  rw [sameRow, Table.save_of_mem clusterMem, nothingNew]

/-- A second build from the same matches changes nothing. -/
theorem recluster_again {before after : ClusterStore} {score : ClusterScore}
    {entries : List Entry} (built : Built score tenantId entries before after)
    (keys : ((storiesOf entries).map Story.key).Nodup) :
    after.recluster score tenantId entries = after := by
  have one : ∀ story ∈ storiesOf entries, after.upsertCluster score tenantId story = after := by
    intro story isStory
    obtain ⟨cluster, clusterMem, isKey⟩ := built.exists_row story isStory
    obtain ⟨other, isOther, otherKey, isRow⟩ := built.rows cluster clusterMem
    have same : other = story := List.inj_on_of_nodup_map keys isOther isStory
      (otherKey.symm.trans isKey)
    rw [same] at isRow
    refine upsertCluster_again built.keyed clusterMem isKey isRow ?_
    intro itemId named
    exact (built.items cluster clusterMem itemId).mpr (.inr ⟨story, isStory, isKey, named⟩)
  have all : ∀ stories : List Story, (∀ story ∈ stories, story ∈ storiesOf entries) →
      after.writeStories score tenantId stories = after := by
    intro stories inside
    induction stories with
    | nil => rfl
    | cons first rest ih =>
        rw [writeStories, List.foldl_cons, one first (inside first List.mem_cons_self)]
        exact ih fun story storyMem =>
          inside story (List.mem_cons_of_mem _ storyMem)
  have noStale : after.clusters.rows.filter
      (fun cluster => cluster.storyKey ∉ (storiesOf entries).map Story.key) = [] := by
    rw [List.filter_eq_nil_iff]
    intro cluster clusterMem unseen
    obtain ⟨story, isStory, isKey, -⟩ := built.rows cluster clusterMem
    rw [decide_eq_true_eq, isKey] at unseen
    exact unseen (List.mem_map_of_mem isStory)
  rw [recluster, all _ fun _ storyMem => storyMem, pruneStaleClusters, noStale]
  rfl

end ClusterStore

/-- A match is in one story only. -/
theorem story_unique {entries : List Entry}
    (nodup : (entries.map fun entry => (entry.row.itemId, entry.row.securityId)).Nodup)
    {story other : Story} (isStory : story ∈ storiesOf entries)
    (isOther : other ∈ storiesOf entries) {entry : Entry} (isMember : entry ∈ story.bucket)
    (inOther : entry ∈ other.bucket) : story = other := by
  have once : ((storiesOf entries).flatMap Story.bucket).Nodup :=
    (flatMap_storiesOf entries).nodup_iff.mpr nodup.of_map
  have disjoint := (List.nodup_flatMap.mp once).2
  obtain ⟨index, indexLt, rfl⟩ := List.getElem_of_mem isStory
  obtain ⟨otherIndex, otherLt, rfl⟩ := List.getElem_of_mem isOther
  rw [List.pairwise_iff_getElem] at disjoint
  obtain before | same | after := lt_trichotomy index otherIndex
  · exact absurd inOther (disjoint index otherIndex indexLt otherLt before isMember)
  · simp only [same]
  · exact absurd isMember (disjoint otherIndex index otherLt indexLt after inOther)

theorem mem_entries_of_bucket {entries : List Entry} {story : Story}
    (isStory : story ∈ storiesOf entries) {entry : Entry} (isMember : entry ∈ story.bucket) :
    entry ∈ entries :=
  (flatMap_storiesOf entries).mem_iff.mp (List.mem_flatMap.mpr ⟨story, isStory, isMember⟩)

/-- After a build the clusters are a partition exactly if it tells the stories apart. -/
theorem partitioned_recluster_iff {tables : MatchTables} (sound : tables.Sound)
    (score : ClusterScore) :
    Partitioned tenantId (matchStep tools coerce tenantId tables (.recluster score)) ↔
      TellsApart tools tables (.recluster score) := by
  have built := ClusterStore.recluster_built sound.keyed score tenantId
    (resolved tools tables.observations tables.rows)
  have nodup : ((resolved tools tables.observations tables.rows).map fun entry =>
      (entry.row.itemId, entry.row.securityId)).Nodup := nodup_resolved sound.rows
  rw [TellsApart, ← nodup_keys_iff]
  constructor
  · intro partitioned
    refine ⟨partitioned.keys, fun story isStory itemId holds => ?_⟩
    obtain ⟨cluster, clusterMem, isKey⟩ := built.exists_row story isStory
    obtain ⟨other, isOther, otherKey, items⟩ := partitioned.members cluster clusterMem
    have same : other = story := List.inj_on_of_nodup_map partitioned.keys isOther isStory
      (otherKey.symm.trans isKey)
    rw [← same]
    refine (items itemId).mp ((built.items cluster clusterMem itemId).mpr (.inl ?_))
    rwa [isKey]
  · rintro ⟨keys, together⟩
    have members : ∀ cluster ∈ ((tables.store.recluster score tenantId
        (resolved tools tables.observations tables.rows)).clusters.rows),
        ∃ story ∈ storiesOf (resolved tools tables.observations tables.rows),
          (cluster.storyKey = story.key ∧
            cluster = clusterRow score tenantId cluster.id story) ∧
          ∀ itemId, itemId ∈ (tables.store.recluster score tenantId
              (resolved tools tables.observations tables.rows)).itemsOf cluster.id ↔
            itemId ∈ story.itemIds := by
      intro cluster clusterMem
      obtain ⟨story, isStory, isKey, isRow⟩ := built.rows cluster clusterMem
      refine ⟨story, isStory, ⟨isKey, isRow⟩, fun itemId => ?_⟩
      rw [built.items cluster clusterMem]
      constructor
      · rintro (holds | ⟨other, isOther, otherKey, named⟩)
        · rw [isKey] at holds
          exact together story isStory itemId holds
        · have same : other = story := List.inj_on_of_nodup_map keys isOther isStory
            (otherKey.symm.trans isKey)
          rwa [← same]
      · intro named
        exact .inr ⟨story, isStory, isKey, named⟩
    exact
      { covered := by
          intro entry entryMem
          obtain ⟨story, isStory, isMember⟩ := List.mem_flatMap.mp
            ((flatMap_storiesOf _).mem_iff.mpr entryMem)
          obtain ⟨cluster, clusterMem, isKey⟩ := built.exists_row story isStory
          obtain ⟨own, isOwn, ⟨ownKey, isRow⟩, items⟩ := members cluster clusterMem
          have same : own = story := List.inj_on_of_nodup_map keys isOwn isStory
            (ownKey.symm.trans isKey)
          rw [same] at isRow items
          obtain ⟨security, eventType⟩ := of_mem_bucket isStory isMember
          refine ⟨cluster, clusterMem, ⟨?_, ?_, ?_⟩, ?_⟩
          · rw [isRow]
            exact security.symm
          · rw [isRow]
            exact eventType.symm
          · exact (items _).mpr (List.mem_map_of_mem isMember)
          · intro other otherMem ⟨otherSecurity, _, otherItem⟩
            obtain ⟨otherStory, isOther, ⟨otherKey, otherRow⟩, otherItems⟩ :=
              members other otherMem
            obtain ⟨found, foundMem, sameItem⟩ :=
              List.mem_map.mp ((otherItems _).mp otherItem)
            have foundSecurity : found.row.securityId = entry.row.securityId := by
              rw [(of_mem_bucket isOther foundMem).1, ← otherSecurity, otherRow]
              rfl
            have isEntry : found = entry := List.inj_on_of_nodup_map nodup
              (mem_entries_of_bucket isOther foundMem) entryMem (Prod.ext sameItem foundSecurity)
            rw [isEntry] at foundMem
            have sameStory := story_unique nodup isOther isStory foundMem isMember
            refine List.inj_on_of_nodup_map built.keyed.nodup otherMem clusterMem ?_
            rw [otherKey, sameStory, isKey]
        members := by
          intro cluster clusterMem
          obtain ⟨story, isStory, ⟨isKey, -⟩, items⟩ := members cluster clusterMem
          exact ⟨story, isStory, isKey, items⟩
        keys := keys
        again := ClusterStore.recluster_again built keys }

/-- Without a build, the clusters and what they were built from stay. -/
theorem partitioned_matchStep_iff {tables : MatchTables} (sound : tables.Sound)
    (partitioned : Partitioned tenantId tables) (call : MatchCall) :
    Partitioned tenantId (matchStep tools coerce tenantId tables call) ↔
      TellsApart tools tables call := by
  cases call with
  | observe observation =>
      refine iff_of_true ?_ trivial
      rw [matchStep]
      split
      · exact partitioned
      · exact ⟨partitioned.covered, partitioned.members, partitioned.keys, partitioned.again⟩
  | relate row =>
      refine iff_of_true ?_ trivial
      rw [matchStep, upsertRelevance]
      split
      · exact partitioned
      · split
        · exact partitioned
        · exact ⟨partitioned.covered, partitioned.members, partitioned.keys, partitioned.again⟩
  | recluster score => exact partitioned_recluster_iff sound score

theorem MatchTables.empty_partitioned : Partitioned tenantId .empty where
  covered := List.forall_mem_nil _
  members := List.forall_mem_nil _
  keys := List.nodup_nil
  again := rfl

/-- In every state of a run the clusters partition the matches of the last build, exactly if
every build tells the stories apart. -/
theorem always_partitioned_iff (calls : List MatchCall) :
    (∀ before after, calls = before ++ after →
        Partitioned tenantId (runAll (matchStep tools coerce tenantId) .empty before)) ↔
      Along (matchStep tools coerce tenantId) (TellsApart tools) .empty calls := by
  have preserved : ∀ tables call, MatchTables.Sound tables →
      (matchStep tools coerce tenantId tables call).Sound :=
    fun _ call sound => matchStep_sound sound call
  apply reached_iff_kept preserved _ calls MatchTables.empty_sound MatchTables.empty_partitioned
  intro tables call sound partitioned
  exact partitioned_matchStep_iff sound partitioned call

end Steps

/-! ## A title of two quarters -/

/-- Lower case is kept, and no text has an entity or a secret. -/
def plainTools : TextTools := ⟨id, id, id⟩

/-- A match that is not yet dated, for the security 5. -/
def sampleRow (itemId : Uuid) : HoldingRelevanceItem where
  tenantId := 1
  itemId
  securityId := some 5
  accountId := none
  matchReason := "exact_security"
  confidence := 1
  holdingStatus := "current"
  holdingWeight := none
  eventDate := none

/-- A title that was published on a day is stored and matched. -/
def published (itemId : Uuid) (title : String) (day : Int) : List MatchCall :=
  [.observe ⟨1, { sampleItem itemId title with publishedAt := Instant.days day }⟩,
    .relate (sampleRow itemId)]

/-- A title is syndicated on two days, and again on two days of the next quarter. -/
def quarterlyCalls : List MatchCall :=
  published 1 "results" 0 ++ published 2 "results" 1 ++ published 3 "results" 90 ++
    published 4 "results" 91 ++ [.recluster fun _ _ => 0]

/-- Both quarters end in one cluster. -/
theorem quarters_not_partitioned :
    ¬ Partitioned 1 (runAll (matchStep plainTools (fun _ => none) 1) .empty quarterlyCalls) := by
  intro partitioned
  have sameKey : ¬ ((storiesOf (runAll (matchStep plainTools (fun _ => none) 1) .empty
      quarterlyCalls).built).map Story.key).Nodup := by
    decide +kernel
  exact sameKey partitioned.keys

end FinanceSync.Relevance
