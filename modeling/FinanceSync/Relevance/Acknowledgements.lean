import FinanceSync.Relevance.Clusters

/-!
# Acknowledgements and notifications follow the story

Users acknowledge clusters and are notified of them, by their ids, while each build of the
feed may regroup the observations into other clusters.  An acknowledgement follows its story
where the stories that hold its items were acknowledged themselves or are the ones that the
date window picks for those that vanish, and a notification is not repeated where the cluster
that it was about does not vanish.
-/

namespace FinanceSync.Relevance

open Lib

/-! ## Acknowledging -/

/-- The ack of a user for a cluster, if there is a row. -/
def ackFor (acks : List RelevanceAck) (userId clusterId : Uuid) : Option Bool :=
  (acks.find? fun ack => ack.userId = userId ∧ ack.clusterId = clusterId).map (·.acknowledged)

namespace ClusterStore

variable (store : ClusterStore)

/-- The observations of a cluster. -/
def itemsOf (clusterId : Uuid) : List Uuid :=
  (store.clusterItems.filter (·.clusterId = clusterId)).map (·.itemId)

/-- `set_ack`; an identifier that is not well formed names no cluster. -/
def setAck (tenantId userId clusterId : Uuid) (acknowledged : Bool) : ClusterStore × Bool :=
  if store.clusters.rows.any (·.id = clusterId) then
    match ackFor store.acks userId clusterId with
    | none =>
        ({ store with acks := store.acks ++ [⟨tenantId, userId, clusterId, acknowledged⟩] }, true)
    | some _ =>
        ({ store with
          acks := store.acks.map fun ack =>
            if ack.userId = userId ∧ ack.clusterId = clusterId then { ack with acknowledged }
            else ack }, true)
  else (store, false)

/-- The observations that a user has acknowledged through a cluster. -/
def covered : List (Uuid × Uuid) :=
  store.clusters.rows.flatMap fun cluster =>
    ((store.acks.map (·.userId)).filter fun userId =>
      ackFor store.acks userId cluster.id = some true).flatMap fun userId =>
        (store.itemsOf cluster.id).map (Prod.mk userId)

end ClusterStore

/-! ## Notifying -/

/-- The notification settings of a user. -/
structure Preference where
  userId : Uuid
  enabled : Bool
  eventTypes : Option (List String) := none
  securityId : Option Uuid := none
  accountId : Option Uuid := none

/-- `_preference_allows_cluster`, given which clusters touch an account. -/
def Preference.allows (preference : Preference) (touches : Uuid → RelevanceCluster → Bool)
    (cluster : RelevanceCluster) : Bool :=
  (preference.eventTypes.filter (· ≠ [])).all (cluster.eventType ∈ ·) &&
    preference.securityId.all (cluster.securityId = some ·) &&
    preference.accountId.all (touches · cluster)

/-- A notification that was sent: the event type and what the cluster held then. -/
structure Notification where
  userId : Uuid
  eventType : String
  itemIds : List Uuid
deriving DecidableEq

/-- The store with what has happened so far: whose acknowledgement of which observation is in
force, who ever acknowledged a cluster with it, and what was sent. -/
structure History where
  store : ClusterStore
  inForce : List (Uuid × Uuid)
  acknowledged : List (Uuid × Uuid)
  sent : List Notification

def History.empty : History := ⟨.empty, [], [], []⟩

namespace History

variable (history : History)

/-- `notify_eligible` for a cluster of the tenant. -/
def notifyEligible (preference : Preference) (touches : Uuid → RelevanceCluster → Bool)
    (cluster : RelevanceCluster) : History :=
  let log : RelevanceNotificationLog := ⟨preference.userId, cluster.id, cluster.eventType⟩
  if preference.enabled && preference.allows touches cluster &&
      log ∉ history.store.notificationLogs then
    { history with
      store := { history.store with
        notificationLogs := history.store.notificationLogs ++ [log] }
      sent := history.sent ++
        [⟨preference.userId, cluster.eventType, history.store.itemsOf cluster.id⟩] }
  else history

/-- The clusters of a sweep. -/
def targets (clusterIds : Option (List Uuid)) : List RelevanceCluster :=
  match clusterIds with
  | none => history.store.clusters.rows
  | some clusterIds => clusterIds.filterMap fun clusterId =>
      history.store.clusters.rows.find? (·.id = clusterId)

/-- `dispatch_new_cluster_notifications` -/
def dispatch (preferences : List Preference) (clusterIds : Option (List Uuid))
    (touches : Uuid → RelevanceCluster → Bool) : History :=
  let notices := (preferences.filter (·.enabled)).flatMap fun preference =>
    (history.targets clusterIds).map (Prod.mk preference)
  notices.foldl (fun history notice =>
    if notice.1.allows touches notice.2 then history.notifyEligible notice.1 touches notice.2
    else history) history

end History

/-! ## Calls -/

/-- A call of the service; a build comes with the matches of the tenant, whatever observations
have arrived, and with the scores at its time. -/
inductive Call
  | buildFeed (score : ClusterScore) (entries : List Entry)
  | setAck (userId clusterId : Uuid) (acknowledged : Bool)
  | dispatch (preferences : List Preference) (clusterIds : Option (List Uuid))
      (touches : Uuid → RelevanceCluster → Bool)

/-- One call. -/
def step (tenantId : Uuid) (history : History) : Call → History
  | .buildFeed score entries =>
      let stories := storiesOf entries
      let written := history.store.writeStories score tenantId stories
      let pruned := written.pruneStaleClusters (stories.map Story.key)
      { history with
        store := pruned
        inForce := history.inForce ++ pruned.covered
        acknowledged := history.acknowledged ++ written.covered }
  | .setAck userId clusterId acknowledged =>
      let (store, done) := history.store.setAck tenantId userId clusterId acknowledged
      let named := (history.store.itemsOf clusterId).map (Prod.mk userId)
      if done = false then history
      else if acknowledged then
        { history with
          store
          inForce := history.inForce ++ named
          acknowledged := history.acknowledged ++ named }
      else { history with store, inForce := history.inForce.filter (!named.contains ·) }
  | .dispatch preferences clusterIds touches => history.dispatch preferences clusterIds touches

/-! ## What is to hold -/

/-- Acknowledgements and notifications have followed the stories so far. -/
structure Follows (history : History) : Prop where
  stays : ∀ userId itemId, (userId, itemId) ∈ history.inForce →
    ∀ cluster ∈ history.store.clusters.rows, itemId ∈ history.store.itemsOf cluster.id →
      ackFor history.store.acks userId cluster.id = some true
  earned : ∀ userId, ∀ cluster ∈ history.store.clusters.rows,
    ackFor history.store.acks userId cluster.id = some true →
      ∃ itemId ∈ history.store.itemsOf cluster.id, (userId, itemId) ∈ history.acknowledged
  once : history.sent.Pairwise fun first second =>
    first.userId = second.userId → first.eventType = second.eventType →
      ∀ itemId ∈ first.itemIds, itemId ∉ second.itemIds

namespace ClusterStore

variable (store : ClusterStore) (seenKeys : List StoryKey)

/-- The clusters that some story was written to. -/
def survivors : List RelevanceCluster :=
  store.clusters.rows.filter (·.storyKey ∈ seenKeys)

/-- The clusters that no story was written to. -/
def stale : List RelevanceCluster :=
  store.clusters.rows.filter (·.storyKey ∉ seenKeys)

/-- The clusters that vanish in favour of a survivor. -/
def absorbed (survivor : RelevanceCluster) : List RelevanceCluster :=
  (store.stale seenKeys).filter fun cluster =>
    ((store.survivors seenKeys).find? (mayAbsorb cluster)).map (·.id) = some survivor.id

/-- The ack that a survivor has for a user: its own, else the first one of what it absorbs. -/
def inherited (userId : Uuid) (survivor : RelevanceCluster) : Option Bool :=
  (ackFor store.acks userId survivor.id).or
    ((store.absorbed seenKeys survivor).findSome? fun cluster =>
      ackFor store.acks userId cluster.id)

/-- A user was notified of a cluster. -/
def Notified (userId : Uuid) (cluster : RelevanceCluster) : Prop :=
  ⟨userId, cluster.id, cluster.eventType⟩ ∈ store.notificationLogs

/-- Two clusters share an observation. -/
def Share (clusterId other : Uuid) : Prop :=
  ∃ itemId ∈ store.itemsOf clusterId, itemId ∈ store.itemsOf other

end ClusterStore

/-- What the code asks of a build, once the stories are written and before the other clusters
are deleted. -/
structure KeepsStories (history : History) (written : ClusterStore) (seenKeys : List StoryKey) :
    Prop where
  kept : ∀ userId itemId,
    ((userId, itemId) ∈ history.inForce ∨ ∃ cluster ∈ written.survivors seenKeys,
      itemId ∈ written.itemsOf cluster.id ∧ written.inherited seenKeys userId cluster = some true) →
    ∀ cluster ∈ written.survivors seenKeys, itemId ∈ written.itemsOf cluster.id →
      written.inherited seenKeys userId cluster = some true
  earned : ∀ userId, ∀ cluster ∈ written.survivors seenKeys,
    written.inherited seenKeys userId cluster = some true →
      ∃ itemId ∈ written.itemsOf cluster.id,
        (userId, itemId) ∈ history.acknowledged ∨ (userId, itemId) ∈ written.covered
  notified : ∀ notification ∈ history.sent, ∀ cluster ∈ written.survivors seenKeys,
    cluster.eventType = notification.eventType →
      (∃ itemId ∈ notification.itemIds, itemId ∈ written.itemsOf cluster.id) →
        written.Notified notification.userId cluster

/-- A user was notified of a cluster, or else of all that share an observation with it and have
its event type. -/
def Alone (store : ClusterStore) (userId : Uuid) (cluster : RelevanceCluster) : Prop :=
  store.Notified userId cluster ∨
    ∀ other ∈ store.clusters.rows, other.id ≠ cluster.id →
      other.eventType = cluster.eventType → store.Share cluster.id other.id →
        store.Notified userId other

/-- What the code asks of a call. -/
def Keeps (tenantId : Uuid) (history : History) : Call → Prop
  | .buildFeed score entries =>
      let stories := storiesOf entries
      KeepsStories history (history.store.writeStories score tenantId stories)
        (stories.map Story.key)
  | .setAck userId clusterId acknowledged =>
      acknowledged → ∀ cluster ∈ history.store.clusters.rows, cluster.id ≠ clusterId →
        history.store.Share clusterId cluster.id →
          ackFor history.store.acks userId cluster.id = some true
  | .dispatch preferences clusterIds touches =>
      ∀ preference ∈ preferences, preference.enabled → ∀ cluster ∈ history.targets clusterIds,
        preference.allows touches cluster → Alone history.store preference.userId cluster

/-! ## Rows of acks -/

theorem ackFor_isSome {acks : List RelevanceAck} {userId clusterId : Uuid} {acknowledged : Bool}
    (isAck : ackFor acks userId clusterId = some acknowledged) :
    ∃ ack ∈ acks, ack.userId = userId ∧ ack.clusterId = clusterId := by
  obtain ⟨ack, found, _⟩ := Option.map_eq_some_iff.mp isAck
  have isOf := List.find?_some found
  rw [decide_eq_true_eq] at isOf
  exact ⟨ack, List.mem_of_find?_eq_some found, isOf⟩

theorem ackFor_eq_none_iff {acks : List RelevanceAck} {userId clusterId : Uuid} :
    ackFor acks userId clusterId = none ↔
      ¬ ∃ ack ∈ acks, ack.userId = userId ∧ ack.clusterId = clusterId := by
  rw [ackFor, Option.map_eq_none_iff, List.find?_eq_none]
  simp only [decide_eq_true_eq, not_exists, not_and]

/-- Changing rows so that the ones for a user and a cluster stay the same ones. -/
theorem ackFor_map {acks : List RelevanceAck} {change : RelevanceAck → RelevanceAck}
    {userId clusterId oldClusterId : Uuid}
    (same : ∀ ack ∈ acks,
      ((change ack).userId = userId ∧ (change ack).clusterId = clusterId ↔
        ack.userId = userId ∧ ack.clusterId = oldClusterId))
    (kept : ∀ ack ∈ acks, (change ack).acknowledged = ack.acknowledged) :
    ackFor (acks.map change) userId clusterId = ackFor acks userId oldClusterId := by
  rw [ackFor, ackFor, List.find?_map, Option.map_map]
  have sameFound : acks.find? ((fun ack => decide (ack.userId = userId ∧
        ack.clusterId = clusterId)) ∘ change) =
      acks.find? fun ack => ack.userId = userId ∧ ack.clusterId = oldClusterId := by
    apply List.find?_congr
    intro ack isMem
    exact decide_eq_decide.mpr (same ack isMem)
  rw [sameFound]
  cases found : acks.find? fun ack => ack.userId = userId ∧ ack.clusterId = oldClusterId with
  | none => rfl
  | some ack => exact congrArg some (kept ack (List.mem_of_find?_eq_some found))

/-- A migrated ack reaches the survivor where the user has none for it yet. -/
theorem ackFor_migrateAcks {acks : List RelevanceAck} {source target clusterId : Uuid}
    (userId : Uuid) (other : clusterId ≠ source) :
    ackFor (migrateAcks acks source target) userId clusterId =
      if clusterId = target then (ackFor acks userId target).or (ackFor acks userId source)
      else ackFor acks userId clusterId := by
  have kept : ∀ ack ∈ acks, (if ack.clusterId = source ∧
        ¬ acks.any fun second => second.userId = ack.userId ∧ second.clusterId = target then
      { ack with clusterId := target } else ack).acknowledged = ack.acknowledged := by
    intro ack _
    split <;> rfl
  rw [migrateAcks]
  by_cases isTarget : clusterId = target
  · rw [if_pos isTarget]
    cases own : ackFor acks userId target with
    | some acknowledged =>
        rw [Option.some_or, ← own]
        apply ackFor_map _ kept
        intro ack isMem
        obtain ⟨stored, storedMem, storedUser, storedCluster⟩ := ackFor_isSome own
        split
        · next moves =>
            have notUser : ack.userId ≠ userId := by
              intro sameUser
              apply moves.2
              refine List.any_eq_true.mpr ⟨stored, storedMem, decide_eq_true ?_⟩
              exact ⟨storedUser.trans sameUser.symm, storedCluster⟩
            simp only [notUser, false_and]
        · rw [isTarget]
    | none =>
        rw [Option.none_or]
        apply ackFor_map _ kept
        intro ack isMem
        have unowned := ackFor_eq_none_iff.mp own
        split
        · next moves => simp only [isTarget, moves.1, and_true]
        · next stays =>
            constructor
            · intro ⟨sameUser, sameCluster⟩
              exact absurd ⟨ack, isMem, sameUser, sameCluster.trans isTarget⟩ unowned
            · intro ⟨sameUser, isSource⟩
              refine absurd ⟨isSource, ?_⟩ stays
              intro taken
              obtain ⟨stored, storedMem, isStored⟩ := List.any_eq_true.mp taken
              obtain ⟨storedUser, storedCluster⟩ := of_decide_eq_true isStored
              exact unowned ⟨stored, storedMem, storedUser.trans sameUser, storedCluster⟩
  · rw [if_neg isTarget]
    apply ackFor_map _ kept
    intro ack _
    split
    · next moves =>
        simp only [Ne.symm isTarget, moves.1, Ne.symm other]
    · rfl

theorem ackFor_filter {acks : List RelevanceAck} {userId clusterId deleted : Uuid}
    (other : clusterId ≠ deleted) :
    ackFor (acks.filter (·.clusterId ≠ deleted)) userId clusterId =
      ackFor acks userId clusterId := by
  rw [ackFor, ackFor, List.find?_filter]
  apply congrArg
  apply List.find?_congr
  intro ack _
  by_cases sameCluster : ack.clusterId = clusterId
  · simp [sameCluster, other]
  · simp [sameCluster]

/-- Overwriting the ack of a user for a cluster. -/
theorem ackFor_overwrite {acks : List RelevanceAck} {userId clusterId : Uuid}
    {acknowledged : Bool} (user cluster : Uuid) :
    ackFor (acks.map fun ack =>
        if ack.userId = userId ∧ ack.clusterId = clusterId then { ack with acknowledged } else ack)
        user cluster =
      if user = userId ∧ cluster = clusterId then
        (ackFor acks userId clusterId).map fun _ => acknowledged
      else ackFor acks user cluster := by
  have same (ack : RelevanceAck) :
      ((if ack.userId = userId ∧ ack.clusterId = clusterId then { ack with acknowledged }
        else ack).userId = user ∧
      (if ack.userId = userId ∧ ack.clusterId = clusterId then { ack with acknowledged }
        else ack).clusterId = cluster) ↔ ack.userId = user ∧ ack.clusterId = cluster := by
    split <;> rfl
  rw [ackFor, List.find?_map]
  have sameFound : acks.find? ((fun ack => decide (ack.userId = user ∧
        ack.clusterId = cluster)) ∘ fun ack =>
        if ack.userId = userId ∧ ack.clusterId = clusterId then { ack with acknowledged }
        else ack) = acks.find? fun ack => ack.userId = user ∧ ack.clusterId = cluster :=
    List.find?_congr fun ack _ => decide_eq_decide.mpr (same ack)
  rw [sameFound, ackFor, ackFor]
  cases found : acks.find? fun ack => ack.userId = user ∧ ack.clusterId = cluster with
  | none =>
      split
      · next isOf =>
          rw [isOf.1, isOf.2] at found
          rw [found]
          rfl
      · rfl
  | some ack =>
      have isAck := List.find?_some found
      rw [decide_eq_true_eq] at isAck
      split
      · next isOf =>
          rw [isOf.1, isOf.2] at found isAck
          rw [found, Option.map_some, if_pos isAck]
          rfl
      · next other =>
          have notOf : ¬ (ack.userId = userId ∧ ack.clusterId = clusterId) := by
            rwa [isAck.1, isAck.2]
          rw [Option.map_some, if_neg notOf]

/-- Setting an ack changes the ack of that user for that cluster alone. -/
theorem ackFor_setAck {store after : ClusterStore} {tenantId userId clusterId : Uuid}
    {acknowledged : Bool}
    (done : store.setAck tenantId userId clusterId acknowledged = (after, true))
    (user cluster : Uuid) :
    ackFor after.acks user cluster =
      if user = userId ∧ cluster = clusterId then some acknowledged
      else ackFor store.acks user cluster := by
  rw [ClusterStore.setAck] at done
  split at done
  · split at done
    · next isNone =>
        cases done
        rw [ackFor, List.find?_append, Option.map_or]
        split
        · next isOf =>
            have unset : (store.acks.find? fun ack =>
                ack.userId = user ∧ ack.clusterId = cluster).map (·.acknowledged) = none := by
              rw [isOf.1, isOf.2]
              exact isNone
            rw [unset, Option.none_or, List.find?_singleton]
            simp [isOf.1, isOf.2]
        · next other =>
            have missed : (decide (userId = user ∧ clusterId = cluster)) = false := by
              apply decide_eq_false
              intro ⟨sameUser, sameCluster⟩
              exact other ⟨sameUser.symm, sameCluster.symm⟩
            rw [List.find?_singleton, missed]
            exact Option.or_none
    · next set isSet =>
        cases done
        rw [ackFor_overwrite]
        split
        · next isOf =>
            rw [isSet]
            rfl
        · rfl
  · cases done

/-- Setting an ack changes nothing but acks, and the cluster is there. -/
theorem setAck_spec {store after : ClusterStore} {tenantId userId clusterId : Uuid}
    {acknowledged : Bool}
    (done : store.setAck tenantId userId clusterId acknowledged = (after, true)) :
    (∃ cluster ∈ store.clusters.rows, cluster.id = clusterId) ∧
      after.clusters = store.clusters ∧ after.clusterItems = store.clusterItems ∧
      after.notificationLogs = store.notificationLogs := by
  rw [ClusterStore.setAck] at done
  split at done
  · next exists_cluster =>
      have isCluster : ∃ cluster ∈ store.clusters.rows, cluster.id = clusterId := by
        simpa using exists_cluster
      split at done
      · cases done
        exact ⟨isCluster, rfl, rfl, rfl⟩
      · cases done
        exact ⟨isCluster, rfl, rfl, rfl⟩
  · cases done

namespace ClusterStore

variable {store : ClusterStore}

theorem mem_covered {userId itemId : Uuid} :
    (userId, itemId) ∈ store.covered ↔ ∃ cluster ∈ store.clusters.rows,
      ackFor store.acks userId cluster.id = some true ∧ itemId ∈ store.itemsOf cluster.id := by
  simp only [covered, List.mem_flatMap, List.mem_filter, List.mem_map, decide_eq_true_eq,
    Prod.mk.injEq]
  constructor
  · rintro ⟨cluster, clusterMem, user, ⟨_, isAck⟩, item, itemMem, rfl, rfl⟩
    exact ⟨cluster, clusterMem, isAck, itemMem⟩
  · intro ⟨cluster, clusterMem, isAck, itemMem⟩
    obtain ⟨ack, ackMem, isUser, _⟩ := ackFor_isSome isAck
    exact ⟨cluster, clusterMem, userId, ⟨⟨ack, ackMem, isUser⟩, isAck⟩, itemId, itemMem, rfl, rfl⟩

/-! ## Deleting clusters -/

theorem itemsOf_deleteCluster {clusterId deleted : Uuid} (other : clusterId ≠ deleted) :
    (store.deleteCluster deleted).itemsOf clusterId = store.itemsOf clusterId := by
  rw [itemsOf, itemsOf, deleteCluster, List.filter_filter]
  apply congrArg
  apply List.filter_congr
  intro edge _
  by_cases same : edge.clusterId = clusterId
  · simp [same, other]
  · simp [same]

/-- What is left after stale clusters were pruned. -/
structure Pruned (before after : ClusterStore) (survivors staleClusters : List RelevanceCluster) :
    Prop where
  rows : after.clusters.rows =
    before.clusters.rows.filter fun cluster => cluster.id ∉ staleClusters.map (·.id)
  items : ∀ clusterId ∉ staleClusters.map (·.id),
    after.itemsOf clusterId = before.itemsOf clusterId
  logs : ∀ log, log.clusterId ∉ staleClusters.map (·.id) →
    (log ∈ after.notificationLogs ↔ log ∈ before.notificationLogs)
  acks : ∀ userId, ∀ clusterId ∉ staleClusters.map (·.id),
    ackFor after.acks userId clusterId =
      (ackFor before.acks userId clusterId).or
        ((staleClusters.filter fun cluster =>
          (survivors.find? (mayAbsorb cluster)).map (·.id) = some clusterId).findSome?
            fun cluster => ackFor before.acks userId cluster.id)

/-- One stale cluster is deleted, and its acks go to the survivor that is picked. -/
theorem pruneCluster_spec (survivors : List RelevanceCluster) {cluster : RelevanceCluster}
    (survive : ∀ survivor ∈ survivors, survivor.id ≠ cluster.id) :
    Pruned store (store.pruneCluster survivors cluster) survivors [cluster] := by
  have other {clusterId : Uuid} (out : clusterId ∉ [cluster].map (·.id)) :
      clusterId ≠ cluster.id := by
    simpa using out
  rw [pruneCluster]
  cases isTarget : survivors.find? (mayAbsorb cluster) with
  | none =>
      exact
        { rows := by simp [deleteCluster, Table.keep]
          items := fun clusterId out => itemsOf_deleteCluster (other out)
          logs := by
            intro log out
            simp [deleteCluster, other out]
          acks := by
            intro userId clusterId out
            have unmoved : [cluster].filter (fun cluster =>
                (survivors.find? (mayAbsorb cluster)).map (·.id) = some clusterId) = [] := by
              simp [isTarget]
            rw [unmoved, List.findSome?_nil, Option.or_none]
            exact ackFor_filter (other out) }
  | some target =>
      have isOther : target.id ≠ cluster.id :=
        survive target (List.mem_of_find?_eq_some isTarget)
      exact
        { rows := by simp [deleteCluster, Table.keep]
          items := fun clusterId out => itemsOf_deleteCluster (other out)
          logs := by
            intro log out
            simp [deleteCluster, other out]
          acks := by
            intro userId clusterId out
            refine (ackFor_filter (other out)).trans ?_
            rw [ackFor_migrateAcks userId (other out)]
            split
            · next isClusterId =>
                rw [isClusterId]
                simp [isTarget]
            · next notTarget => simp [isTarget, Ne.symm notTarget] }

/-- The stale clusters are deleted, and their acks go to the survivors that are picked. -/
theorem foldl_pruneCluster (survivors staleClusters : List RelevanceCluster) :
    ∀ store : ClusterStore, (staleClusters.map (·.id)).Nodup →
      (∀ survivor ∈ survivors, survivor.id ∉ staleClusters.map (·.id)) →
      Pruned store (staleClusters.foldl
        (fun store cluster => store.pruneCluster survivors cluster) store) survivors
        staleClusters := by
  induction staleClusters with
  | nil =>
      intro store _ _
      exact
        { rows := by simp
          items := fun _ _ => rfl
          logs := fun _ _ => Iff.rfl
          acks := by simp }
  | cons first rest ih =>
      intro store nodup survive
      rw [List.map_cons, List.nodup_cons] at nodup
      have outside {clusterId : Uuid} (out : clusterId ∉ (first :: rest).map (·.id)) :
          clusterId ∉ [first].map (·.id) ∧ clusterId ∉ rest.map (·.id) := by
        rw [List.map_cons, List.mem_cons, not_or] at out
        simpa using out
      have one := store.pruneCluster_spec survivors fun survivor survivorMem same =>
        survive survivor survivorMem (same ▸ List.mem_cons_self)
      have others := ih (store.pruneCluster survivors first) nodup.2
        fun survivor survivorMem => (outside (survive survivor survivorMem)).2
      exact
        { rows := by
            rw [List.foldl_cons, others.rows, one.rows, List.filter_filter]
            apply List.filter_congr
            intro cluster _
            rw [← Bool.decide_and, decide_eq_decide, ← not_or, List.map_singleton,
              List.mem_singleton, List.map_cons, List.mem_cons, or_comm]
          items := fun clusterId out =>
            (others.items clusterId (outside out).2).trans (one.items clusterId (outside out).1)
          logs := fun log out =>
            (others.logs log (outside out).2).trans (one.logs log (outside out).1)
          acks := by
            intro userId clusterId out
            -- A cluster that is deleted later keeps its acks until then.
            have later : ∀ cluster ∈ rest, ackFor (store.pruneCluster survivors first).acks userId
                cluster.id = ackFor store.acks userId cluster.id := by
              intro cluster clusterMem
              have isRest : cluster.id ∈ rest.map (·.id) := List.mem_map_of_mem clusterMem
              have out : cluster.id ∉ [first].map (·.id) := by
                simpa using fun same : cluster.id = first.id => nodup.1 (same ▸ isRest)
              rw [one.acks userId cluster.id out]
              have unmoved : [first].filter (fun moved =>
                  (survivors.find? (mayAbsorb moved)).map (·.id) = some cluster.id) = [] := by
                rw [List.filter_eq_nil_iff]
                intro moved _ isTarget
                obtain ⟨target, found, same⟩ :=
                  Option.map_eq_some_iff.mp (of_decide_eq_true isTarget)
                exact (outside (survive target (List.mem_of_find?_eq_some found))).2 (same ▸ isRest)
              rw [unmoved, List.findSome?_nil, Option.or_none]
            rw [List.foldl_cons, others.acks userId clusterId (outside out).2,
              one.acks userId clusterId (outside out).1, Option.or_assoc]
            have sameRest : (rest.filter fun cluster =>
                  (survivors.find? (mayAbsorb cluster)).map (·.id) = some clusterId).findSome?
                  (fun cluster =>
                    ackFor (store.pruneCluster survivors first).acks userId cluster.id) =
                (rest.filter fun cluster =>
                  (survivors.find? (mayAbsorb cluster)).map (·.id) = some clusterId).findSome?
                  (fun cluster => ackFor store.acks userId cluster.id) := by
              rw [← List.head?_filterMap, ← List.head?_filterMap]
              exact congrArg List.head? (List.filterMap_congr fun cluster clusterMem =>
                later cluster (List.mem_filter.mp clusterMem).1)
            rw [sameRest, ← List.findSome?_append, ← List.filter_append, List.singleton_append] }

/-- The rows after pruning are the survivors, with what they inherit. -/
structure Left (written after : ClusterStore) (seenKeys : List StoryKey) : Prop where
  rows : after.clusters.rows = written.survivors seenKeys
  items : ∀ cluster ∈ written.survivors seenKeys,
    after.itemsOf cluster.id = written.itemsOf cluster.id
  notified : ∀ userId, ∀ cluster ∈ written.survivors seenKeys,
    (after.Notified userId cluster ↔ written.Notified userId cluster)
  acks : ∀ userId, ∀ cluster ∈ written.survivors seenKeys,
    ackFor after.acks userId cluster.id = written.inherited seenKeys userId cluster

theorem pruneStaleClusters_spec (written : ClusterStore) (seenKeys : List StoryKey) :
    Left written (written.pruneStaleClusters seenKeys) seenKeys := by
  have apart (cluster : RelevanceCluster) (survives : cluster ∈ written.survivors seenKeys) :
      cluster.id ∉ (written.stale seenKeys).map (·.id) := by
    intro isStale
    obtain ⟨gone, goneMem, same⟩ := List.mem_map.mp isStale
    obtain ⟨goneMem, unseen⟩ := List.mem_filter.mp goneMem
    obtain ⟨clusterMem, seen⟩ := List.mem_filter.mp survives
    rw [written.clusters.eq_of_key_eq goneMem clusterMem same] at unseen
    exact of_decide_eq_true unseen (of_decide_eq_true seen)
  have nodup : ((written.stale seenKeys).map (·.id)).Nodup :=
    (List.filter_sublist.map _).nodup written.clusters.nodup
  have pruned := foldl_pruneCluster (written.survivors seenKeys)
    (written.stale seenKeys) written nodup apart
  exact
    { rows := by
        refine pruned.rows.trans (List.filter_congr fun cluster clusterMem => ?_)
        rw [decide_eq_decide]
        constructor
        · intro notStale
          by_contra unseen
          exact notStale (List.mem_map_of_mem
            (List.mem_filter.mpr ⟨clusterMem, decide_eq_true unseen⟩))
        · intro seen
          exact apart cluster (List.mem_filter.mpr ⟨clusterMem, decide_eq_true seen⟩)
      items := fun cluster survives => pruned.items cluster.id (apart cluster survives)
      notified := fun userId cluster survives =>
        pruned.logs ⟨userId, cluster.id, cluster.eventType⟩ (apart cluster survives)
      acks := fun userId cluster survives =>
        pruned.acks userId cluster.id (apart cluster survives) }

/-! ## Writing stories -/

/-- Every cluster has an observation. -/
def Full (store : ClusterStore) : Prop :=
  ∀ cluster ∈ store.clusters.rows, store.itemsOf cluster.id ≠ []

/-- Every cluster keeps its observations, and the named ones are attached to theirs. -/
theorem mem_syncClusterItems (tenantId clusterId : Uuid) (itemIds : List Uuid) :
    (∀ edge ∈ store.clusterItems, edge ∈ store.syncClusterItems tenantId clusterId itemIds) ∧
      ∀ itemId ∈ itemIds, ∃ edge ∈ store.syncClusterItems tenantId clusterId itemIds,
        edge.clusterId = clusterId ∧ edge.itemId = itemId := by
  rw [syncClusterItems]
  constructor
  · intro edge edgeMem
    exact List.mem_append_left _ edgeMem
  · intro itemId named
    by_cases attached :
        itemId ∈ (store.clusterItems.filter (·.clusterId = clusterId)).map (·.itemId)
    · obtain ⟨edge, edgeMem, isItem⟩ := List.mem_map.mp attached
      obtain ⟨edgeMem, isCluster⟩ := List.mem_filter.mp edgeMem
      exact ⟨edge, List.mem_append_left _ edgeMem, of_decide_eq_true isCluster, isItem⟩
    · obtain ⟨position, isPosition⟩ := List.mem_iff_getElem?.mp named
      have positioned := List.mk_mem_zipIdx_iff_getElem?.mpr isPosition
      refine ⟨_, List.mem_append_right _ (List.mem_map.mpr ⟨(itemId, position),
        List.mem_filter.mpr ⟨positioned, decide_eq_true attached⟩, rfl⟩), rfl, rfl⟩

theorem itemsOf_ne_nil_iff {clusterId : Uuid} :
    store.itemsOf clusterId ≠ [] ↔ ∃ edge ∈ store.clusterItems, edge.clusterId = clusterId := by
  rw [itemsOf, ne_eq, List.map_eq_nil_iff, List.filter_eq_nil_iff]
  simp

/-- Writing a story leaves the acks and the log alone and no cluster empty. -/
theorem upsertCluster_spec (score : ClusterScore) (tenantId : Uuid) {story : Story}
    (filled : story.itemIds ≠ []) (full : store.Full) :
    (store.upsertCluster score tenantId story).Full ∧
      (store.upsertCluster score tenantId story).acks = store.acks ∧
      (store.upsertCluster score tenantId story).notificationLogs = store.notificationLogs := by
  obtain ⟨itemId, named⟩ := List.exists_mem_of_ne_nil _ filled
  rw [upsertCluster]
  cases isCluster : store.clusterOf story.key with
  | some cluster =>
      refine ⟨?_, rfl, rfl⟩
      intro row rowMem
      obtain ⟨keeps, attached⟩ :=
        store.mem_syncClusterItems tenantId cluster.id story.itemIds
      apply itemsOf_ne_nil_iff.mpr
      obtain rfl | old := Table.mem_save rowMem
      · obtain ⟨edge, edgeMem, isOf, _⟩ := attached itemId named
        exact ⟨edge, edgeMem, isOf⟩
      · obtain ⟨edge, edgeMem, isOf⟩ := itemsOf_ne_nil_iff.mp (full row old)
        exact ⟨edge, keeps edge edgeMem, isOf⟩
  | none =>
      refine ⟨?_, rfl, rfl⟩
      intro row rowMem
      obtain ⟨keeps, attached⟩ :=
        store.mem_syncClusterItems tenantId store.clusters.next story.itemIds
      apply itemsOf_ne_nil_iff.mpr
      obtain old | new := List.mem_append.mp rowMem
      · obtain ⟨edge, edgeMem, isOf⟩ := itemsOf_ne_nil_iff.mp (full row old)
        exact ⟨edge, keeps edge edgeMem, isOf⟩
      · cases List.mem_singleton.mp new
        obtain ⟨edge, edgeMem, isOf, _⟩ := attached itemId named
        exact ⟨edge, edgeMem, isOf⟩

theorem writeStories_spec (score : ClusterScore) (tenantId : Uuid) (stories : List Story) :
    ∀ {store : ClusterStore}, (∀ story ∈ stories, story.itemIds ≠ []) → store.Full →
      (store.writeStories score tenantId stories).Full ∧
        (store.writeStories score tenantId stories).acks = store.acks ∧
        (store.writeStories score tenantId stories).notificationLogs = store.notificationLogs := by
  induction stories with
  | nil => exact fun _ full => ⟨full, rfl, rfl⟩
  | cons story rest ih =>
      intro store filled full
      obtain ⟨firstFull, acks, logs⟩ :=
        store.upsertCluster_spec score tenantId (filled story List.mem_cons_self) full
      obtain ⟨restFull, restAcks, restLogs⟩ := ih
        (fun other otherMem => filled other (List.mem_cons_of_mem _ otherMem)) firstFull
      exact ⟨restFull, restAcks.trans acks, restLogs.trans logs⟩

end ClusterStore

/-! ## Calls keep the stories -/

/-- A cluster of the event type of a notification that shares an observation with it. -/
def Concerns (store : ClusterStore) (notification : Notification) (cluster : RelevanceCluster) :
    Prop :=
  cluster.eventType = notification.eventType ∧
    ∃ itemId ∈ notification.itemIds, itemId ∈ store.itemsOf cluster.id

/-- What the calls keep: no cluster is empty, and of every cluster that a notification concerns
its user was notified. -/
structure Sound (history : History) : Prop where
  full : history.store.Full
  noticed : ∀ notification ∈ history.sent, ∀ cluster ∈ history.store.clusters.rows,
    Concerns history.store notification cluster →
      history.store.Notified notification.userId cluster

theorem empty_sound : Sound .empty :=
  ⟨List.forall_mem_nil _, List.forall_mem_nil _⟩

theorem empty_follows : Follows .empty :=
  ⟨fun _ _ none => (nomatch none), fun _ => List.forall_mem_nil _, List.Pairwise.nil⟩

theorem buildFeed_keeps {history : History} (sound : Sound history) (follows : Follows history)
    (tenantId : Uuid) (score : ClusterScore) (entries : List Entry)
    (keeps : Keeps tenantId history (.buildFeed score entries)) :
    Sound (step tenantId history (.buildFeed score entries)) ∧
      Follows (step tenantId history (.buildFeed score entries)) := by
  have left := ClusterStore.pruneStaleClusters_spec
    (history.store.writeStories score tenantId (storiesOf entries))
    ((storiesOf entries).map Story.key)
  obtain ⟨full, _⟩ := ClusterStore.writeStories_spec score tenantId (storiesOf entries)
    (fun story => itemIds_ne_nil) sound.full
  rw [Keeps] at keeps
  rw [step]
  generalize history.store.writeStories score tenantId (storiesOf entries) = written
    at left full keeps ⊢
  generalize (storiesOf entries).map Story.key = seenKeys at left keeps ⊢
  generalize written.pruneStaleClusters seenKeys = pruned at left ⊢
  constructor
  · exact
      { full := by
          intro cluster clusterMem
          rw [left.rows] at clusterMem
          rw [left.items cluster clusterMem]
          exact full cluster (List.mem_filter.mp clusterMem).1
        noticed := by
          intro notification sent cluster clusterMem ⟨sameType, itemId, itemMem, holds⟩
          rw [left.rows] at clusterMem
          rw [left.items cluster clusterMem] at holds
          rw [left.notified _ cluster clusterMem]
          exact keeps.notified notification sent cluster clusterMem sameType
            ⟨itemId, itemMem, holds⟩ }
  · exact
      { stays := by
          intro userId itemId inForce cluster clusterMem holds
          rw [left.rows] at clusterMem
          rw [left.items cluster clusterMem] at holds
          rw [left.acks userId cluster clusterMem]
          refine keeps.kept userId itemId ?_ cluster clusterMem holds
          apply (List.mem_append.mp inForce).imp_right
          intro covered
          obtain ⟨other, otherMem, isAck, otherHolds⟩ := ClusterStore.mem_covered.mp covered
          rw [left.rows] at otherMem
          rw [left.acks userId other otherMem] at isAck
          rw [left.items other otherMem] at otherHolds
          exact ⟨other, otherMem, otherHolds, isAck⟩
        earned := by
          intro userId cluster clusterMem isAck
          rw [left.rows] at clusterMem
          rw [left.acks userId cluster clusterMem] at isAck
          obtain ⟨itemId, holds, earned⟩ := keeps.earned userId cluster clusterMem isAck
          rw [left.items cluster clusterMem]
          exact ⟨itemId, holds, List.mem_append.mpr earned⟩
        once := follows.once }

theorem setAck_keeps {history : History} (sound : Sound history) (follows : Follows history)
    (tenantId userId clusterId : Uuid) (acknowledged : Bool)
    (keeps : Keeps tenantId history (.setAck userId clusterId acknowledged)) :
    Sound (step tenantId history (.setAck userId clusterId acknowledged)) ∧
      Follows (step tenantId history (.setAck userId clusterId acknowledged)) := by
  rw [step]
  cases isDone : history.store.setAck tenantId userId clusterId acknowledged with
  | mk after done =>
      cases done with
      | false => exact ⟨sound, follows⟩
      | true =>
          simp only [Bool.true_eq_false, if_false]
          obtain ⟨⟨named, namedMem, isNamed⟩, clusters, clusterItems, logs⟩ := setAck_spec isDone
          have acks := ackFor_setAck isDone
          have items (cluster : Uuid) : after.itemsOf cluster = history.store.itemsOf cluster := by
            rw [ClusterStore.itemsOf, ClusterStore.itemsOf, clusterItems]
          have isSound (inForce marks : List (Uuid × Uuid)) :
              Sound { history with store := after, inForce, acknowledged := marks } :=
            { full := by
                intro cluster clusterMem
                rw [clusters] at clusterMem
                rw [items]
                exact sound.full cluster clusterMem
              noticed := by
                intro notification sent cluster clusterMem ⟨sameType, itemId, itemMem, holds⟩
                rw [clusters] at clusterMem
                rw [items] at holds
                rw [ClusterStore.Notified, logs]
                exact sound.noticed notification sent cluster clusterMem
                  ⟨sameType, itemId, itemMem, holds⟩ }
          cases acknowledged with
          | true =>
              simp only [if_true]
              refine ⟨isSound _ _, ?_⟩
              exact
                { stays := by
                    intro user itemId inForce cluster clusterMem holds
                    rw [clusters] at clusterMem
                    rw [items] at holds
                    rw [acks]
                    split
                    · rfl
                    · next other =>
                        obtain old | isNew := List.mem_append.mp inForce
                        · exact follows.stays user itemId old cluster clusterMem holds
                        · obtain ⟨_, itemMem, same⟩ := List.mem_map.mp isNew
                          cases same
                          have ne : cluster.id ≠ clusterId := fun same => other ⟨rfl, same⟩
                          exact keeps rfl cluster clusterMem ne ⟨itemId, itemMem, holds⟩
                  earned := by
                    intro user cluster clusterMem isAck
                    rw [clusters] at clusterMem
                    rw [acks] at isAck
                    rw [items]
                    split at isAck
                    · next isOf =>
                        obtain ⟨itemId, itemMem⟩ :=
                          List.exists_mem_of_ne_nil _ (sound.full cluster clusterMem)
                        refine ⟨itemId, itemMem, List.mem_append_right _ (List.mem_map.mpr ?_)⟩
                        rw [isOf.2] at itemMem
                        rw [isOf.1]
                        exact ⟨itemId, itemMem, rfl⟩
                    · obtain ⟨itemId, itemMem, earned⟩ :=
                        follows.earned user cluster clusterMem isAck
                      exact ⟨itemId, itemMem, List.mem_append_left _ earned⟩
                  once := follows.once }
          | false =>
              simp only [Bool.false_eq_true, if_false]
              refine ⟨isSound _ _, ?_⟩
              exact
                { stays := by
                    intro user itemId inForce cluster clusterMem holds
                    obtain ⟨inForce, uncleared⟩ := List.mem_filter.mp inForce
                    rw [Bool.not_eq_true', ← Bool.not_eq_true, List.contains_iff_mem] at uncleared
                    rw [clusters] at clusterMem
                    rw [items] at holds
                    rw [acks]
                    split
                    · next isOf =>
                        rw [isOf.2] at holds
                        refine absurd (List.mem_map.mpr ?_) uncleared
                        rw [isOf.1]
                        exact ⟨itemId, holds, rfl⟩
                    · exact follows.stays user itemId inForce cluster clusterMem holds
                  earned := by
                    intro user cluster clusterMem isAck
                    rw [clusters] at clusterMem
                    rw [acks] at isAck
                    rw [items]
                    split at isAck
                    · cases isAck
                    · exact follows.earned user cluster clusterMem isAck
                  once := follows.once }

/-! ### Sweeps -/

/-- A notification leaves the clusters and their observations alone and only adds to the log. -/
theorem notifyEligible_frame (history : History) (preference : Preference)
    (touches : Uuid → RelevanceCluster → Bool) (cluster : RelevanceCluster) :
    (history.notifyEligible preference touches cluster).store.clusters = history.store.clusters ∧
      (∀ clusterId, (history.notifyEligible preference touches cluster).store.itemsOf clusterId =
        history.store.itemsOf clusterId) ∧
      ∀ log ∈ history.store.notificationLogs,
        log ∈ (history.notifyEligible preference touches cluster).store.notificationLogs := by
  rw [History.notifyEligible]
  simp only
  split
  · exact ⟨rfl, fun _ => rfl, fun _ => List.mem_append_left _⟩
  · exact ⟨rfl, fun _ => rfl, fun _ logged => logged⟩

theorem Alone.notifyEligible {history : History} {userId : Uuid} {cluster : RelevanceCluster}
    (alone : Alone history.store userId cluster) (preference : Preference)
    (touches : Uuid → RelevanceCluster → Bool) (notified : RelevanceCluster) :
    Alone (history.notifyEligible preference touches notified).store userId cluster := by
  obtain ⟨clusters, items, logs⟩ := notifyEligible_frame history preference touches notified
  apply alone.imp (logs _)
  intro others other otherMem ne sameType ⟨itemId, itemMem, shared⟩
  rw [clusters] at otherMem
  rw [items] at itemMem shared
  exact logs _ (others other otherMem ne sameType ⟨itemId, itemMem, shared⟩)

/-- One notification. -/
theorem notifyEligible_keeps {history : History} (sound : Sound history)
    (follows : Follows history) (preference : Preference)
    (touches : Uuid → RelevanceCluster → Bool) {cluster : RelevanceCluster}
    (clusterMem : cluster ∈ history.store.clusters.rows)
    (alone : Alone history.store preference.userId cluster) :
    Sound (history.notifyEligible preference touches cluster) ∧
      Follows (history.notifyEligible preference touches cluster) := by
  rw [History.notifyEligible]
  simp only
  split
  · next sends =>
      have unlogged : ¬ history.store.Notified preference.userId cluster := by
        intro notified
        rw [Bool.and_eq_true] at sends
        exact of_decide_eq_true sends.2 notified
      have others := alone.resolve_left unlogged
      refine ⟨⟨sound.full, ?_⟩, follows.stays, follows.earned, ?_⟩
      · intro notification isSent other otherMem ⟨sameType, itemId, itemMem, holds⟩
        obtain old | isNew := List.mem_append.mp isSent
        · exact List.mem_append_left _ (sound.noticed notification old other otherMem
            ⟨sameType, itemId, itemMem, holds⟩)
        · cases List.mem_singleton.mp isNew
          by_cases same : other.id = cluster.id
          · rw [history.store.clusters.eq_of_key_eq otherMem clusterMem same]
            exact List.mem_append_right _ List.mem_cons_self
          · exact List.mem_append_left _
              (others other otherMem same sameType ⟨itemId, itemMem, holds⟩)
      · rw [List.pairwise_append]
        refine ⟨follows.once, List.pairwise_singleton _ _, ?_⟩
        intro first firstMem second secondMem sameUser sameType itemId itemMem holds
        cases List.mem_singleton.mp secondMem
        apply unlogged
        rw [← show first.userId = preference.userId from sameUser]
        exact sound.noticed first firstMem cluster clusterMem
          ⟨sameType.symm, itemId, itemMem, holds⟩
  · exact ⟨sound, follows⟩

theorem foldl_notifyEligible_keeps (touches : Uuid → RelevanceCluster → Bool)
    (notices : List (Preference × RelevanceCluster)) :
    ∀ {history : History}, Sound history → Follows history →
      (∀ notice ∈ notices, notice.2 ∈ history.store.clusters.rows ∧
        (notice.1.allows touches notice.2 → Alone history.store notice.1.userId notice.2)) →
      let last := notices.foldl (fun history notice =>
        if notice.1.allows touches notice.2 then
          history.notifyEligible notice.1 touches notice.2
        else history) history
      Sound last ∧ Follows last := by
  induction notices with
  | nil => exact fun sound follows _ => ⟨sound, follows⟩
  | cons notice rest ih =>
      intro history sound follows keeps
      obtain ⟨clusterMem, alone⟩ := keeps notice List.mem_cons_self
      rw [List.foldl_cons]
      split
      · next allowed =>
          obtain ⟨nextSound, nextFollows⟩ := notifyEligible_keeps sound follows notice.1 touches
            clusterMem (alone allowed)
          refine ih nextSound nextFollows fun other otherMem => ?_
          obtain ⟨otherCluster, otherAlone⟩ := keeps other (List.mem_cons_of_mem _ otherMem)
          rw [(notifyEligible_frame history notice.1 touches notice.2).1]
          exact ⟨otherCluster, fun isAllowed => (otherAlone isAllowed).notifyEligible _ _ _⟩
      · exact ih sound follows fun other otherMem =>
          keeps other (List.mem_cons_of_mem _ otherMem)

theorem mem_targets {history : History} {clusterIds : Option (List Uuid)}
    {cluster : RelevanceCluster} (target : cluster ∈ history.targets clusterIds) :
    cluster ∈ history.store.clusters.rows := by
  cases clusterIds with
  | none => exact target
  | some clusterIds =>
      obtain ⟨_, _, found⟩ := List.mem_filterMap.mp target
      exact List.mem_of_find?_eq_some found

/-- One call. -/
theorem step_keeps (tenantId : Uuid) {history : History} (sound : Sound history)
    (follows : Follows history) (call : Call) (keeps : Keeps tenantId history call) :
    Sound (step tenantId history call) ∧ Follows (step tenantId history call) := by
  cases call with
  | buildFeed score entries => exact buildFeed_keeps sound follows tenantId score entries keeps
  | setAck userId clusterId acknowledged =>
      exact setAck_keeps sound follows tenantId userId clusterId acknowledged keeps
  | dispatch preferences clusterIds touches =>
      apply foldl_notifyEligible_keeps touches _ sound follows
      intro notice noticeMem
      obtain ⟨preference, preferenceMem, isNotice⟩ := List.mem_flatMap.mp noticeMem
      obtain ⟨cluster, target, rfl⟩ := List.mem_map.mp isNotice
      obtain ⟨preferenceMem, enabled⟩ := List.mem_filter.mp preferenceMem
      exact ⟨mem_targets target, keeps preference preferenceMem enabled cluster target⟩

/-- A match with a title on a day, for the security 5. -/
def sampleEntry (itemId : Uuid) (title : String) (day : Int) : Entry where
  row :=
    { tenantId := 1, itemId, securityId := some 5, accountId := none
      matchReason := "exact_security", confidence := 1, holdingStatus := "current"
      holdingWeight := none, eventDate := some ⟨Instant.days day, 0⟩ }
  item := sampleItem itemId title
  eventType := "news"
  fingerprint := title

/-- A user acknowledges a story and is notified. -/
def firstCalls : List Call :=
  [.buildFeed (fun _ _ => 0) [sampleEntry 1 "alpha" 0], .setAck 7 0 true,
    .dispatch [{ userId := 7, enabled := true }] none fun _ _ => false]

/-- Without acks there is nothing to inherit. -/
theorem inherited_of_nil {written : ClusterStore} (nothing : written.acks = [])
    (seenKeys : List StoryKey) (userId : Uuid) (survivor : RelevanceCluster) :
    written.inherited seenKeys userId survivor = none := by
  simp [ClusterStore.inherited, nothing, ackFor, List.findSome?_eq_none_iff]

/-- Two stories on neighbouring days, and a third observation that repeats the first title. -/
def regroupingCalls : List Call :=
  [.buildFeed (fun _ _ => 0) [sampleEntry 1 "alpha" 0, sampleEntry 2 "beta" 1], .setAck 7 0 true,
    .buildFeed (fun _ _ => 0)
      [sampleEntry 1 "alpha" 0, sampleEntry 2 "beta" 1, sampleEntry 3 "alpha" 2]]

end FinanceSync.Relevance
