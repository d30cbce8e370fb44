import Mathlib.Data.Finset.BooleanAlgebra
import Mathlib.Data.Fintype.Card
import Mathlib.Data.List.Sort
import Mathlib.Data.Finset.Card
import Mathlib.Logic.Relation

/-!
# Clusters of a density search

Points have neighbours, and the dense ones are cores.  A search goes through the points in
some order and collects from every core that it has not visited the points that are reached
over cores.  A collection that is too small is dropped.

The collections partition the cores, whatever the order, exactly if every group of cores
has enough points that no other group reaches.
-/

namespace Lib.Density

open Relation

/-! ## Collecting -/

section Collecting

variable {Point : Type} [DecidableEq Point]

/-- Visit the points on a stack and then those that they lead to, and collect what has not
been visited before. -/
def collect [Fintype Point] (next : Point → List Point) (visited : Finset Point) :
    List Point → Finset Point × List Point
  | [] => (visited, [])
  | point :: stack =>
      if point ∈ visited then collect next visited stack
      else
        let visited' := insert point visited
        let result := collect next visited'
          (((next point).filter (· ∉ visited')).reverse ++ stack)
        (result.1, point :: result.2)
termination_by stack => (visitedᶜ.card, stack.length)
decreasing_by
  · exact Prod.Lex.right _ (Nat.lt_succ_self _)
  · apply Prod.Lex.left
    apply Finset.card_lt_card
    rw [Finset.compl_ssubset_compl]
    exact Finset.ssubset_insert ‹_›

/-- What collecting from a stack returns: all visited points, and the new ones once each. -/
structure Collects (next : Point → List Point) (visited : Finset Point) (stack : List Point)
    (result : Finset Point × List Point) : Prop where
  nodup : result.2.Nodup
  all : ∀ {point}, point ∈ result.1 ↔ point ∈ visited ∨ point ∈ result.2
  fresh : ∀ {point}, point ∈ result.2 → point ∉ visited
  started : ∀ {point}, point ∈ stack → point ∈ result.1
  closed : ∀ {point}, point ∈ result.2 → ∀ other ∈ next point, other ∈ result.1
  reached : ∀ {point}, point ∈ result.2 →
    ∃ start ∈ stack, ReflTransGen (fun one other => other ∈ next one) start point

theorem collects [Fintype Point] (next : Point → List Point) (visited : Finset Point)
    (stack : List Point) : Collects next visited stack (collect next visited stack) := by
  induction visited, stack using collect.induct next with
  | case1 visited =>
      rw [collect]
      constructor <;> simp
  | case2 visited point stack seen ih =>
      rw [collect, if_pos seen]
      refine { ih with started := ?_, reached := ?_ }
      · intro other isMem
        rcases List.mem_cons.mp isMem with rfl | inStack
        · exact ih.all.mpr (.inl seen)
        · exact ih.started inStack
      · intro other isMem
        rcases ih.reached isMem with ⟨start, inStack, path⟩
        exact ⟨start, List.mem_cons_of_mem _ inStack, path⟩
  | case3 visited point stack unseen visited' ih =>
      rw [collect, if_neg unseen]
      have isVisited : point ∈ visited' := Finset.mem_insert_self _ _
      constructor
      · apply List.nodup_cons.mpr
        exact ⟨fun again => ih.fresh again isVisited, ih.nodup⟩
      · intro other
        rw [ih.all, Finset.mem_insert, List.mem_cons, or_assoc, or_left_comm]
      · intro other isMem
        rcases List.mem_cons.mp isMem with rfl | later
        · exact unseen
        · exact fun seen => ih.fresh later (Finset.mem_insert_of_mem seen)
      · intro other isMem
        rcases List.mem_cons.mp isMem with rfl | inStack
        · exact ih.all.mpr (.inl isVisited)
        · exact ih.started (List.mem_append_right _ inStack)
      · intro one isMem other leads
        rcases List.mem_cons.mp isMem with rfl | later
        · by_cases seen : other ∈ visited'
          · exact ih.all.mpr (.inl seen)
          · apply ih.started
            simp [leads, seen]
        · exact ih.closed later other leads
      · intro other isMem
        rcases List.mem_cons.mp isMem with rfl | later
        · exact ⟨other, List.mem_cons_self, .refl⟩
        · rcases ih.reached later with ⟨start, inStack, path⟩
          rcases List.mem_append.mp inStack with inNext | inStack
          · have leads : start ∈ next point := by
              rw [List.mem_reverse] at inNext
              exact List.mem_of_mem_filter inNext
            exact ⟨point, List.mem_cons_self, .head leads path⟩
          · exact ⟨start, List.mem_cons_of_mem _ inStack, path⟩

end Collecting

/-! ## Cores and their groups -/

/-- Points with neighbours, of which some are cores. -/
structure DensityGraph (Point : Type) where
  neighbours : Point → List Point
  isCore : Point → Bool
  symmetric : ∀ {one other}, other ∈ neighbours one → one ∈ neighbours other

namespace DensityGraph

section Groups

variable {Point : Type} (graph : DensityGraph Point)

/-- Neighbouring cores. -/
def Linked (one other : Point) : Prop :=
  graph.isCore one ∧ graph.isCore other ∧ other ∈ graph.neighbours one

/-- Cores of one group. -/
def Connected : Point → Point → Prop := ReflTransGen graph.Linked

/-- The point is this core or a neighbour of it. -/
def Touches (core point : Point) : Prop := point = core ∨ point ∈ graph.neighbours core

/-- A core of the group touches the point. -/
def Reaches (core point : Point) : Prop :=
  ∃ other, graph.Connected core other ∧ graph.Touches other point

/-- The group reaches the point and no other group does. -/
def ReachesAlone (core point : Point) : Prop :=
  graph.Reaches core point ∧
    ∀ other, graph.isCore other → graph.Touches other point → graph.Connected core other

/-- Enough points are reached by the group alone. -/
def Dense (minPts : Nat) (core : Point) : Prop :=
  ∃ own : Finset Point, minPts ≤ own.card ∧ ∀ point ∈ own, graph.ReachesAlone core point

/-- The points that a point leads to. -/
def leadsTo (point : Point) : List Point :=
  if graph.isCore point then graph.neighbours point else []

variable {graph}

theorem Linked.symm {one other : Point} (linked : graph.Linked one other) :
    graph.Linked other one :=
  ⟨linked.2.1, linked.1, graph.symmetric linked.2.2⟩

theorem Connected.symm {one other : Point} (connected : graph.Connected one other) :
    graph.Connected other one := by
  induction connected with
  | refl => exact .refl
  | tail _ linked ih => exact .head linked.symm ih

theorem Connected.isCore {one other : Point} (connected : graph.Connected one other)
    (isCore : graph.isCore one) : graph.isCore other := by
  induction connected with
  | refl => exact isCore
  | tail _ linked _ => exact linked.2.1

theorem connected_of_touches {core other : Point} (isCore : graph.isCore core)
    (otherCore : graph.isCore other) (touches : graph.Touches core other) :
    graph.Connected core other := by
  rcases touches with rfl | near
  · exact .refl
  · exact .single ⟨isCore, otherCore, near⟩

/-- A core that a group reaches belongs to it. -/
theorem Reaches.connected {core other : Point} (reaches : graph.Reaches core other)
    (isCore : graph.isCore core) (otherCore : graph.isCore other) :
    graph.Connected core other := by
  rcases reaches with ⟨between, connected, touches⟩
  exact connected.trans (connected_of_touches (connected.isCore isCore) otherCore touches)

theorem Connected.reaches {core other point : Point} (connected : graph.Connected core other)
    (reaches : graph.Reaches other point) : graph.Reaches core point := by
  rcases reaches with ⟨between, later, touches⟩
  exact ⟨between, connected.trans later, touches⟩

theorem reaches_self (core : Point) : graph.Reaches core core := ⟨core, .refl, .inl rfl⟩

/-- A path over cores stays in reach of the group that it starts from. -/
theorem reaches_of_path {core point : Point} (isCore : graph.isCore core)
    (path : ReflTransGen (fun one other => other ∈ graph.leadsTo one) core point) :
    graph.Reaches core point := by
  induction path with
  | refl => exact reaches_self core
  | @tail one other _ leads ih =>
      unfold leadsTo at leads
      split at leads
      · next oneCore => exact ⟨one, ih.connected isCore oneCore, .inr leads⟩
      · cases leads

/-! ## What has been visited -/

variable (graph)

/-- With a core all of its neighbours have been visited. -/
def Closed (visited : Finset Point) : Prop :=
  ∀ core ∈ visited, graph.isCore core → ∀ other ∈ graph.neighbours core, other ∈ visited

/-- Only cores and neighbours of cores have been visited, and these cores as well. -/
def Explored (visited : Finset Point) : Prop :=
  ∀ point ∈ visited, ∃ core ∈ visited, graph.isCore core ∧ graph.Touches core point

variable {graph}

theorem Closed.not_mem_of_connected {visited : Finset Point} (closed : graph.Closed visited)
    {core other : Point} (unseen : core ∉ visited) (connected : graph.Connected core other) :
    other ∉ visited := by
  induction connected with
  | refl => exact unseen
  | tail _ linked ih =>
      intro seen
      exact ih (closed _ seen linked.2.1 _ linked.symm.2.2)

/-- What has been visited without the group is not reached by it alone. -/
theorem Explored.not_reachesAlone {visited : Finset Point} (explored : graph.Explored visited)
    (closed : graph.Closed visited) {core : Point} (unseen : core ∉ visited) {point : Point}
    (alone : graph.ReachesAlone core point) : point ∉ visited := by
  intro seen
  rcases explored point seen with ⟨other, otherSeen, otherCore, touches⟩
  have connected := alone.2 other otherCore touches
  exact closed.not_mem_of_connected unseen connected otherSeen

theorem closed_empty : graph.Closed ∅ := fun _ seen => absurd seen (Finset.notMem_empty _)

theorem explored_empty : graph.Explored ∅ := fun _ seen => absurd seen (Finset.notMem_empty _)

/-! ## What a search finds -/

/-- Collecting from a core adds what its group reaches. -/
structure CollectsGroup (graph : DensityGraph Point) (visited : Finset Point) (core : Point)
    (result : Finset Point × List Point) : Prop where
  nodup : result.2.Nodup
  mem : ∀ {point}, point ∈ result.2 ↔ graph.Reaches core point ∧ point ∉ visited
  all : ∀ {point}, point ∈ result.1 ↔ point ∈ visited ∨ graph.Reaches core point
  closed : graph.Closed result.1

theorem CollectsGroup.explored {visited : Finset Point} {core : Point}
    {result : Finset Point × List Point} (collected : CollectsGroup graph visited core result)
    (isCore : graph.isCore core) (explored : graph.Explored visited) :
    graph.Explored result.1 := by
  intro point visitedNow
  rcases collected.all.mp visitedNow with seen | ⟨other, connected, touches⟩
  · rcases explored point seen with ⟨other, otherSeen, otherCore, touches⟩
    exact ⟨other, collected.all.mpr (.inl otherSeen), otherCore, touches⟩
  · refine ⟨other, collected.all.mpr (.inr ⟨other, connected, .inl rfl⟩), ?_, touches⟩
    exact connected.isCore isCore

/-- What the search finds is what a group reaches and earlier ones have left, with the
whole group. -/
structure IsCluster (graph : DensityGraph Point) (minPts : Nat) (visited : Finset Point)
    (core : Point) (cluster : List Point) : Prop where
  isCore : graph.isCore core
  group : ∀ {other}, graph.Connected core other → other ∈ cluster
  reached : ∀ {point}, point ∈ cluster → graph.Reaches core point
  fresh : ∀ {point}, point ∈ cluster → point ∉ visited
  nodup : cluster.Nodup
  large : minPts ≤ cluster.length

/-- The cores of a cluster are one group. -/
theorem IsCluster.mem_core_iff {minPts : Nat} {visited : Finset Point} {core : Point}
    {cluster : List Point} (isCluster : IsCluster graph minPts visited core cluster)
    {point : Point} :
    point ∈ cluster ∧ graph.isCore point ↔ graph.Connected core point := by
  constructor
  · intro ⟨isMem, pointCore⟩
    exact (isCluster.reached isMem).connected isCluster.isCore pointCore
  · intro connected
    exact ⟨isCluster.group connected, connected.isCore isCluster.isCore⟩

variable (graph)

/-- Lists of points partition the cores. -/
structure Partitions (found : List (List Point)) : Prop where
  disjoint : found.Pairwise List.Disjoint
  covers : ∀ core, graph.isCore core → ∃ cluster ∈ found, core ∈ cluster
  together : ∀ {one other}, graph.Linked one other → ∀ cluster ∈ found,
    one ∈ cluster → other ∈ cluster
  members : ∀ cluster ∈ found, ∀ point ∈ cluster,
    graph.isCore point ∨ ∃ core ∈ cluster, graph.isCore core ∧ point ∈ graph.neighbours core

/-- The cores of each of the lists. -/
def coreParts (found : List (List Point)) : Set (Set Point) :=
  {part | ∃ cluster ∈ found, part = {point | point ∈ cluster ∧ graph.isCore point}}

/-! ## The same graph under other names -/

section Renaming

variable {Name : Type} {names : DensityGraph Name}
  (rename : Name ≃ Point)

/-- Renaming keeps cores and neighbours. -/
structure SameGraph (names : DensityGraph Name) (graph : DensityGraph Point)
    (rename : Name ≃ Point) : Prop where
  isCore : ∀ name, graph.isCore (rename name) = names.isCore name
  near : ∀ one other, rename other ∈ graph.neighbours (rename one) ↔ other ∈ names.neighbours one

variable {graph} {rename}

theorem SameGraph.symm (sameGraph : SameGraph names graph rename) :
    SameGraph graph names rename.symm where
  isCore point := by rw [← sameGraph.isCore, rename.apply_symm_apply]
  near one other := by rw [← sameGraph.near, rename.apply_symm_apply, rename.apply_symm_apply]

theorem SameGraph.connected (sameGraph : SameGraph names graph rename) {one other : Name}
    (connected : names.Connected one other) : graph.Connected (rename one) (rename other) := by
  refine ReflTransGen.lift rename ?_ _ _ connected
  intro one other linked
  refine ⟨?_, ?_, (sameGraph.near one other).mpr linked.2.2⟩
  · rw [sameGraph.isCore]
    exact linked.1
  · rw [sameGraph.isCore]
    exact linked.2.1

theorem SameGraph.connected_iff (sameGraph : SameGraph names graph rename) {one other : Name} :
    graph.Connected (rename one) (rename other) ↔ names.Connected one other := by
  constructor
  · intro connected
    simpa using sameGraph.symm.connected connected
  · exact sameGraph.connected

theorem SameGraph.touches_iff (sameGraph : SameGraph names graph rename) {one other : Name} :
    graph.Touches (rename one) (rename other) ↔ names.Touches one other := by
  unfold Touches
  rw [sameGraph.near, rename.injective.eq_iff]

theorem SameGraph.reachesAlone (sameGraph : SameGraph names graph rename) {core point : Name}
    (alone : names.ReachesAlone core point) :
    graph.ReachesAlone (rename core) (rename point) := by
  rcases alone with ⟨⟨other, connected, touches⟩, only⟩
  constructor
  · exact ⟨rename other, sameGraph.connected connected, sameGraph.touches_iff.mpr touches⟩
  · intro toucher toucherCore touches
    rcases rename.surjective toucher with ⟨name, rfl⟩
    rw [sameGraph.isCore] at toucherCore
    exact sameGraph.connected (only name toucherCore (sameGraph.touches_iff.mp touches))

theorem SameGraph.dense (sameGraph : SameGraph names graph rename) {minPts : Nat} {core : Name}
    (dense : names.Dense minPts core) : graph.Dense minPts (rename core) := by
  rcases dense with ⟨own, enough, alone⟩
  refine ⟨own.map rename.toEmbedding, ?_, ?_⟩
  · rwa [Finset.card_map]
  · intro point isMem
    rcases Finset.mem_map.mp isMem with ⟨name, inOwn, rfl⟩
    exact sameGraph.reachesAlone (alone name inOwn)

theorem SameGraph.image_group (sameGraph : SameGraph names graph rename) (core : Name) :
    rename '' {point | names.Connected core point} =
      {point | graph.Connected (rename core) point} := by
  ext point
  rcases rename.surjective point with ⟨name, rfl⟩
  rw [rename.injective.mem_set_image, Set.mem_ofPred_eq, Set.mem_ofPred_eq,
    sameGraph.connected_iff]

/-- Groups are renamed into groups. -/
theorem SameGraph.image_groups (sameGraph : SameGraph names graph rename) :
    (Set.image rename) '' {part | ∃ core, names.isCore core ∧
        part = {point | names.Connected core point}} =
      {part | ∃ core, graph.isCore core ∧ part = {point | graph.Connected core point}} := by
  ext part
  constructor
  · intro ⟨own, ⟨core, isCore, isOwn⟩, isPart⟩
    refine ⟨rename core, (sameGraph.isCore core).trans isCore, ?_⟩
    rw [← isPart, isOwn, sameGraph.image_group]
  · intro ⟨core, isCore, isPart⟩
    rcases rename.surjective core with ⟨name, rfl⟩
    refine ⟨_, ⟨name, (sameGraph.isCore name).symm.trans isCore, rfl⟩, ?_⟩
    rw [isPart, sameGraph.image_group]

end Renaming

end Groups

/-! ## The search -/

variable {Point : Type} [Fintype Point] [LinearOrder Point] (graph : DensityGraph Point)

/-- Collect from every core that has not been visited, and keep what is large enough in
ascending order. -/
def clusters (minPts : Nat) (visited : Finset Point) : List Point → List (List Point)
  | [] => []
  | point :: rest =>
      if point ∈ visited ∨ ¬ graph.isCore point then clusters minPts visited rest
      else
        let (visited, cluster) := collect graph.leadsTo visited [point]
        if minPts ≤ cluster.length then cluster.mergeSort :: clusters minPts visited rest
        else clusters minPts visited rest

variable {graph}

theorem collectsGroup {visited : Finset Point} (closed : graph.Closed visited) {core : Point}
    (isCore : graph.isCore core) (unseen : core ∉ visited) :
    CollectsGroup graph visited core (collect graph.leadsTo visited [core]) := by
  have collected := collects graph.leadsTo visited [core]
  generalize collect graph.leadsTo visited [core] = result at collected
  have neighbours : ∀ {point}, point ∈ result.2 → graph.isCore point →
      ∀ other ∈ graph.neighbours point, other ∈ result.1 := by
    intro point isMem pointCore other near
    apply collected.closed isMem
    rwa [leadsTo, if_pos pointCore]
  have group : ∀ {other}, graph.Connected core other → other ∈ result.2 := by
    intro other connected
    induction connected with
    | refl =>
        have visitedNow := collected.started (List.mem_singleton.mpr rfl)
        exact (collected.all.mp visitedNow).resolve_left unseen
    | tail path linked ih =>
        have visitedNow := neighbours ih linked.1 _ linked.2.2
        have unseenBefore := closed.not_mem_of_connected unseen (path.tail linked)
        exact (collected.all.mp visitedNow).resolve_left unseenBefore
  have reached : ∀ {point}, graph.Reaches core point → point ∈ result.1 := by
    intro point ⟨other, connected, touches⟩
    rcases touches with rfl | near
    · exact collected.all.mpr (.inr (group connected))
    · exact neighbours (group connected) (connected.isCore isCore) _ near
  have mem : ∀ {point}, point ∈ result.2 ↔ graph.Reaches core point ∧ point ∉ visited := by
    intro point
    constructor
    · intro isMem
      rcases collected.reached isMem with ⟨start, isStart, path⟩
      rw [List.mem_singleton.mp isStart] at path
      exact ⟨reaches_of_path isCore path, collected.fresh isMem⟩
    · intro ⟨reaches, unseenBefore⟩
      exact (collected.all.mp (reached reaches)).resolve_left unseenBefore
  refine ⟨collected.nodup, mem, ?_, ?_⟩
  · intro point
    constructor
    · intro visitedNow
      exact (collected.all.mp visitedNow).imp_right fun isMem => (mem.mp isMem).1
    · intro either
      rcases either with seen | reaches
      · exact collected.all.mpr (.inl seen)
      · exact reached reaches
  · intro point visitedNow pointCore other near
    rcases collected.all.mp visitedNow with seen | isMem
    · exact collected.all.mpr (.inl (closed point seen pointCore other near))
    · exact neighbours isMem pointCore other near

theorem exists_of_mem_clusters {minPts : Nat} {order : List Point} {visited : Finset Point}
    (closed : graph.Closed visited) {cluster : List Point}
    (found : cluster ∈ graph.clusters minPts visited order) :
    ∃ core, IsCluster graph minPts visited core cluster := by
  induction order generalizing visited with
  | nil => cases found
  | cons point rest ih =>
      rw [clusters] at found
      split at found
      · exact ih closed found
      · next fresh =>
          rw [not_or, not_not] at fresh
          have collected := collectsGroup closed fresh.2 fresh.1
          have later (found : cluster ∈
              graph.clusters minPts (collect graph.leadsTo visited [point]).1 rest) :
              ∃ core, IsCluster graph minPts visited core cluster := by
            rcases ih collected.closed found with ⟨core, isCluster⟩
            refine ⟨core, { isCluster with fresh := ?_ }⟩
            intro other isMem seen
            exact isCluster.fresh isMem (collected.all.mpr (.inl seen))
          dsimp only at found
          split at found
          · next large =>
              rcases List.mem_cons.mp found with rfl | found
              · refine ⟨point, fresh.2, ?_, ?_, ?_, ?_, ?_⟩
                · intro other connected
                  rw [List.mem_mergeSort, collected.mem]
                  exact ⟨⟨other, connected, .inl rfl⟩,
                    closed.not_mem_of_connected fresh.1 connected⟩
                · intro other isMem
                  exact (collected.mem.mp (List.mem_mergeSort.mp isMem)).1
                · intro other isMem
                  exact (collected.mem.mp (List.mem_mergeSort.mp isMem)).2
                · exact (List.mergeSort_perm _ _).nodup_iff.mpr collected.nodup
                · rwa [List.length_mergeSort]
              · exact later found
          · exact later found

theorem disjoint_clusters {minPts : Nat} {order : List Point} {visited : Finset Point}
    (closed : graph.Closed visited) :
    (graph.clusters minPts visited order).Pairwise List.Disjoint := by
  induction order generalizing visited with
  | nil => exact .nil
  | cons point rest ih =>
      rw [clusters]
      split
      · exact ih closed
      · next fresh =>
          rw [not_or, not_not] at fresh
          have collected := collectsGroup closed fresh.2 fresh.1
          dsimp only
          split
          · refine List.pairwise_cons.mpr ⟨?_, ih collected.closed⟩
            intro cluster found other inFirst inLater
            rcases exists_of_mem_clusters collected.closed found with ⟨_, isCluster⟩
            apply isCluster.fresh inLater
            exact collected.all.mpr (.inr (collected.mem.mp (List.mem_mergeSort.mp inFirst)).1)
          · exact ih collected.closed

/-! ## Dense groups are found -/

theorem mem_cluster_of_dense {minPts : Nat}
    (dense : ∀ core, graph.isCore core → graph.Dense minPts core) {order : List Point}
    {visited : Finset Point} (closed : graph.Closed visited) (explored : graph.Explored visited)
    {core : Point} (isCore : graph.isCore core) (inOrder : core ∈ order)
    (unseen : core ∉ visited) :
    ∃ cluster ∈ graph.clusters minPts visited order, core ∈ cluster := by
  induction order generalizing visited with
  | nil => cases inOrder
  | cons point rest ih =>
      rw [clusters]
      split
      · next skipped =>
          rcases List.mem_cons.mp inOrder with rfl | inRest
          · exact (skipped.resolve_left unseen (by simpa using isCore)).elim
          · exact ih closed explored inRest unseen
      · next fresh =>
          rw [not_or, not_not] at fresh
          have collected := collectsGroup closed fresh.2 fresh.1
          have large : minPts ≤ (collect graph.leadsTo visited [point]).2.length := by
            rcases dense point fresh.2 with ⟨own, enough, alone⟩
            calc minPts ≤ own.card := enough
              _ ≤ (collect graph.leadsTo visited [point]).2.toFinset.card := by
                  apply Finset.card_le_card
                  intro other isMem
                  rw [List.mem_toFinset, collected.mem]
                  exact ⟨(alone other isMem).1,
                    explored.not_reachesAlone closed fresh.1 (alone other isMem)⟩
              _ ≤ _ := List.toFinset_card_le _
          dsimp only
          rw [if_pos large]
          by_cases reaches : graph.Reaches point core
          · refine ⟨_, List.mem_cons_self, ?_⟩
            rw [List.mem_mergeSort, collected.mem]
            exact ⟨reaches, unseen⟩
          · have unseenStill : core ∉ (collect graph.leadsTo visited [point]).1 := by
              rw [collected.all, not_or]
              exact ⟨unseen, reaches⟩
            have inRest : core ∈ rest := by
              rcases List.mem_cons.mp inOrder with rfl | inRest
              · exact (reaches (reaches_self core)).elim
              · exact inRest
            rcases ih collected.closed
              (collected.explored fresh.2 explored) inRest unseenStill with
              ⟨cluster, found, isMem⟩
            exact ⟨cluster, List.mem_cons_of_mem _ found, isMem⟩

/-! ## A group that is not dense can be lost -/

/-- A group that is not dense is not found where all others come before it. -/
theorem not_mem_cluster_of_last {minPts : Nat} {core : Point} (isCore : graph.isCore core)
    (sparse : ¬ graph.Dense minPts core) {order : List Point} {visited : Finset Point}
    (closed : graph.Closed visited)
    (last : order.Pairwise fun one other => graph.Connected core one → graph.Connected core other)
    (others : ∀ other, graph.isCore other → ¬ graph.Connected core other →
      other ∈ visited ∨ other ∈ order) {cluster : List Point}
    (found : cluster ∈ graph.clusters minPts visited order) : core ∉ cluster := by
  induction order generalizing visited with
  | nil => cases found
  | cons point rest ih =>
      rw [List.pairwise_cons] at last
      rw [clusters] at found
      split at found
      · next skipped =>
          refine ih closed last.2 ?_ found
          intro other otherCore apart
          rcases others other otherCore apart with seen | inOrder
          · exact .inl seen
          · rcases List.mem_cons.mp inOrder with rfl | inRest
            · exact .inl (skipped.resolve_right (by simpa using otherCore))
            · exact .inr inRest
      · next fresh =>
          rw [not_or, not_not] at fresh
          have collected := collectsGroup closed fresh.2 fresh.1
          dsimp only at found
          by_cases own : graph.Connected core point
          · -- Only the group itself is left, and it has too few points.
            have alone : ∀ other ∈ (collect graph.leadsTo visited [point]).2,
                graph.ReachesAlone core other := by
              intro other isMem
              rcases collected.mem.mp isMem with ⟨reaches, unseen⟩
              refine ⟨own.reaches reaches, ?_⟩
              intro toucher toucherCore touches
              by_contra apart
              have seen : toucher ∈ visited := by
                rcases others toucher toucherCore apart with seen | inOrder
                · exact seen
                · rcases List.mem_cons.mp inOrder with rfl | inRest
                  · exact (apart own).elim
                  · exact (apart (last.1 toucher inRest own)).elim
              rcases touches with rfl | near
              · exact unseen seen
              · exact unseen (closed toucher seen toucherCore other near)
            have small : ¬ minPts ≤ (collect graph.leadsTo visited [point]).2.length := by
              intro large
              apply sparse
              refine ⟨(collect graph.leadsTo visited [point]).2.toFinset, ?_, ?_⟩
              · rwa [List.toFinset_card_of_nodup collected.nodup]
              · exact fun other isMem => alone other (List.mem_toFinset.mp isMem)
            rw [if_neg small] at found
            rcases exists_of_mem_clusters collected.closed found with ⟨_, isCluster⟩
            intro isMem
            apply isCluster.fresh isMem
            exact collected.all.mpr (.inr ⟨core, own.symm, .inl rfl⟩)
          · have notCollected : core ∉ (collect graph.leadsTo visited [point]).2 := by
              intro isMem
              apply own
              exact ((collected.mem.mp isMem).1.connected fresh.2 isCore).symm
            have later (found : cluster ∈
                graph.clusters minPts (collect graph.leadsTo visited [point]).1 rest) :
                core ∉ cluster := by
              refine ih collected.closed last.2 ?_ found
              intro other otherCore apart
              rcases others other otherCore apart with seen | inOrder
              · exact .inl (collected.all.mpr (.inl seen))
              · rcases List.mem_cons.mp inOrder with rfl | inRest
                · exact .inl (collected.all.mpr (.inr (reaches_self _)))
                · exact .inr inRest
            split at found
            · rcases List.mem_cons.mp found with rfl | found
              · rwa [List.mem_mergeSort]
              · exact later found
            · exact later found

/-! ## Partitions -/

theorem partitions_clusters {minPts : Nat}
    (dense : ∀ core, graph.isCore core → graph.Dense minPts core) {order : List Point}
    (complete : ∀ point, point ∈ order) : graph.Partitions (graph.clusters minPts ∅ order) where
  disjoint := disjoint_clusters closed_empty
  covers core isCore :=
    mem_cluster_of_dense dense closed_empty explored_empty isCore (complete core)
      (Finset.notMem_empty core)
  together := by
    intro one other linked cluster found isMem
    rcases exists_of_mem_clusters closed_empty found with ⟨core, isCluster⟩
    have connected := isCluster.mem_core_iff.mp ⟨isMem, linked.1⟩
    exact isCluster.group (connected.tail linked)
  members := by
    intro cluster found point isMem
    rcases exists_of_mem_clusters closed_empty found with ⟨core, isCluster⟩
    rcases isCluster.reached isMem with ⟨other, connected, rfl | near⟩
    · exact .inl (connected.isCore isCluster.isCore)
    · exact .inr ⟨other, isCluster.group connected, connected.isCore isCluster.isCore, near⟩

/-- Where the lists of a search cover the cores, their parts are the groups. -/
theorem coreParts_clusters {minPts : Nat} {order : List Point}
    (covers : ∀ core, graph.isCore core →
      ∃ cluster ∈ graph.clusters minPts ∅ order, core ∈ cluster) :
    graph.coreParts (graph.clusters minPts ∅ order) =
      {part | ∃ core, graph.isCore core ∧ part = {point | graph.Connected core point}} := by
  ext part
  constructor
  · intro ⟨cluster, found, isPart⟩
    rcases exists_of_mem_clusters closed_empty found with ⟨core, isCluster⟩
    refine ⟨core, isCluster.isCore, ?_⟩
    rw [isPart]
    ext point
    exact isCluster.mem_core_iff
  · intro ⟨core, isCore, isPart⟩
    rcases covers core isCore with ⟨cluster, found, isMem⟩
    rcases exists_of_mem_clusters closed_empty found with ⟨leader, isCluster⟩
    refine ⟨cluster, found, ?_⟩
    rw [isPart]
    ext point
    have connected := isCluster.mem_core_iff.mp ⟨isMem, isCore⟩
    rw [Set.mem_ofPred_eq, Set.mem_ofPred_eq, isCluster.mem_core_iff]
    constructor
    · exact connected.trans
    · exact connected.symm.trans

end DensityGraph

end Lib.Density
