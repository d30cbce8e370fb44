import FinanceSync.Data.Rounding
import FinanceSync.Lib.DensityClusters
import Mathlib.Data.List.FinRange
import Mathlib.Data.List.NodupEquivFin

/-!
# Clusters of similar amounts

Amounts are neighbours if they are within an absolute or a relative tolerance of each
other, and an amount with enough neighbours is a core.  The clusters partition the cores
in every order of the amounts exactly if every group of cores has enough amounts that are
near to no other group.  Otherwise the group that comes last can be dropped with its
cores, because an earlier one has claimed the amounts between them.
-/

namespace FinanceSync.Subscriptions

open Lib.Density

/-- What the default `decimal` context returns for a number. -/
def inContext (number : ℚ) : ℚ := roundDigits contextDigits number

/-- The keyword arguments of `_density_cluster_1d`. -/
structure Tolerance where
  epsPct : ℚ := 5 / 100
  epsAbs : ℚ := 2
  minPts : Nat := 2

/-- Check absolute tolerance first, then relative. -/
def Tolerance.isNear (tolerance : Tolerance) (first second : ℚ) : Bool :=
  let a := inContext |first|
  let b := inContext |second|
  let diff := |inContext (a - b)|
  let meanAb := inContext (inContext (a + b) / 2)
  decide (diff ≤ tolerance.epsAbs) ||
    (decide (0 < meanAb) && decide (inContext (diff / meanAb) ≤ tolerance.epsPct))

theorem Tolerance.isNear_comm (tolerance : Tolerance) (first second : ℚ) :
    tolerance.isNear first second = tolerance.isNear second first := by
  have sameDiff : |inContext (inContext |first| - inContext |second|)| =
      |inContext (inContext |second| - inContext |first|)| := by
    rw [← neg_sub, inContext, roundDigits_neg, abs_neg]
    rfl
  simp only [isNear, sameDiff, add_comm (inContext |first|)]

section Clustering

variable (tolerance : Tolerance) (values : List ℚ)

/-- `neighbours[i]`, which the pairs below and above `i` have been added to. -/
def neighbours (i : Fin values.length) : List (Fin values.length) :=
  (List.finRange values.length).filter fun j =>
    (decide (i < j) && tolerance.isNear (values.get i) (values.get j)) ||
      (decide (j < i) && tolerance.isNear (values.get j) (values.get i))

/-- Core points have at least `min_pts` neighbours (including self). -/
def isCore (i : Fin values.length) : Bool :=
  tolerance.minPts ≤ (neighbours tolerance values i).length + 1

theorem mem_neighbours {i j : Fin values.length} :
    j ∈ neighbours tolerance values i ↔
      i ≠ j ∧ tolerance.isNear (values.get i) (values.get j) = true := by
  simp only [neighbours, List.mem_filter, List.mem_finRange, true_and, Bool.or_eq_true,
    Bool.and_eq_true, decide_eq_true_eq, tolerance.isNear_comm (values.get j)]
  rw [← or_and_right, ← lt_or_lt_iff_ne]

def amountGraph : DensityGraph (Fin values.length) where
  neighbours := neighbours tolerance values
  isCore := isCore tolerance values
  symmetric := by
    intro i j near
    rw [mem_neighbours] at near ⊢
    exact ⟨near.1.symm, (tolerance.isNear_comm _ _).trans near.2⟩

/-- `_density_cluster_1d`, with lists of indices into the values. -/
def densityCluster1d : List (List (Fin values.length)) :=
  if values.length < tolerance.minPts then []
  else (amountGraph tolerance values).clusters tolerance.minPts ∅ (List.finRange values.length)

/-! ## Partitions -/

/-- The lists partition the cores, and permuting the values permutes the lists restricted
to the cores. -/
structure PartitionsCores : Prop where
  partitions : (amountGraph tolerance values).Partitions (densityCluster1d tolerance values)
  permutes : ∀ (permuted : List ℚ) (place : Fin permuted.length ≃ Fin values.length),
    (∀ i, values.get (place i) = permuted.get i) →
    (Set.image place) '' (amountGraph tolerance permuted).coreParts
        (densityCluster1d tolerance permuted) =
      (amountGraph tolerance values).coreParts (densityCluster1d tolerance values)

variable {tolerance values}

/-- A short list has no cores. -/
theorem isCore_of_short (short : values.length < tolerance.minPts) (i : Fin values.length) :
    (amountGraph tolerance values).isCore i = false := by
  have fewer : (neighbours tolerance values i).length < (List.finRange values.length).length := by
    apply List.length_filter_lt_length_iff_exists.mpr
    exact ⟨i, List.mem_finRange i, by simp⟩
  rw [List.length_finRange] at fewer
  simp only [amountGraph, isCore, decide_eq_false_iff_not]
  omega

theorem densityCluster1d_eq :
    densityCluster1d tolerance values = (amountGraph tolerance values).clusters tolerance.minPts ∅
      (List.finRange values.length) := by
  unfold densityCluster1d
  split
  · next short =>
      symm
      apply List.eq_nil_iff_forall_not_mem.mpr
      intro cluster found
      rcases DensityGraph.exists_of_mem_clusters DensityGraph.closed_empty found with
        ⟨core, isCluster⟩
      have isCore := isCluster.isCore
      rw [isCore_of_short short core] at isCore
      cases isCore
  · rfl

theorem sameGraph {permuted : List ℚ} {place : Fin permuted.length ≃ Fin values.length}
    (same : ∀ i, values.get (place i) = permuted.get i) :
    DensityGraph.SameGraph (amountGraph tolerance permuted) (amountGraph tolerance values)
      place := by
  have near : ∀ i j, place j ∈ neighbours tolerance values (place i) ↔
      j ∈ neighbours tolerance permuted i := by
    intro i j
    rw [mem_neighbours, mem_neighbours, same, same, place.injective.ne_iff]
  refine ⟨?_, near⟩
  intro i
  have perm : ((neighbours tolerance permuted i).map place).Perm
      (neighbours tolerance values (place i)) := by
    rw [List.perm_ext_iff_of_nodup]
    · intro j
      rcases place.surjective j with ⟨j, rfl⟩
      rw [near, List.mem_map_of_injective place.injective]
    · exact ((List.nodup_finRange _).filter _).map place.injective
    · exact (List.nodup_finRange _).filter _
  simp only [amountGraph, isCore, ← perm.length_eq, List.length_map]

/-- The values can be permuted so that those of a group come last. -/
theorem exists_group_last (values : List ℚ) (group : Fin values.length → Prop) :
    ∃ (permuted : List ℚ) (place : Fin permuted.length ≃ Fin values.length),
      (∀ i, values.get (place i) = permuted.get i) ∧
        ∀ i j, i < j → group (place i) → group (place j) := by
  classical
  let order := (List.finRange values.length).filter (fun i => ¬ group i) ++
    (List.finRange values.length).filter fun i => group i
  have nodup : order.Nodup := by
    apply List.Nodup.append ((List.nodup_finRange _).filter _) ((List.nodup_finRange _).filter _)
    intro i inOthers inGroup
    simp only [List.mem_filter, decide_eq_true_eq] at inOthers inGroup
    exact inOthers.2 inGroup.2
  have complete : ∀ i, i ∈ order := by
    intro i
    simp only [order, List.mem_append, List.mem_filter, List.mem_finRange, true_and,
      decide_eq_true_eq]
    exact (em (group i)).symm
  have last : order.Pairwise fun i j => group i → group j := by
    apply List.pairwise_append.mpr
    refine ⟨?_, ?_, ?_⟩
    · apply List.pairwise_of_forall_mem_list
      intro i inOthers j _ inGroup
      simp only [List.mem_filter, decide_eq_true_eq] at inOthers
      exact absurd inGroup inOthers.2
    · apply List.pairwise_of_forall_mem_list
      intro i _ j inGroup _
      simpa using List.of_mem_filter inGroup
    · intro i _ j inGroup _
      simpa using List.of_mem_filter inGroup
  refine ⟨order.map values.get,
    (finCongr (List.length_map _)).trans (nodup.getEquivOfForallMemList order complete), ?_, ?_⟩
  · intro i
    simp
  · intro i j less
    exact List.pairwise_iff_get.mp last _ _ less

/-- A group that is not dense is lost where it comes last. -/
theorem PartitionsCores.dense (kept : PartitionsCores tolerance values)
    {core : Fin values.length} (isCore : (amountGraph tolerance values).isCore core) :
    (amountGraph tolerance values).Dense tolerance.minPts core := by
  by_contra sparse
  rcases exists_group_last values ((amountGraph tolerance values).Connected core) with
    ⟨permuted, place, same, last⟩
  have graphs : DensityGraph.SameGraph (amountGraph tolerance permuted) _ place := sameGraph same
  rcases place.surjective core with ⟨name, rfl⟩
  rw [graphs.isCore] at isCore
  have lost : ∀ cluster ∈ densityCluster1d tolerance permuted, name ∉ cluster := by
    intro cluster found
    rw [densityCluster1d_eq] at found
    refine DensityGraph.not_mem_cluster_of_last isCore ?_ DensityGraph.closed_empty ?_ ?_ found
    · exact fun dense => sparse (graphs.dense dense)
    · refine (List.pairwise_lt_finRange _).imp ?_
      intro i j less connected
      exact graphs.connected_iff.mp (last i j less (graphs.connected connected))
    · exact fun other _ _ => .inr (List.mem_finRange other)
  rcases kept.partitions.covers (place name) ((graphs.isCore name).trans isCore) with
    ⟨cluster, found, isMem⟩
  have part : {i | i ∈ cluster ∧ (amountGraph tolerance values).isCore i} ∈
      (amountGraph tolerance values).coreParts (densityCluster1d tolerance values) :=
    ⟨cluster, found, rfl⟩
  rw [← kept.permutes permuted place same] at part
  rcases part with ⟨_, ⟨own, isFound, rfl⟩, image⟩
  have inImage : place name ∈ {i | i ∈ cluster ∧ (amountGraph tolerance values).isCore i} :=
    ⟨isMem, (graphs.isCore name).trans isCore⟩
  rw [← image, place.injective.mem_set_image] at inImage
  exact lost own isFound inImage.1

/-- The clusters partition the cores, in every order of the values, exactly if every group
of cores has `min_pts` values that are near to no other group. -/
theorem density_cluster_partitions_iff (tolerance : Tolerance) (values : List ℚ) :
    PartitionsCores tolerance values ↔
      ∀ core, (amountGraph tolerance values).isCore core →
        (amountGraph tolerance values).Dense tolerance.minPts core := by
  constructor
  · exact fun kept core isCore => kept.dense isCore
  · intro dense
    constructor
    · rw [densityCluster1d_eq]
      exact DensityGraph.partitions_clusters dense List.mem_finRange
    · intro permuted place same
      have graphs : DensityGraph.SameGraph (amountGraph tolerance permuted) _ place :=
        sameGraph same
      have densePermuted : ∀ name, (amountGraph tolerance permuted).isCore name →
          (amountGraph tolerance permuted).Dense tolerance.minPts name := by
        intro name isCore
        have renamed := graphs.symm.dense (dense (place name) ((graphs.isCore name).trans isCore))
        rwa [place.symm_apply_apply] at renamed
      rw [densityCluster1d_eq, densityCluster1d_eq, DensityGraph.coreParts_clusters,
        DensityGraph.coreParts_clusters, graphs.image_groups]
      · exact (DensityGraph.partitions_clusters dense List.mem_finRange).covers
      · exact (DensityGraph.partitions_clusters densePermuted List.mem_finRange).covers

end Clustering

/-- Near to 20 are 10, 10 and 30, and near to 40 are 30, 50 and 50. -/
def amountsAroundThirty : List ℚ := [10, 10, 20, 30, 40, 50, 50]

def fourWithinTen : Tolerance where
  epsPct := 0
  epsAbs := 10
  minPts := 4

/-- The index of 40. -/
def forty : Fin amountsAroundThirty.length := ⟨4, by decide⟩

def graphAroundThirty : DensityGraph (Fin amountsAroundThirty.length) :=
  amountGraph fourWithinTen amountsAroundThirty

/-- Without 30, which is near to 20 as well, 40 reaches itself and twice 50. -/
theorem forty_not_dense : ¬ graphAroundThirty.Dense fourWithinTen.minPts forty := by
  have solitary : ∀ {other}, graphAroundThirty.Connected forty other → other = forty := by
    intro other connected
    have noNeighbour : ∀ other, graphAroundThirty.isCore other →
        other ∉ graphAroundThirty.neighbours forty := by
      decide +kernel
    induction connected with
    | refl => rfl
    | tail _ linked ih =>
        rw [ih] at linked
        exact absurd linked.2.2 (noNeighbour _ linked.2.1)
  have near : ∀ point, point ∈ graphAroundThirty.neighbours forty →
      point ∈ [⟨5, by decide⟩, ⟨6, by decide⟩] ∨
        graphAroundThirty.isCore ⟨2, by decide⟩ ∧
          point ∈ graphAroundThirty.neighbours ⟨2, by decide⟩ := by
    decide +kernel
  intro ⟨own, enough, alone⟩
  have few : own ⊆ {forty, ⟨5, by decide⟩, ⟨6, by decide⟩} := by
    intro point isMem
    rcases alone point isMem with ⟨⟨other, connected, touches⟩, only⟩
    rw [solitary connected] at touches
    rcases touches with rfl | isNear
    · simp
    · rcases near point isNear with fifty | ⟨isCore, nearTwenty⟩
      · rw [Finset.mem_insert]
        right
        simpa using fifty
      · have same := solitary (only _ isCore (.inr nearTwenty))
        exact absurd same (by decide)
  have bound := enough.trans (Finset.card_le_card few)
  exact absurd bound (by decide)

/-- The cluster of 20 claims 30.  What is left for 40 is too small and dropped. -/
theorem forty_in_no_cluster :
    0 ≤ fourWithinTen.epsPct ∧ 0 ≤ fourWithinTen.epsAbs ∧ 1 ≤ fourWithinTen.minPts ∧
      ¬ PartitionsCores fourWithinTen amountsAroundThirty := by
  refine ⟨by decide, by decide, by decide, ?_⟩
  intro kept
  exact forty_not_dense (kept.dense (by decide +kernel))

end FinanceSync.Subscriptions
