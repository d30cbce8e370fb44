import FinanceSync.Subscriptions.Detector

/-!
# Cross-validated detections

A merchant that both methods find keeps the result with the higher score, enriched with the
other.  What is added always comes from the clustering result, so that where that is the base,
the transactions and labels of the merchant's result are lost.
-/

namespace FinanceSync.Subscriptions

open Lib

/-! ## Findings -/

/-- Confidence level of a subscription detection. -/
inductive Confidence
  | high
  | medium
  | low
deriving DecidableEq

/-- Method used to detect a recurring transaction pattern. -/
inductive DetectionMethod
  | exactAmount
  | similarAmount
  | regularInterval
  | merchantClassification
  | amountCluster
  | crossAccount
  | hybrid
deriving DecidableEq

/-- A detection result with what merging and matching read of it. -/
structure Finding extends DetectionResult where
  transactionIds : List Uuid
  occurrenceCount : Nat
  securityId : Option String := none
  confidence : Confidence := .low
  detectionMethod : DetectionMethod
  frequencyDays : Option Nat := none
  frequencyLabel : Option String := none
  accountId : Option String := none
  firstDetectedAt : Option Instant := none
  lastDetectedAt : Option Instant := none

/-- The labels that are kept if available from either source. -/
inductive Label
  | sector
  | securityId
  | category
deriving DecidableEq

def Finding.label (finding : Finding) : Label → Option String
  | .sector => finding.sector
  | .securityId => finding.securityId
  | .category => finding.category

/-- A text that is neither missing nor empty. -/
def given (text : Option String) : Option String := text.filter (· ≠ "")

/-! ## Merging -/

/-- `cluster_result[field] and not base.get(field)` -/
def filled (base cluster : Option String) : Option String :=
  if (given cluster).isSome ∧ given base = none then cluster else base

/-- The loop over the ids of the clustering result. -/
def mergeIds (ids clusterIds : List Uuid) : List Uuid := ids ++ keepFirst id ids clusterIds

/-- `min(1.0, round(score + cv_bonus, 4))` -/
def withBonus (score : ℚ) : ℚ := min 1 (roundHalfEven ((score + 1 / 10) * 10 ^ 4) / 10 ^ 4)

/-- The higher-scoring result. -/
def baseOf (merchant cluster : Finding) : Finding :=
  if cluster.detectionScore ≤ merchant.detectionScore then merchant else cluster

/-- The other one. -/
def otherOf (merchant cluster : Finding) : Finding :=
  if cluster.detectionScore ≤ merchant.detectionScore then cluster else merchant

/-- `_merge_cross_validated` -/
def mergeCrossValidated (merchant cluster : Finding) : Finding :=
  let base := baseOf merchant cluster
  let score := withBonus base.detectionScore
  { base with
    detectionScore := score
    confidence :=
      if 4 / 5 ≤ score then .high
      else if 1 / 2 ≤ score ∧ base.confidence = .low then .medium
      else base.confidence
    detectionMethod := .hybrid
    transactionIds := mergeIds base.transactionIds cluster.transactionIds
    occurrenceCount := max merchant.occurrenceCount cluster.occurrenceCount
    sector := filled base.sector cluster.sector
    securityId := filled base.securityId cluster.securityId
    category := filled base.category cluster.category }

/-! ## What a merge keeps -/

/-- The ids are those of both without repetition, and a label is that of the base or, where it
has none, of the other. -/
structure KeepsEvidence (merchant cluster : Finding) : Prop where
  nodup : (mergeCrossValidated merchant cluster).transactionIds.Nodup
  union : ∀ id, id ∈ (mergeCrossValidated merchant cluster).transactionIds ↔
    id ∈ merchant.transactionIds ∨ id ∈ cluster.transactionIds
  labels : ∀ label, given ((mergeCrossValidated merchant cluster).label label) =
    (given ((baseOf merchant cluster).label label)).or
      (given ((otherOf merchant cluster).label label))

def Finding.withScore (finding : Finding) (score : ℚ) : Finding :=
  { finding with detectionScore := score }

/-- The merge of the results with their scores exchanged. -/
def exchangedMerge (merchant cluster : Finding) : Finding :=
  mergeCrossValidated (merchant.withScore cluster.detectionScore)
    (cluster.withScore merchant.detectionScore)

/-- What is not taken from the base does not depend on which result has the higher score: the
ids, the labels that there are, the number of occurrences, the score and the method. -/
structure SideFree (merchant cluster : Finding) : Prop where
  ids : ∀ id, id ∈ (exchangedMerge merchant cluster).transactionIds ↔
    id ∈ (mergeCrossValidated merchant cluster).transactionIds
  labels : ∀ label, (given ((exchangedMerge merchant cluster).label label)).isSome =
    (given ((mergeCrossValidated merchant cluster).label label)).isSome
  occurrences : (exchangedMerge merchant cluster).occurrenceCount =
    (mergeCrossValidated merchant cluster).occurrenceCount
  score : (exchangedMerge merchant cluster).detectionScore =
    (mergeCrossValidated merchant cluster).detectionScore
  method : (exchangedMerge merchant cluster).detectionMethod =
    (mergeCrossValidated merchant cluster).detectionMethod

/-- The clustering result has all ids of the merchant's result and a label for each of its. -/
structure Covers (cluster merchant : Finding) : Prop where
  ids : merchant.transactionIds ⊆ cluster.transactionIds
  labels : ∀ label, (given (merchant.label label)).isSome → (given (cluster.label label)).isSome

/-! ## Merged parts -/

theorem mem_mergeIds {ids clusterIds : List Uuid} {wanted : Uuid} :
    wanted ∈ mergeIds ids clusterIds ↔ wanted ∈ ids ∨ wanted ∈ clusterIds := by
  have first : firstWith id (id wanted) clusterIds = some wanted ↔ wanted ∈ clusterIds := by
    constructor
    · exact mem_of_firstWith id
    · intro member
      obtain ⟨row, found⟩ := exists_firstWith id member
      rwa [show row = wanted from key_of_firstWith id found] at found
  rw [mergeIds, List.mem_append, mem_keepFirst, first, id]
  tauto

theorem nodup_mergeIds {ids clusterIds : List Uuid} :
    (mergeIds ids clusterIds).Nodup ↔ ids.Nodup := by
  have fresh : (keepFirst id ids clusterIds).Nodup := by
    have keys := nodup_keys_keepFirst id ids clusterIds
    rwa [List.map_id] at keys
  rw [mergeIds, List.nodup_append', and_iff_left]
  refine ⟨fresh, ?_⟩
  intro wanted member kept
  exact ((mem_keepFirst id).mp kept).1 member

theorem given_filled (base cluster : Option String) :
    given (filled base cluster) = (given base).or (given cluster) := by
  rw [filled]
  split
  · next missing => rw [missing.2, Option.none_or]
  · next present =>
      cases isGiven : given base with
      | some text => rfl
      | none =>
          have absent : given cluster = none := by simpa [isGiven] using present
          rw [absent]
          rfl

variable {merchant cluster : Finding}

theorem label_merge (label : Label) :
    given ((mergeCrossValidated merchant cluster).label label) =
      (given ((baseOf merchant cluster).label label)).or (given (cluster.label label)) := by
  cases label with
  | sector => exact given_filled _ _
  | securityId => exact given_filled _ _
  | category => exact given_filled _ _

theorem mem_ids_merge {wanted : Uuid} :
    wanted ∈ (mergeCrossValidated merchant cluster).transactionIds ↔
      wanted ∈ (baseOf merchant cluster).transactionIds ∨ wanted ∈ cluster.transactionIds :=
  mem_mergeIds

theorem nodup_ids_merge : (mergeCrossValidated merchant cluster).transactionIds.Nodup ↔
    (baseOf merchant cluster).transactionIds.Nodup := nodup_mergeIds

theorem baseOf_merchant (higher : cluster.detectionScore ≤ merchant.detectionScore) :
    baseOf merchant cluster = merchant ∧ otherOf merchant cluster = cluster :=
  ⟨if_pos higher, if_pos higher⟩

theorem baseOf_cluster (higher : merchant.detectionScore < cluster.detectionScore) :
    baseOf merchant cluster = cluster ∧ otherOf merchant cluster = merchant :=
  ⟨if_neg higher.not_ge, if_neg higher.not_ge⟩

/-- A merge with the merchant's result as its base keeps the evidence. -/
theorem keepsEvidence_merchant_iff (higher : cluster.detectionScore ≤ merchant.detectionScore) :
    KeepsEvidence merchant cluster ↔ merchant.transactionIds.Nodup := by
  obtain ⟨base, other⟩ := baseOf_merchant higher
  constructor
  · intro keeps
    rw [← base]
    exact nodup_ids_merge.mp keeps.nodup
  · intro nodup
    refine ⟨?_, ?_, ?_⟩
    · rwa [nodup_ids_merge, base]
    · intro wanted
      rw [mem_ids_merge, base]
    · intro label
      rw [label_merge, other]

/-- A merge with the clustering result as its base keeps the evidence if that covers the
merchant's result. -/
theorem keepsEvidence_cluster_iff (higher : merchant.detectionScore < cluster.detectionScore) :
    KeepsEvidence merchant cluster ↔
      cluster.transactionIds.Nodup ∧ Covers cluster merchant := by
  obtain ⟨base, other⟩ := baseOf_cluster higher
  constructor
  · intro keeps
    refine ⟨?_, ?_, ?_⟩
    · rw [← base]
      exact nodup_ids_merge.mp keeps.nodup
    · intro wanted member
      have merged := (keeps.union wanted).mpr (.inl member)
      rw [mem_ids_merge, base] at merged
      exact merged.elim id id
    · intro label hasLabel
      have same := keeps.labels label
      rw [label_merge, base, other, Option.or_self] at same
      cases own : given (cluster.label label) with
      | some text => rfl
      | none =>
          rw [own, Option.none_or] at same
          rw [← same] at hasLabel
          exact hasLabel
  · rintro ⟨nodup, covers⟩
    refine ⟨?_, ?_, ?_⟩
    · rwa [nodup_ids_merge, base]
    · intro wanted
      rw [mem_ids_merge, base, or_self]
      exact (or_iff_right_of_imp fun member => covers.ids member).symm
    · intro label
      rw [label_merge, base, other, Option.or_self]
      cases own : given (cluster.label label) with
      | some text => rfl
      | none =>
          cases merchants : given (merchant.label label) with
          | none => rfl
          | some text =>
              have hasLabel := covers.labels label (by rw [merchants]; rfl)
              rw [own] at hasLabel
              cases hasLabel

/-! ## Exchanged scores -/

@[simp] theorem label_withScore (finding : Finding) (score : ℚ) (label : Label) :
    (finding.withScore score).label label = finding.label label := by
  cases label <;> rfl

theorem score_baseOf : (baseOf merchant cluster).detectionScore =
    max merchant.detectionScore cluster.detectionScore := by
  rw [baseOf]
  split
  · next higher => exact (max_eq_left higher).symm
  · next lower => exact (max_eq_right (not_le.mp lower).le).symm

/-- The occurrences, the score and the method are the same in any case. -/
theorem sideFree_of_ids_labels
    (ids : ∀ wanted, wanted ∈ (exchangedMerge merchant cluster).transactionIds ↔
      wanted ∈ (mergeCrossValidated merchant cluster).transactionIds)
    (labels : ∀ label, (given ((exchangedMerge merchant cluster).label label)).isSome =
      (given ((mergeCrossValidated merchant cluster).label label)).isSome) :
    SideFree merchant cluster where
  ids := ids
  labels := labels
  occurrences := rfl
  score := by
    have exchanged : (baseOf (merchant.withScore cluster.detectionScore)
        (cluster.withScore merchant.detectionScore)).detectionScore =
        (baseOf merchant cluster).detectionScore := by
      rw [score_baseOf, score_baseOf]
      exact max_comm _ _
    exact congrArg withBonus exchanged
  method := rfl

/-- Equal scores cannot be told apart. -/
theorem sideFree_of_eq (equal : merchant.detectionScore = cluster.detectionScore) :
    SideFree merchant cluster := by
  have same : exchangedMerge merchant cluster = mergeCrossValidated merchant cluster := by
    have merchantSame : merchant.withScore cluster.detectionScore = merchant := by
      rw [← equal]
      rfl
    have clusterSame : cluster.withScore merchant.detectionScore = cluster := by
      rw [equal]
      rfl
    rw [exchangedMerge, merchantSame, clusterSame]
  apply sideFree_of_ids_labels
  · intro wanted
    rw [same]
  · intro label
    rw [same]

namespace Covers

theorem withScore (covers : Covers cluster merchant) (clusterScore merchantScore : ℚ) :
    Covers (cluster.withScore clusterScore) (merchant.withScore merchantScore) where
  ids := covers.ids
  labels label := by simpa using covers.labels label

theorem mem_ids_merge (covers : Covers cluster merchant) {wanted : Uuid} :
    wanted ∈ (mergeCrossValidated merchant cluster).transactionIds ↔
      wanted ∈ cluster.transactionIds := by
  rw [Subscriptions.mem_ids_merge, baseOf]
  split
  · exact or_iff_right_of_imp fun member => covers.ids member
  · exact or_self_iff

theorem label_merge (covers : Covers cluster merchant) (label : Label) :
    (given ((mergeCrossValidated merchant cluster).label label)).isSome =
      (given (cluster.label label)).isSome := by
  rw [Subscriptions.label_merge, baseOf]
  split
  · rw [Option.isSome_or, Bool.or_eq_right_iff_imp]
    exact covers.labels label
  · rw [Option.or_self]

theorem sideFree (covers : Covers cluster merchant) : SideFree merchant cluster := by
  have exchanged := covers.withScore merchant.detectionScore cluster.detectionScore
  apply sideFree_of_ids_labels
  · intro wanted
    rw [covers.mem_ids_merge]
    exact exchanged.mem_ids_merge
  · intro label
    rw [covers.label_merge, ← label_withScore cluster merchant.detectionScore]
    exact exchanged.label_merge label

end Covers

/-- Where the merchant's result has the higher score, the exchanged merge shows what the
clustering result does not cover. -/
theorem covers_of_sideFree (higher : cluster.detectionScore < merchant.detectionScore)
    (sideFree : SideFree merchant cluster) : Covers cluster merchant := by
  obtain ⟨base, -⟩ := baseOf_merchant higher.le
  have lower : (merchant.withScore cluster.detectionScore).detectionScore <
      (cluster.withScore merchant.detectionScore).detectionScore := higher
  have exchanged := (baseOf_cluster lower).1
  constructor
  · intro wanted member
    have merged := (sideFree.ids wanted).mpr (mem_ids_merge.mpr (.inl (base.symm ▸ member)))
    rw [exchangedMerge, mem_ids_merge, exchanged] at merged
    exact merged.elim id id
  · intro label hasLabel
    have same := sideFree.labels label
    rw [exchangedMerge, label_merge, label_merge, base, exchanged, Option.or_self,
      label_withScore, Option.isSome_or, hasLabel, Bool.true_or] at same
    exact same

/-! ## When nothing is lost -/

/-- A merge loses no evidence, on whichever side the higher score is, exactly if the base has no
id twice and the scores are equal or the clustering result covers the merchant's. -/
theorem keeps_and_sideFree_iff :
    KeepsEvidence merchant cluster ∧ SideFree merchant cluster ↔
      (baseOf merchant cluster).transactionIds.Nodup ∧
        (merchant.detectionScore = cluster.detectionScore ∨ Covers cluster merchant) := by
  rcases lt_trichotomy merchant.detectionScore cluster.detectionScore with higher | equal | higher
  · rw [keepsEvidence_cluster_iff higher, (baseOf_cluster higher).1, or_iff_right higher.ne]
    exact and_iff_left_of_imp fun keeps => keeps.2.sideFree
  · rw [keepsEvidence_merchant_iff equal.ge, (baseOf_merchant equal.ge).1]
    exact and_congr_right fun _ => iff_of_true (sideFree_of_eq equal) (.inl equal)
  · rw [keepsEvidence_merchant_iff higher.le, (baseOf_merchant higher.le).1,
      or_iff_right higher.ne']
    exact and_congr_right fun _ => ⟨covers_of_sideFree higher, Covers.sideFree⟩

end FinanceSync.Subscriptions
