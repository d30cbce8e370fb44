import FinanceSync.Subscriptions.AmountClusters
import FinanceSync.Subscriptions.CrossValidation
import Mathlib.Data.String.Basic

/-!
# Matches across accounts

A pattern that is found in several accounts adds a result with the transactions of all, and
with a score of zero.  Merging with the merchants' results and deduplication keep the result
of a merchant with the highest score, and where no score is compared, the first one, so that
the match is lost beside the patterns that it was found in.
-/

namespace FinanceSync.Subscriptions

open Lib

/-! ## Matching -/

def amountsCompatible (a b : ℚ) : Bool :=
  let absA := inContext |a|
  let absB := inContext |b|
  if absA = 0 ∧ absB = 0 then true
  else if absA = 0 ∨ absB = 0 then false
  else 1 / 2 ≤ inContext (min absA absB / max absA absB)

/-- Missing frequencies reject nothing. -/
def intervalsCompatible : Option Nat → Option Nat → Bool
  | some a, some b => a = 0 ∨ b = 0 ∨ (4 / 5 : ℚ) ≤ min a b / max a b
  | _, _ => true

/-- Two ranges of dates are at most sixty days apart. -/
def dateOverlaps (a b : Finding) : Bool :=
  match a.firstDetectedAt, a.lastDetectedAt, b.firstDetectedAt, b.lastDetectedAt with
  | some firstA, some lastA, some firstB, some lastB =>
      ¬ Instant.days 60 < max (firstB - lastA) (firstA - lastB)
  | _, _, _, _ => true

/-- A subscription pattern detected across multiple accounts. -/
structure CrossAccountMatch where
  merchantName : String
  amount : ℚ
  frequencyLabel : Option String
  confidence : Confidence
  sourceGroups : List Finding

section Matching

variable (mostCommon firstOfSet : List String → String)

/-- `_build_match` on a first pattern and others.  The most common name is one of those that
occur most often, whichever the order of a set gives. -/
def buildMatch (first : Finding) (others : List Finding) : CrossAccountMatch :=
  let group := first :: others
  let labels := group.filterMap fun pattern => given pattern.frequencyLabel
  { merchantName := mostCommon (group.map fun pattern => pattern.merchantName)
    amount := first.amount
    frequencyLabel := if labels = [] then none else some (mostCommon labels)
    confidence := if first.confidence = .low then .medium else .high
    sourceGroups := group }

def Finding.account (finding : Finding) : String := finding.accountId.getD ""

/-- The inner loop of `_merge_by_account`: the patterns of other accounts that fit one, and the
accounts that have been seen. -/
def fittingPatterns (a : Finding) (seen : List String) : List Finding → List Finding × List String
  | [] => ([], seen)
  | b :: rest =>
      if b.account ∉ seen ∧ amountsCompatible a.amount b.amount ∧
          intervalsCompatible a.frequencyDays b.frequencyDays ∧ dateOverlaps a b then
        let (group, last) := fittingPatterns a (b.account :: seen) rest
        (b :: group, last)
      else fittingPatterns a seen rest

def mergeByAccount (seen : List String) : List Finding → List CrossAccountMatch
  | [] => []
  | a :: rest =>
      if a.account ∈ seen then mergeByAccount seen rest
      else
        let (others, next) := fittingPatterns a (a.account :: seen) rest
        let matched := mergeByAccount next rest
        if others = [] then matched else buildMatch mostCommon a others :: matched

/-- The patterns with their positions, and the positions that have been used. -/
def findAmountCrossLinks (used : List Nat) : List (Finding × Nat) → List CrossAccountMatch
  | [] => []
  | (a, position) :: rest =>
      if position ∈ used then findAmountCrossLinks used rest
      else
        let linked := rest.filter fun (b, other) =>
          other ∉ used ∧ amountsCompatible a.amount b.amount ∧
            intervalsCompatible a.frequencyDays b.frequencyDays ∧
              a.merchantName ≠ b.merchantName ∧ a.accountId ≠ b.accountId
        let matched := findAmountCrossLinks (linked.map Prod.snd ++ used) rest
        if linked = [] then matched else buildMatch mostCommon a (linked.map Prod.fst) :: matched

def findCrossAccountMatches (patterns : List Finding) : List CrossAccountMatch :=
  if patterns.length < 2 then []
  else
    ((firsts (fun pattern : Finding => pattern.merchantName) patterns).flatMap fun first =>
        mergeByAccount mostCommon []
          (patterns.filter fun pattern => pattern.merchantName = first.merchantName)) ++
      findAmountCrossLinks mostCommon [] patterns.zipIdx

/-- A match becomes a result, with a score of zero, if a pattern of it has a date. -/
def buildCrossAccountPattern (matched : CrossAccountMatch) : Option Finding := do
  let source ← matched.sourceGroups.head?
  let dates := matched.sourceGroups.flatMap fun group =>
    [group.firstDetectedAt, group.lastDetectedAt].filterMap id
  let earliest ← dates.min?
  let latest ← dates.max?
  let ids := matched.sourceGroups.flatMap Finding.transactionIds
  return {
    merchantName := matched.merchantName
    amount := matched.amount
    category := source.category
    detectionScore := 0
    transactionIds := ids
    occurrenceCount := ids.length
    confidence := matched.confidence
    detectionMethod := .crossAccount
    frequencyDays := source.frequencyDays
    frequencyLabel := matched.frequencyLabel
    accountId := some (firstOfSet (matched.sourceGroups.map fun group =>
      (given group.accountId).getD "unknown"))
    firstDetectedAt := some earliest
    lastDetectedAt := some latest }

/-- The patterns of the clusters, and those across accounts. -/
def enginePatterns (patterns : List Finding) : List Finding :=
  patterns ++
    (findCrossAccountMatches mostCommon patterns).filterMap (buildCrossAccountPattern firstOfSet)

end Matching

/-! ## Merchant classification -/

structure Classification where
  sector : Option String
  securityId : Option String
  likelihoodScore : ℚ

/-- `_enrich_cluster_results` on a result. -/
def enrichClusterResult (classifications : String → Option Classification) (result : Finding) :
    Finding :=
  match classifications result.merchantName with
  | none => result
  | some classification =>
      if given classification.sector = none then result
      else
        let labelled := { result with
          sector := classification.sector
          securityId := classification.securityId
          detectionMethod :=
            if result.detectionMethod ∈
                [.amountCluster, .crossAccount, DetectionMethod.regularInterval] then
              .merchantClassification
            else result.detectionMethod }
        if 0 < classification.likelihoodScore then
          let score := min 1 (result.detectionScore + classification.likelihoodScore)
          { labelled with
            detectionScore := score
            confidence :=
              if 4 / 5 ≤ score then .high
              else if 1 / 2 ≤ score then .medium
              else result.confidence }
        else labelled

/-! ## Cross-referencing -/

def Finding.name (finding : Finding) : String := finding.merchantName

/-- Keep the highest-score entry; the first one of equal scores. -/
def higherScore : Option Finding → Finding → Option Finding
  | none, result => some result
  | some existing, result =>
      if existing.detectionScore < result.detectionScore then some result else some existing

/-- The entry of a merchant in the lookup map of some results. -/
def highestOf (results : List Finding) (merchant : String) : Option Finding :=
  (results.filter fun result => result.name = merchant).foldl higherScore none

/-- Merchants detected by both methods, in order. -/
def crossMerchants (merchantResults clusterResults : List Finding) : List String :=
  ((merchantResults.map Finding.name).dedup.filter fun merchant =>
    merchant ≠ "" ∧ merchant ∈ clusterResults.map Finding.name).insertionSort (· ≤ ·)

/-- The merged entry of a merchant that both methods detected. -/
def mergedOf (merchantResults clusterResults : List Finding) (merchant : String) :
    Option Finding := do
  return mergeCrossValidated (← highestOf merchantResults merchant)
    (← highestOf clusterResults merchant)

def named (results : List Finding) : List Finding :=
  results.filter fun result => result.name ≠ ""

/-- `_cross_reference_results` -/
def crossReferenceResults (merchantResults clusterResults : List Finding) : List Finding :=
  if merchantResults = [] ∨ clusterResults = [] then merchantResults ++ clusterResults
  else
    let cross := crossMerchants merchantResults clusterResults
    let merged := cross.filterMap (mergedOf merchantResults clusterResults)
    let merchantOnly := keepFirst Finding.name cross (named merchantResults)
    let clusterOnly := keepFirst Finding.name (cross ++ merchantOnly.map Finding.name)
      (named clusterResults)
    merged ++ merchantOnly ++ clusterOnly

/-! ## Deduplication -/

def Finding.better (best result : Finding) : Finding :=
  if best.entryKey < result.entryKey then result else best

/-- `_deduplicate_results`, with the transactions of the results. -/
def deduplicateFindings (results : List Finding) : List Finding :=
  (firsts Finding.name results).map fun first =>
    (results.filter fun result => result.name = first.name).foldl Finding.better first

/-- The entry of a merchant after deduplication. -/
def bestOf (results : List Finding) (merchant : String) : Option Finding :=
  (firstWith Finding.name merchant results).map fun first =>
    (results.filter fun result => result.name = merchant).foldl Finding.better first

/-! ## The entry of a merchant -/

variable {results merchantResults clusterResults : List Finding} {merchant : String}
  {entry : Finding}

theorem name_foldl_better {results : List Finding}
    (named : ∀ result ∈ results, result.name = merchant) :
    ∀ {best : Finding}, best.name = merchant →
      (results.foldl Finding.better best).name = merchant := by
  induction results with
  | nil => intro best isNamed; exact isNamed
  | cons result rest ih =>
      intro best isNamed
      rw [List.forall_mem_cons] at named
      apply ih named.2
      rw [Finding.better]
      split
      · exact named.1
      · exact isNamed

theorem name_of_bestOf (found : bestOf results merchant = some entry) : entry.name = merchant := by
  obtain ⟨first, isFirst, rfl⟩ := Option.map_eq_some_iff.mp found
  apply name_foldl_better
  · intro result member
    simpa using List.of_mem_filter member
  · exact key_of_firstWith _ isFirst

/-- Deduplication keeps the best entry of each merchant. -/
theorem mem_deduplicateFindings :
    entry ∈ deduplicateFindings results ∧ entry.name = merchant ↔
      bestOf results merchant = some entry := by
  constructor
  · rintro ⟨member, rfl⟩
    obtain ⟨first, kept, isEntry⟩ := List.mem_map.mp member
    have isFirst := (mem_firsts Finding.name).mp kept
    have found : bestOf results first.name = some entry := by
      rw [bestOf, isFirst, Option.map_some, isEntry]
    rwa [name_of_bestOf found]
  · intro found
    refine ⟨?_, name_of_bestOf found⟩
    obtain ⟨first, isFirst, rfl⟩ := Option.map_eq_some_iff.mp found
    have firstName := key_of_firstWith Finding.name isFirst
    rw [← firstName] at isFirst ⊢
    exact List.mem_map_of_mem ((mem_firsts Finding.name).mpr isFirst)

/-- Of results without repeated merchants each is its best. -/
theorem bestOf_of_nodup (nodup : (results.map Finding.name).Nodup) :
    bestOf results merchant = firstWith Finding.name merchant results := by
  rw [bestOf]
  cases found : firstWith Finding.name merchant results with
  | none => rfl
  | some first =>
      have single : ∀ result ∈ results.filter fun result => result.name = merchant,
          result = first := by
        intro result member
        have isNamed : result.name = merchant := by simpa using List.of_mem_filter member
        have isFirst := firstWith_of_mem Finding.name nodup (List.mem_of_mem_filter member)
        rw [isNamed, found] at isFirst
        exact (Option.some_inj.mp isFirst).symm
      have folded : ∀ others : List Finding, (∀ result ∈ others, result = first) →
          others.foldl Finding.better first = first := by
        intro others
        induction others with
        | nil => intro _; rfl
        | cons result rest ih =>
            intro same
            rw [List.forall_mem_cons] at same
            rw [List.foldl_cons, same.1, Finding.better, ite_self]
            exact ih same.2
      rw [Option.map_some, folded _ single]

/-- The highest entry of a merchant is a result of it. -/
theorem of_highestOf (found : highestOf results merchant = some entry) :
    entry ∈ results ∧ entry.name = merchant := by
  have member : ∀ (others : List Finding) (best : Option Finding),
      others.foldl higherScore best = some entry → entry ∈ others ∨ best = some entry := by
    intro others
    induction others with
    | nil => intro best isBest; exact .inr isBest
    | cons result rest ih =>
        intro best isBest
        rcases ih (higherScore best result) isBest with later | here
        · exact .inl (List.mem_cons_of_mem result later)
        · cases best with
          | none => exact .inl (Option.some_inj.mp here ▸ List.mem_cons_self)
          | some existing =>
              rw [higherScore] at here
              split at here
              · exact .inl (Option.some_inj.mp here ▸ List.mem_cons_self)
              · exact .inr here
  rcases member _ none found with isMember | absurdity
  · exact ⟨List.mem_of_mem_filter isMember, by simpa using List.of_mem_filter isMember⟩
  · cases absurdity

theorem highestOf_isSome : (highestOf results merchant).isSome ↔
    merchant ∈ results.map Finding.name := by
  have stays : ∀ (others : List Finding) (best : Option Finding),
      (others.foldl higherScore best).isSome ↔ best.isSome ∨ others ≠ [] := by
    intro others
    induction others with
    | nil => intro best; simp
    | cons result rest ih =>
        intro best
        have next : (higherScore best result).isSome := by
          cases best with
          | none => rfl
          | some existing => rw [higherScore]; split <;> rfl
        rw [List.foldl_cons, ih]
        simp [next]
  rw [highestOf, stays]
  simp [List.filter_eq_nil_iff]

/-! ## The entries after cross-referencing -/

theorem mem_crossMerchants : merchant ∈ crossMerchants merchantResults clusterResults ↔
    merchant ≠ "" ∧ merchant ∈ merchantResults.map Finding.name ∧
      merchant ∈ clusterResults.map Finding.name := by
  rw [crossMerchants, List.mem_insertionSort, List.mem_filter, List.mem_dedup,
    decide_eq_true_iff]
  tauto

theorem nodup_crossMerchants : (crossMerchants merchantResults clusterResults).Nodup := by
  rw [crossMerchants, (List.perm_insertionSort _ _).nodup_iff]
  exact (List.nodup_dedup _).filter _

theorem mergedOf_eq_some_iff : mergedOf merchantResults clusterResults merchant = some entry ↔
    ∃ first ∈ highestOf merchantResults merchant, ∃ second ∈ highestOf clusterResults merchant,
      mergeCrossValidated first second = entry := by
  simp [mergedOf, Option.bind_eq_some_iff]

theorem name_of_mergedOf (merged : mergedOf merchantResults clusterResults merchant = some entry) :
    entry.name = merchant := by
  obtain ⟨first, isFirst, second, isSecond, rfl⟩ := mergedOf_eq_some_iff.mp merged
  have base : (mergeCrossValidated first second).name = (baseOf first second).name := rfl
  rw [base, baseOf]
  split
  · exact (of_highestOf isFirst).2
  · exact (of_highestOf isSecond).2

/-- The results of a function of names are found under the names. -/
theorem firstWith_filterMap {entryOf : String → Option Finding}
    (named : ∀ merchant entry, entryOf merchant = some entry → entry.name = merchant)
    (merchants : List String) :
    firstWith Finding.name merchant (merchants.filterMap entryOf) =
      if merchant ∈ merchants then entryOf merchant else none := by
  induction merchants with
  | nil => rfl
  | cons first rest ih =>
      cases isEntry : entryOf first with
      | none =>
          rw [List.filterMap_cons_none isEntry, ih]
          by_cases here : merchant = first
          · simp [here, isEntry]
          · simp [here]
      | some entry =>
          rw [List.filterMap_cons_some isEntry, firstWith_cons, named first entry isEntry,
            ih]
          by_cases here : first = merchant
          · simp [here, ← isEntry]
          · simp [here, Ne.symm here]

theorem firstWith_append (rows others : List Finding) :
    firstWith Finding.name merchant (rows ++ others) =
      (firstWith Finding.name merchant rows).or (firstWith Finding.name merchant others) :=
  List.find?_append

theorem firstWith_named : firstWith Finding.name merchant (named results) =
    if merchant = "" then none else firstWith Finding.name merchant results := by
  induction results with
  | nil => simp [named, firstWith]
  | cons result rest ih =>
      rw [named] at ih ⊢
      by_cases blank : result.name = ""
      · rw [List.filter_cons_of_neg (by simpa using blank), ih, firstWith_cons,
          blank]
        split
        · rfl
        · next ne => rw [if_neg (Ne.symm ne)]
      · rw [List.filter_cons_of_pos (by simpa using blank), firstWith_cons, ih,
          firstWith_cons]
        by_cases here : result.name = merchant
        · rw [if_pos here, if_pos here, if_neg (here ▸ blank)]
        · rw [if_neg here, if_neg here]

theorem firstWith_isSome : (firstWith Finding.name merchant results).isSome ↔
    merchant ∈ results.map Finding.name := by
  simp [firstWith, List.find?_isSome]

/-- The entries that cross-referencing gives are of different merchants. -/
theorem nodup_crossReferenceResults (merchantSide : merchantResults ≠ [])
    (clusterSide : clusterResults ≠ []) :
    ((crossReferenceResults merchantResults clusterResults).map Finding.name).Nodup := by
  have names : ∀ merchants : List String,
      List.Sublist ((merchants.filterMap (mergedOf merchantResults clusterResults)).map
        Finding.name) merchants := by
    intro merchants
    induction merchants with
    | nil => exact List.Sublist.slnil
    | cons first rest ih =>
        cases merged : mergedOf merchantResults clusterResults first with
        | none =>
            rw [List.filterMap_cons_none merged]
            exact ih.cons first
        | some entry =>
            rw [List.filterMap_cons_some merged, List.map_cons, name_of_mergedOf merged]
            exact ih.cons_cons first
  rw [crossReferenceResults, if_neg (by simp [merchantSide, clusterSide])]
  simp only [List.map_append]
  rw [List.nodup_append', List.nodup_append']
  refine ⟨⟨(names _).nodup nodup_crossMerchants, nodup_keys_keepFirst _ _ _, ?_⟩,
    nodup_keys_keepFirst _ _ _, ?_⟩
  · intro merchant isMerged isOnly
    obtain ⟨entry, kept, rfl⟩ := List.mem_map.mp isOnly
    exact ((mem_keepFirst Finding.name).mp kept).1 ((names _).subset isMerged)
  · intro merchant isEarlier isOnly
    obtain ⟨entry, kept, rfl⟩ := List.mem_map.mp isOnly
    apply ((mem_keepFirst Finding.name).mp kept).1
    rw [List.mem_append] at isEarlier ⊢
    exact isEarlier.imp_left fun isMerged => (names _).subset isMerged

/-- A merchant that both methods detected has the merged entry, another one the first result. -/
theorem bestOf_crossReferenceResults (merchantSide : merchantResults ≠ [])
    (clusterSide : clusterResults ≠ []) :
    bestOf (crossReferenceResults merchantResults clusterResults) merchant =
      if merchant = "" then none
      else if merchant ∈ merchantResults.map Finding.name ∧
          merchant ∈ clusterResults.map Finding.name then
        mergedOf merchantResults clusterResults merchant
      else
        (firstWith Finding.name merchant merchantResults).or
          (firstWith Finding.name merchant clusterResults) := by
  rw [bestOf_of_nodup (nodup_crossReferenceResults merchantSide clusterSide),
    crossReferenceResults, if_neg (by simp [merchantSide, clusterSide])]
  simp only [firstWith_append, firstWith_keepFirst, firstWith_named,
    firstWith_filterMap fun _ _ => name_of_mergedOf]
  by_cases blank : merchant = ""
  · simp [blank, mem_crossMerchants]
  · rw [if_neg blank]
    by_cases both : merchant ∈ merchantResults.map Finding.name ∧
        merchant ∈ clusterResults.map Finding.name
    · have isCross : merchant ∈ crossMerchants merchantResults clusterResults :=
        mem_crossMerchants.mpr ⟨blank, both⟩
      simp only [isCross, both, blank, List.mem_append, true_or, if_true, if_false, and_self,
        Option.or_none]
    · have notCross : merchant ∉ crossMerchants merchantResults clusterResults :=
        fun isCross => both (mem_crossMerchants.mp isCross).2
      simp only [notCross, both, blank, if_false, Option.none_or]
      cases first : firstWith Finding.name merchant merchantResults with
      | some entry => rfl
      | none =>
          have notKept : merchant ∉ crossMerchants merchantResults clusterResults ++
              (keepFirst Finding.name (crossMerchants merchantResults clusterResults)
                (named merchantResults)).map Finding.name := by
            rw [List.mem_append, not_or]
            refine ⟨notCross, ?_⟩
            rw [← firstWith_isSome, firstWith_keepFirst, if_neg notCross, firstWith_named,
              if_neg blank, first]
            exact Bool.false_ne_true
          rw [if_neg notKept]

/-! ## Matches in the output -/

/-- The results of a detection run, from those of the merchants' groups, the patterns of the
clusters and what classification says of a merchant. -/
def detectionResults (mostCommon firstOfSet : List String → String)
    (classifications : String → Option Classification)
    (merchantResults patterns : List Finding) : List Finding :=
  deduplicateFindings (crossReferenceResults merchantResults
    ((enginePatterns mostCommon firstOfSet patterns).map (enrichClusterResult classifications)))

/-- An entry of the merchant has the transactions of all matched groups. -/
def CrossAccountMatch.RepresentedIn (matched : CrossAccountMatch) (results : List Finding) : Prop :=
  ∃ entry ∈ results, entry.name = matched.merchantName ∧
    ∀ group ∈ matched.sourceGroups, group.transactionIds ⊆ entry.transactionIds

/-- The ids are in the results that a merchant keeps.  Where one side has no results, that is
the best one.  Where both sides have the merchant, it is the highest result of the clusters and,
if its score is no lower, that of the merchants.  Otherwise it is the first one of the merchant,
whatever its score. -/
def IdsKept (merchantResults clusterResults : List Finding) (merchant : String)
    (ids : List Uuid) : Prop :=
  if merchantResults = [] ∨ clusterResults = [] then
    ∃ best ∈ bestOf (merchantResults ++ clusterResults) merchant, ids ⊆ best.transactionIds
  else
    merchant ≠ "" ∧
      match highestOf merchantResults merchant, highestOf clusterResults merchant with
      | some first, some second => ∀ id ∈ ids, id ∈ second.transactionIds ∨
          second.detectionScore ≤ first.detectionScore ∧ id ∈ first.transactionIds
      | _, _ =>
          ∃ first ∈ (firstWith Finding.name merchant merchantResults).or
            (firstWith Finding.name merchant clusterResults), ids ⊆ first.transactionIds

theorem ids_subset_merge_iff {first second : Finding} {ids : List Uuid} :
    ids ⊆ (mergeCrossValidated first second).transactionIds ↔
      ∀ id ∈ ids, id ∈ second.transactionIds ∨
        second.detectionScore ≤ first.detectionScore ∧ id ∈ first.transactionIds := by
  apply forall₂_congr
  intro id _
  rw [mem_ids_merge, baseOf]
  split
  · next higher => rw [and_iff_right higher, or_comm]
  · next lower => rw [or_self, or_iff_left (fun isFirst => lower isFirst.1)]

/-- What deduplication keeps of a merchant after cross-referencing. -/
theorem exists_bestOf_crossReference_iff {ids : List Uuid} :
    (∃ entry ∈ bestOf (crossReferenceResults merchantResults clusterResults) merchant,
        ids ⊆ entry.transactionIds) ↔
      IdsKept merchantResults clusterResults merchant ids := by
  rw [IdsKept]
  by_cases oneSide : merchantResults = [] ∨ clusterResults = []
  · rw [if_pos oneSide, crossReferenceResults, if_pos oneSide]
  · obtain ⟨merchantSide, clusterSide⟩ := not_or.mp oneSide
    rw [if_neg oneSide, bestOf_crossReferenceResults merchantSide clusterSide]
    by_cases blank : merchant = ""
    · simp [blank]
    · rw [if_neg blank, and_iff_right blank]
      simp only [← highestOf_isSome]
      cases first : highestOf merchantResults merchant with
      | none => simp
      | some firstEntry =>
          cases second : highestOf clusterResults merchant with
          | none => simp
          | some secondEntry =>
              have merged : mergedOf merchantResults clusterResults merchant =
                  some (mergeCrossValidated firstEntry secondEntry) := by
                simp [mergedOf, first, second]
              simp only [merged, Option.isSome_some, and_self, if_true, Option.mem_def,
                Option.some_inj, exists_eq_left']
              exact ids_subset_merge_iff

theorem representedIn_iff {matched : CrossAccountMatch} :
    matched.RepresentedIn (deduplicateFindings
        (crossReferenceResults merchantResults clusterResults)) ↔
      IdsKept merchantResults clusterResults matched.merchantName
        (matched.sourceGroups.flatMap Finding.transactionIds) := by
  rw [← exists_bestOf_crossReference_iff]
  have subsets : ∀ entry : Finding,
      (∀ group ∈ matched.sourceGroups, group.transactionIds ⊆ entry.transactionIds) ↔
        matched.sourceGroups.flatMap Finding.transactionIds ⊆ entry.transactionIds := by
    intro entry
    simp only [List.subset_def, List.mem_flatMap]
    constructor
    · rintro all id ⟨group, isGroup, member⟩
      exact all group isGroup member
    · intro all group isGroup id member
      exact all ⟨group, isGroup, member⟩
  simp only [CrossAccountMatch.RepresentedIn, subsets, Option.mem_def,
    ← mem_deduplicateFindings, and_assoc]

/-- Merging two detections of a merchant loses no evidence, on whichever side the higher score
is, exactly if the base has no id twice and the scores are equal or the clustering result covers
the merchant's; and every match across accounts is in the output exactly if its ids are in the
results that its merchant keeps. -/
theorem merging_keeps_evidence_iff (merchant cluster : Finding)
    (mostCommon firstOfSet : List String → String)
    (classifications : String → Option Classification) (merchantResults patterns : List Finding) :
    (KeepsEvidence merchant cluster ∧ SideFree merchant cluster ↔
        (baseOf merchant cluster).transactionIds.Nodup ∧
          (merchant.detectionScore = cluster.detectionScore ∨ Covers cluster merchant)) ∧
      ((∀ matched ∈ findCrossAccountMatches mostCommon patterns,
          matched.RepresentedIn (detectionResults mostCommon firstOfSet classifications
            merchantResults patterns)) ↔
        ∀ matched ∈ findCrossAccountMatches mostCommon patterns,
          IdsKept merchantResults
            ((enginePatterns mostCommon firstOfSet patterns).map
              (enrichClusterResult classifications)) matched.merchantName
            (matched.sourceGroups.flatMap Finding.transactionIds)) := by
  refine ⟨keeps_and_sideFree_iff, ?_⟩
  apply forall₂_congr
  intro matched _
  exact representedIn_iff

/-- A result of a merchant. -/
def foundIn (account : String) (id : Uuid) (score : ℚ) : Finding where
  merchantName := "netflix"
  amount := 10
  detectionScore := score
  transactionIds := [id]
  occurrenceCount := 1
  detectionMethod := .amountCluster
  accountId := some account
  firstDetectedAt := some 0
  lastDetectedAt := some 0

/-- The merchant's transaction is lost beside a clustering result with a higher score, and a
match of two accounts beside the pattern of the first. -/
theorem second_account_lost :
    ¬ (∀ merchant cluster : Finding, merchant.name = cluster.name →
        KeepsEvidence merchant cluster ∧ SideFree merchant cluster) ∧
      ¬ ∀ (mostCommon firstOfSet : List String → String)
        (classifications : String → Option Classification)
        (merchantResults patterns : List Finding),
        ∀ matched ∈ findCrossAccountMatches mostCommon patterns,
          matched.RepresentedIn (detectionResults mostCommon firstOfSet classifications
            merchantResults patterns) := by
  constructor
  · intro keeps
    have union := (keeps (foundIn "first" 1 0) (foundIn "second" 2 (1 / 2)) rfl).1.union 1
    revert union
    decide +kernel
  · intro represented
    have all := represented (fun names => names.headD "") (fun names => names.headD "")
      (fun _ => none) [] [foundIn "first" 1 (1 / 2), foundIn "second" 2 (1 / 2)]
    unfold CrossAccountMatch.RepresentedIn at all
    revert all
    decide +kernel

end FinanceSync.Subscriptions
