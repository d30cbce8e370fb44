import FinanceSync.Lib.Grouping
import FinanceSync.Sync.SecurityReferences

/-!
# The holdings stage of a sync

The stage resolves the securities of the holdings of a provider and folds the
rows of one security and one observation time into one before it hands them to
the writer.  Quantities and reported amounts are added up; everything else is
that of the first row, its currency included.
-/

namespace FinanceSync.Sync

open Lib

/-! ## Reported amounts -/

/-- An amount that a provider may leave out. -/
def Reported := Option ℚ
deriving DecidableEq

namespace Reported

/-- Add reported monetary values without inventing missing values. -/
def sumOptional : Reported → Reported → Reported
  | none, right => right
  | some left, none => some left
  | some left, some right => some (left + right)

theorem sumOptional_assoc (first second third : Reported) :
    sumOptional (sumOptional first second) third =
      sumOptional first (sumOptional second third) := by
  cases first with
  | none => rfl
  | some _ =>
      cases second with
      | none => rfl
      | some _ =>
          cases third with
          | none => rfl
          | some _ => exact congrArg some (add_assoc _ _ _)

theorem sumOptional_comm (left right : Reported) :
    sumOptional left right = sumOptional right left := by
  cases left with
  | none => cases right <;> rfl
  | some _ =>
      cases right with
      | none => rfl
      | some _ => exact congrArg some (add_comm _ _)

instance : Add Reported := ⟨sumOptional⟩

instance : Zero Reported := ⟨none⟩

instance : AddCommMonoid Reported where
  add_assoc := sumOptional_assoc
  add_comm := sumOptional_comm
  zero_add amount := by cases amount <;> rfl
  add_zero amount := by cases amount <;> rfl
  nsmul := nsmulRec

end Reported

/-! ## Holdings -/

/-- What the fold takes from the first row of a snapshot. -/
structure HoldingDetails where
  providerKey : String
  externalAccountId : String
  observedAt : Instant
  securityReference : SecurityReference
  costBasisCurrency : Option String := none
  currencyCode : String := "EUR"
  price : Option ℚ := none
  priceCurrency : Option String := none
  source : String := "provider_sync"
  providerMetadata : Option Json := none

/-- Normalised, provider-agnostic holding snapshot ready for upsert. -/
structure CanonicalHolding where
  details : HoldingDetails
  quantity : ℚ
  costBasis : Reported := none
  marketValue : Reported := none

/-- The first row with the amounts of the second added to it. -/
instance : Add CanonicalHolding where
  add existing holding :=
    { existing with
      quantity := existing.quantity + holding.quantity
      costBasis := existing.costBasis + holding.costBasis
      marketValue := existing.marketValue + holding.marketValue }

/-- What the writer answers for a reference: the id of the security it found, empty if that
has none, and the key of an unresolved security. -/
structure Resolution where
  securityId : Option String
  unresolvedKey : Option String

abbrev SnapshotKey := String × Instant

section Stage

variable (resolve : SecurityReference → Resolution)

/-- The snapshot that a holding belongs to. -/
def snapshotKey (holding : CanonicalHolding) : Option SnapshotKey :=
  match (resolve holding.details.securityReference).securityId with
  | none => none
  | some securityId =>
      if securityId = "" then none else some (securityId, holding.details.observedAt)

/-- The holdings that are resolved, with their snapshots. -/
def resolvedHoldings (holdings : List CanonicalHolding) : List (SnapshotKey × CanonicalHolding) :=
  holdings.filterMap fun holding => (snapshotKey resolve holding).map (·, holding)

/-- The rows that the stage hands to the writer, each with the security it belongs to. -/
def foldedHoldings (holdings : List CanonicalHolding) : List (SnapshotKey × CanonicalHolding) :=
  groupTotals (resolvedHoldings resolve holdings)

def unresolvedKeys (holdings : List CanonicalHolding) : List String :=
  (holdings.filterMap fun holding =>
    let answer := resolve holding.details.securityReference
    if answer.securityId.isNone then answer.unresolvedKey.filter (· ≠ "") else none).eraseDups

structure HoldingsStageResult where
  count : Nat
  unresolvedKeys : List String

/-- Resolve and persist holdings.  `persist` is the writer, which answers how many rows it
has written. -/
def runHoldingsStage (persist : List CanonicalHolding → List String → Nat)
    (holdings : List CanonicalHolding) : HoldingsStageResult :=
  let rows := foldedHoldings resolve holdings
  { count :=
      if rows.isEmpty then 0
      else persist (rows.map Prod.snd) (rows.map fun row => row.1.1)
    unresolvedKeys := unresolvedKeys resolve holdings }

end Stage

/-- The sum of what the entries of a snapshot and a currency report. -/
def reportedIn (amount : CanonicalHolding → Reported) (snapshot : SnapshotKey) (currency : String)
    (entries : List (SnapshotKey × CanonicalHolding)) : Reported :=
  ((entries.filter fun entry =>
    entry.1 = snapshot ∧ entry.2.details.currencyCode = currency).map fun entry =>
      amount entry.2).sum

/-- What folding promises: one row for each snapshot, with the totals of the rows it stands
for, in each currency, and whatever the order of the holdings. -/
structure PreservesTotals (resolve : SecurityReference → Resolution)
    (holdings : List CanonicalHolding) : Prop where
  distinct : ((foldedHoldings resolve holdings).map Prod.fst).Nodup
  snapshots : ∀ snapshot, snapshot ∈ (foldedHoldings resolve holdings).map Prod.fst ↔
    snapshot ∈ (resolvedHoldings resolve holdings).map Prod.fst
  quantity : ∀ row ∈ foldedHoldings resolve holdings,
    row.2.quantity = (((resolvedHoldings resolve holdings).filter fun entry =>
      entry.1 = row.1).map fun entry => entry.2.quantity).sum
  costBasis : ∀ snapshot currency,
    reportedIn CanonicalHolding.costBasis snapshot currency (foldedHoldings resolve holdings) =
      reportedIn CanonicalHolding.costBasis snapshot currency (resolvedHoldings resolve holdings)
  marketValue : ∀ snapshot currency,
    reportedIn CanonicalHolding.marketValue snapshot currency (foldedHoldings resolve holdings) =
      reportedIn CanonicalHolding.marketValue snapshot currency
        (resolvedHoldings resolve holdings)
  order : ∀ others : List CanonicalHolding, others.Perm holdings → ∀ row,
    row ∈ foldedHoldings resolve others ↔ row ∈ foldedHoldings resolve holdings

/-- The rows of one snapshot differ in nothing but the amounts that are added up. -/
def SnapshotsAgree (resolve : SecurityReference → Resolution)
    (holdings : List CanonicalHolding) : Prop :=
  ∀ first ∈ holdings, ∀ second ∈ holdings, ∀ snapshot,
    snapshotKey resolve first = some snapshot → snapshotKey resolve second = some snapshot →
      first.details = second.details

section Rows

variable {resolve : SecurityReference → Resolution} {holdings : List CanonicalHolding}

theorem mem_resolvedHoldings {entry : SnapshotKey × CanonicalHolding} :
    entry ∈ resolvedHoldings resolve holdings ↔
      entry.2 ∈ holdings ∧ snapshotKey resolve entry.2 = some entry.1 := by
  obtain ⟨snapshot, holding⟩ := entry
  simp only [resolvedHoldings, List.mem_filterMap, Option.map_eq_some_iff, Prod.mk.injEq]
  constructor
  · rintro ⟨other, otherMem, key, isKey, rfl, rfl⟩
    exact ⟨otherMem, isKey⟩
  · rintro ⟨isMem, isKey⟩
    exact ⟨holding, isMem, snapshot, isKey, rfl, rfl⟩

/-- A total of an additive amount is the sum over the rows of its snapshot. -/
theorem total_of_row {M : Type} [AddCommMonoid M] (amount : CanonicalHolding → M)
    (additive : ∀ first second, amount (first + second) = amount first + amount second)
    {row : SnapshotKey × CanonicalHolding} (isMem : row ∈ foldedHoldings resolve holdings) :
    amount row.2 = (((resolvedHoldings resolve holdings).filter fun entry =>
      entry.1 = row.1).map fun entry => amount entry.2).sum := by
  have inTotals : (row.1, amount row.2) ∈ groupTotals
      ((resolvedHoldings resolve holdings).map fun entry => (entry.1, amount entry.2)) := by
    rw [← map_groupTotals additive]
    exact List.mem_map_of_mem (f := fun entry => (entry.1, amount entry.2)) isMem
  have total := ((mem_groupTotals _).mp inTotals).2
  refine total.trans ?_
  rw [sumWhere, List.map_map]
  induction resolvedHoldings resolve holdings with
  | nil => rfl
  | cons entry rest ih =>
      by_cases here : entry.1 = row.1
      · simp [here, ih]
      · simp [here, ih]

theorem first_of_row {row : SnapshotKey × CanonicalHolding}
    (isMem : row ∈ foldedHoldings resolve holdings) :
    ∃ first ∈ holdings, snapshotKey resolve first = some row.1 ∧ row.2.details = first.details := by
  have keeps : ∀ first second : CanonicalHolding,
      (first + second).details = first.details := fun _ _ => rfl
  obtain ⟨first, found, same⟩ := first_groupTotals keeps _ row isMem
  obtain ⟨firstMem, isKey⟩ := mem_resolvedHoldings.mp (List.mem_of_find?_eq_some found)
  have sameKey := List.find?_some found
  rw [decide_eq_true_eq] at sameKey
  exact ⟨first.2, firstMem, sameKey ▸ isKey, same⟩

/-- The first of the resolved holdings gives its snapshot the details of the row. -/
theorem details_of_first {first : CanonicalHolding} {rest : List CanonicalHolding}
    {snapshot : SnapshotKey} (isKey : snapshotKey resolve first = some snapshot)
    {row : SnapshotKey × CanonicalHolding}
    (isMem : row ∈ foldedHoldings resolve (first :: rest)) (ofSnapshot : row.1 = snapshot) :
    row.2.details = first.details := by
  have keeps : ∀ first second : CanonicalHolding,
      (first + second).details = first.details := fun _ _ => rfl
  obtain ⟨found, isFound, same⟩ := first_groupTotals keeps _ row isMem
  have isFirst : found = (snapshot, first) := by
    rw [resolvedHoldings, List.filterMap_cons_some (b := (snapshot, first)) (by rw [isKey]; rfl),
      List.find?_cons_of_pos (by simp [ofSnapshot])] at isFound
    exact (Option.some.inj isFound).symm
  rw [same, isFirst]

theorem exists_row {snapshot : SnapshotKey} {holding : CanonicalHolding}
    (isMem : holding ∈ holdings) (isKey : snapshotKey resolve holding = some snapshot) :
    ∃ row ∈ foldedHoldings resolve holdings, row.1 = snapshot := by
  have inKeys : snapshot ∈ (foldedHoldings resolve holdings).map Prod.fst := by
    have isResolved : (snapshot, holding) ∈ resolvedHoldings resolve holdings :=
      mem_resolvedHoldings.mpr ⟨isMem, isKey⟩
    rw [foldedHoldings, mem_keys_groupTotals]
    exact List.mem_map_of_mem isResolved
  obtain ⟨row, rowMem, isSnapshot⟩ := List.mem_map.mp inKeys
  exact ⟨row, rowMem, isSnapshot⟩

theorem nodup_foldedHoldings (holdings : List CanonicalHolding) :
    ((foldedHoldings resolve holdings).map Prod.fst).Nodup :=
  nodup_keys_groupTotals _

/-- Rows that do not depend on the order come from snapshots that agree. -/
theorem snapshotsAgree_of_order (sameRows : ∀ others : List CanonicalHolding,
    others.Perm holdings → ∀ row,
      row ∈ foldedHoldings resolve others ↔ row ∈ foldedHoldings resolve holdings) :
    SnapshotsAgree resolve holdings := by
  -- Whichever holding comes first gives the only row of the snapshot its details.
  have asFirst : ∀ first ∈ holdings, ∀ snapshot, snapshotKey resolve first = some snapshot →
      ∃ row ∈ foldedHoldings resolve holdings, row.1 = snapshot ∧
        row.2.details = first.details := by
    intro first firstMem snapshot isKey
    obtain ⟨before, after, split⟩ := List.append_of_mem firstMem
    have moved : (first :: (before ++ after)).Perm holdings := by
      rw [split]
      exact List.perm_middle.symm
    obtain ⟨row, rowMem, ofSnapshot⟩ := exists_row (List.mem_cons_self) isKey
    exact ⟨row, (sameRows _ moved row).mp rowMem, ofSnapshot,
      details_of_first isKey rowMem ofSnapshot⟩
  intro first firstMem second secondMem snapshot firstKey secondKey
  obtain ⟨row, rowMem, ofSnapshot, firstDetails⟩ := asFirst first firstMem snapshot firstKey
  obtain ⟨other, otherMem, alsoOf, secondDetails⟩ := asFirst second secondMem snapshot secondKey
  have sameRow := List.inj_on_of_nodup_map (nodup_foldedHoldings holdings) rowMem otherMem
    (ofSnapshot.trans alsoOf.symm)
  rw [← firstDetails, ← secondDetails, sameRow]

/-- Where snapshots agree, a row is known from the holdings of its snapshot. -/
theorem mem_foldedHoldings_iff (agree : SnapshotsAgree resolve holdings)
    {row : SnapshotKey × CanonicalHolding} :
    row ∈ foldedHoldings resolve holdings ↔
      (∃ holding ∈ holdings, snapshotKey resolve holding = some row.1 ∧
        row.2.details = holding.details) ∧
      row.2.quantity = (((resolvedHoldings resolve holdings).filter fun entry =>
        entry.1 = row.1).map fun entry => entry.2.quantity).sum ∧
      row.2.costBasis = (((resolvedHoldings resolve holdings).filter fun entry =>
        entry.1 = row.1).map fun entry => entry.2.costBasis).sum ∧
      row.2.marketValue = (((resolvedHoldings resolve holdings).filter fun entry =>
        entry.1 = row.1).map fun entry => entry.2.marketValue).sum := by
  constructor
  · intro isMem
    refine ⟨first_of_row isMem, ?_, ?_, ?_⟩
    · exact total_of_row CanonicalHolding.quantity (fun _ _ => rfl) isMem
    · exact total_of_row CanonicalHolding.costBasis (fun _ _ => rfl) isMem
    · exact total_of_row CanonicalHolding.marketValue (fun _ _ => rfl) isMem
  · rintro ⟨⟨holding, holdingMem, isKey, details⟩, quantity, costBasis, marketValue⟩
    obtain ⟨other, otherMem, ofSnapshot⟩ := exists_row holdingMem isKey
    obtain ⟨first, firstMem, firstKey, firstDetails⟩ := first_of_row otherMem
    have sameDetails : row.2.details = other.2.details := by
      rw [details, firstDetails]
      exact agree holding holdingMem first firstMem row.1 isKey (ofSnapshot ▸ firstKey)
    have sameQuantity : row.2.quantity = other.2.quantity := by
      rw [quantity, ← ofSnapshot]
      exact (total_of_row CanonicalHolding.quantity (fun _ _ => rfl) otherMem).symm
    have sameCostBasis : row.2.costBasis = other.2.costBasis := by
      rw [costBasis, ← ofSnapshot]
      exact (total_of_row CanonicalHolding.costBasis (fun _ _ => rfl) otherMem).symm
    have sameMarketValue : row.2.marketValue = other.2.marketValue := by
      rw [marketValue, ← ofSnapshot]
      exact (total_of_row CanonicalHolding.marketValue (fun _ _ => rfl) otherMem).symm
    have same : row = other := by
      obtain ⟨snapshot, holding⟩ := row
      obtain ⟨otherSnapshot, otherHolding⟩ := other
      obtain ⟨_, _, _, _⟩ := holding
      obtain ⟨_, _, _, _⟩ := otherHolding
      simp_all
    rw [same]
    exact otherMem

/-! ## Currencies -/

/-- A sum over a snapshot whose entries are all in one currency. -/
theorem reportedIn_of_currency (amount : CanonicalHolding → Reported) {snapshot : SnapshotKey}
    {single : String} (currency : String) {entries : List (SnapshotKey × CanonicalHolding)}
    (inSingle : ∀ entry ∈ entries, entry.1 = snapshot →
      entry.2.details.currencyCode = single) :
    reportedIn amount snapshot currency entries =
      if single = currency then
        sumWhere (· = snapshot) (entries.map fun entry => (entry.1, amount entry.2))
      else 0 := by
  induction entries with
  | nil => simp [reportedIn]
  | cons entry rest ih =>
      have restSum := ih fun other otherMem =>
        inSingle other (List.mem_cons_of_mem _ otherMem)
      simp only [reportedIn, Bool.decide_and] at restSum ⊢
      by_cases here : entry.1 = snapshot
      · have isSingle := inSingle entry List.mem_cons_self here
        by_cases same : single = currency
        · simp [here, isSingle, same, restSum]
        · rw [if_neg same] at restSum
          simp [here, isSingle, same, restSum]
      · simp [here, restSum]

/-- Rows in the currency of their snapshot report what the holdings report. -/
theorem reportedIn_folded (agree : SnapshotsAgree resolve holdings)
    (amount : CanonicalHolding → Reported)
    (additive : ∀ first second, amount (first + second) = amount first + amount second)
    (snapshot : SnapshotKey) (currency : String) :
    reportedIn amount snapshot currency (foldedHoldings resolve holdings) =
      reportedIn amount snapshot currency (resolvedHoldings resolve holdings) := by
  have oneCurrency : ∃ single, ∀ holding ∈ holdings,
      snapshotKey resolve holding = some snapshot → holding.details.currencyCode = single := by
    by_cases any : ∃ holding ∈ holdings, snapshotKey resolve holding = some snapshot
    · obtain ⟨holding, holdingMem, isKey⟩ := any
      refine ⟨holding.details.currencyCode, fun other otherMem otherKey => ?_⟩
      rw [agree other otherMem holding holdingMem snapshot otherKey isKey]
    · exact ⟨"", fun holding holdingMem isKey => absurd ⟨holding, holdingMem, isKey⟩ any⟩
  obtain ⟨single, inSingle⟩ := oneCurrency
  have rowsInSingle : ∀ row ∈ foldedHoldings resolve holdings, row.1 = snapshot →
      row.2.details.currencyCode = single := by
    intro row rowMem ofSnapshot
    obtain ⟨first, firstMem, isKey, details⟩ := first_of_row rowMem
    rw [details]
    exact inSingle first firstMem (ofSnapshot ▸ isKey)
  have entriesInSingle : ∀ entry ∈ resolvedHoldings resolve holdings, entry.1 = snapshot →
      entry.2.details.currencyCode = single := by
    intro entry entryMem ofSnapshot
    obtain ⟨holdingMem, isKey⟩ := mem_resolvedHoldings.mp entryMem
    exact inSingle _ holdingMem (ofSnapshot ▸ isKey)
  rw [reportedIn_of_currency amount currency rowsInSingle,
    reportedIn_of_currency amount currency entriesInSingle, foldedHoldings,
    map_groupTotals additive, sumWhere_groupTotals]

/-- Folding preserves the totals, in any order, exactly if the rows of a snapshot differ in
nothing else. -/
theorem preservesTotals_iff (resolve : SecurityReference → Resolution)
    (holdings : List CanonicalHolding) :
    PreservesTotals resolve holdings ↔ SnapshotsAgree resolve holdings := by
  constructor
  · intro preserves
    exact snapshotsAgree_of_order preserves.order
  · intro agree
    refine
      { distinct := nodup_foldedHoldings holdings
        snapshots := fun snapshot => mem_keys_groupTotals _
        quantity := fun row isMem =>
          total_of_row CanonicalHolding.quantity (fun _ _ => rfl) isMem
        costBasis := reportedIn_folded agree CanonicalHolding.costBasis fun _ _ => rfl
        marketValue := reportedIn_folded agree CanonicalHolding.marketValue fun _ _ => rfl
        order := ?_ }
    intro others same row
    have othersAgree : SnapshotsAgree resolve others := by
      intro first firstMem second secondMem
      exact agree first (same.mem_iff.mp firstMem) second (same.mem_iff.mp secondMem)
    have sums : ∀ {M : Type} [AddCommMonoid M] (amount : CanonicalHolding → M),
        (((resolvedHoldings resolve others).filter fun entry => entry.1 = row.1).map fun entry =>
          amount entry.2).sum =
        (((resolvedHoldings resolve holdings).filter fun entry => entry.1 = row.1).map
          fun entry => amount entry.2).sum := by
      intro M _ amount
      exact (((same.filterMap _).filter _).map _).sum_eq
    rw [mem_foldedHoldings_iff othersAgree, mem_foldedHoldings_iff agree, sums, sums, sums]
    simp only [same.mem_iff]

end Rows

/-- A position of 3 units that cost 30 in a currency. -/
def position (venue currencyCode : String) : CanonicalHolding where
  details :=
    { providerKey := "trading212"
      externalAccountId := "main"
      observedAt := 0
      securityReference := { ticker := some "FUND", venue := some venue }
      currencyCode }
  quantity := 3
  costBasis := some (30 : ℚ)

/-- Costs in dollars are added to costs in euros. -/
theorem mixed_currencies_added :
    ¬ PreservesTotals (fun _ => ⟨some "fund", none⟩)
      [position "XAMS" "EUR", position "XNAS" "USD"] := by
  intro preserves
  exact absurd (preserves.costBasis ("fund", 0) "EUR") (by decide +kernel)

end FinanceSync.Sync
