import FinanceSync.Data.Enums
import FinanceSync.Data.Values
import FinanceSync.Lib.GreedyPairs
import FinanceSync.Lib.Table
import Mathlib.Algebra.Order.Group.Unbundled.Abs
import Mathlib.Data.Prod.Lex

/-!
# Unlabeled transfers between Bunq accounts

Some movements between a user's own Bunq accounts arrive as two payments without
any description, or with the same salary description on both.  They are paired
one-to-one by opposite amounts within a minute, each outgoing row with the
nearest incoming one, and taken out of the export.
-/

namespace FinanceSync.Sync

open Lib

/-- The columns of a transaction that the pairing reads and writes. -/
structure BunqTransaction where
  id : Uuid
  tenantId : Uuid
  providerKey : String
  connectionId : Option Uuid
  accountId : Uuid
  status : TransactionStatus
  counterpartyAccountReference : Option String
  description : Option String
  amount : Decimal
  occurredAt : Instant
  providerMetadata : Option (List (String × Json))
  transactionType : TransactionType
  exportStatus : String
  classificationSource : Option String
  revision : Nat

abbrev BunqTransactions := Table BunqTransaction BunqTransaction.id

/-- What Python makes of texts and values. -/
structure TextFunctions where
  casefold : String → String
  isoformat : Instant → String
  decimalText : Decimal → String
  uuidText : Uuid → String

/-! ## Candidates -/

/-- `description ILIKE 'salaris %'` -/
def likeSalaris (description : String) : Bool :=
  "salaris ".toList.isPrefixOf (description.toList.map Char.toLower)

/-- The rows that the query selects. -/
def isUnlabeled (tenantId : Uuid) (connectionId : Option Uuid) (row : BunqTransaction) : Bool :=
  row.tenantId = tenantId && row.providerKey = "bunq" &&
    (row.status = .booked || row.status = .pending) &&
    (row.counterpartyAccountReference.getD "" = "") &&
    (match row.description with
      | none => true
      | some description => description = "" || likeSalaris description) &&
    row.connectionId = connectionId

/-- `(row.description or "").strip()` -/
def label (row : BunqTransaction) : String :=
  String.ofList (strip (row.description.getD "").toList)

def oneMinute : Int := 60 * 1000000

section Pairing

variable (texts : TextFunctions)

/-- Both rows without a description, or both with the same salary description. -/
def sameLabel (row candidate : BunqTransaction) : Bool :=
  (label row = "" && label candidate = "") ||
    (texts.casefold (label row) = texts.casefold (label candidate) &&
      "salaris ".toList.isPrefixOf (texts.casefold (label row)).toList)

def isPartner (row candidate : BunqTransaction) : Bool :=
  candidate.id ≠ row.id && candidate.accountId ≠ row.accountId &&
    candidate.amount.value = -row.amount.value &&
    |candidate.occurredAt - row.occurredAt| ≤ oneMinute && 0 < candidate.amount.value &&
    sameLabel texts row candidate

/-- The distance in time and the id. -/
def nearness (row candidate : BunqTransaction) : Int ×ₗ Uuid :=
  toLex (|candidate.occurredAt - row.occurredAt|, candidate.id)

/-- The candidate with the least distance in time, and of these the one with the least id. -/
def nearest (row : BunqTransaction) (candidates : List BunqTransaction) :
    Option BunqTransaction :=
  ((OrderBy.stable (nearness row)).sort candidates).head?

/-- The rows in the order in which they are gone through. -/
def unlabeledRows (transactions : BunqTransactions) (tenantId : Uuid)
    (connectionId : Option Uuid) : List BunqTransaction :=
  (OrderBy.stable fun row : BunqTransaction => toLex (row.occurredAt, row.id)).sort
    (transactions.rows.filter (isUnlabeled tenantId connectionId))

/-- The pairs of an outgoing and an incoming row. -/
def unlabeledPairs (transactions : BunqTransactions) (tenantId : Uuid)
    (connectionId : Option Uuid) : List (BunqTransaction × BunqTransaction) :=
  GreedyPairs.greedyPairs BunqTransaction.id (fun row => row.amount.value < 0) (isPartner texts)
    nearest (unlabeledRows transactions tenantId connectionId)

/-! ## Exclusion -/

/-- `metadata.update(entries)` for a dict. -/
def dictUpdate (entries metadata : List (String × Json)) : List (String × Json) :=
  entries.foldl
    (fun fields entry =>
      if fields.any (·.1 = entry.1) then
        fields.map fun field => if field.1 = entry.1 then entry else field
      else fields ++ [entry])
    metadata

def pairKey (row partner : BunqTransaction) : String :=
  "bunq-easy-budgeting-pair:" ++ texts.isoformat row.occurredAt ++ ":" ++
    texts.decimalText row.amount.abs ++ ":" ++
    texts.uuidText (min row.accountId partner.accountId) ++ ":" ++
    texts.uuidText (max row.accountId partner.accountId)

/-- A row of a pair as the call leaves it. -/
def excluded (key : String) (item : BunqTransaction) : BunqTransaction :=
  { item with
    providerMetadata := some (dictUpdate
      [("internal_transfer", .bool true),
        ("internal_transfer_detection", .string "bunq_easy_budgeting_pair"),
        ("internal_transfer_pair_key", .string key)]
      (item.providerMetadata.getD []))
    transactionType := .transfer
    exportStatus := "excluded"
    classificationSource := some "bunq_easy_budgeting_pair"
    revision := item.revision + 1 }

/-- The new versions of the rows of all pairs. -/
def excludedRows (pairs : List (BunqTransaction × BunqTransaction)) : List BunqTransaction :=
  pairs.flatMap fun pair =>
    [excluded (pairKey texts pair.1 pair.2) pair.1, excluded (pairKey texts pair.1 pair.2) pair.2]

/-- Exclude Bunq's unlabeled cross-account Easy Budgeting legs. -/
def excludeUnlabeledBunqTransferPairs (transactions : BunqTransactions) (tenantId : Uuid)
    (connectionId : Option Uuid) : BunqTransactions × Nat :=
  let changed := excludedRows texts (unlabeledPairs texts transactions tenantId connectionId)
  (transactions.saveAll changed, changed.length)

end Pairing

/-! ## The matching -/

/-- An outgoing and an incoming row that may be paired. -/
structure Eligible (texts : TextFunctions) (outgoing incoming : BunqTransaction) : Prop where
  negative : outgoing.amount.value < 0
  positive : 0 < incoming.amount.value
  accounts : outgoing.accountId ≠ incoming.accountId
  opposite : outgoing.amount.value + incoming.amount.value = 0
  close : |incoming.occurredAt - outgoing.occurredAt| ≤ oneMinute
  labels : label outgoing = "" ∧ label incoming = "" ∨
    texts.casefold (label outgoing) = texts.casefold (label incoming) ∧
      "salaris ".toList <+: (texts.casefold (label outgoing)).toList

/-- What one call promises: it changes a disjoint union of eligible pairs of the rows it
selects, and leaves no two of them that are eligible. -/
structure PairsMaximally (texts : TextFunctions) (transactions : BunqTransactions)
    (tenantId : Uuid) (connectionId : Option Uuid)
    (pairs : List (BunqTransaction × BunqTransaction)) : Prop where
  disjoint : (pairs.flatMap fun pair => [pair.1.id, pair.2.id]).Nodup
  eligible : ∀ pair ∈ pairs,
    isUnlabeled tenantId connectionId pair.1 ∧ isUnlabeled tenantId connectionId pair.2 ∧
      Eligible texts pair.1 pair.2
  changed : ∀ row ∈ transactions.rows,
    row ∉ (excludeUnlabeledBunqTransferPairs texts transactions tenantId
        connectionId).1.rows ↔ ∃ pair ∈ pairs, row = pair.1 ∨ row = pair.2
  counted : (excludeUnlabeledBunqTransferPairs texts transactions tenantId connectionId).2 =
    2 * pairs.length
  maximal : ∀ first ∈ transactions.rows, ∀ second ∈ transactions.rows,
    isUnlabeled tenantId connectionId first → isUnlabeled tenantId connectionId second →
      first ∈ (excludeUnlabeledBunqTransferPairs texts transactions tenantId
        connectionId).1.rows →
      second ∈ (excludeUnlabeledBunqTransferPairs texts transactions tenantId
        connectionId).1.rows →
      ¬ Eligible texts first second

section Matching

variable {texts : TextFunctions} {transactions : BunqTransactions} {tenantId : Uuid}
  {connectionId : Option Uuid}

theorem eligible_of_isPartner {row candidate : BunqTransaction} (negative : row.amount.value < 0)
    (partner : isPartner texts row candidate) : Eligible texts row candidate := by
  simp only [isPartner, sameLabel, Bool.and_eq_true, Bool.or_eq_true, decide_eq_true_eq,
    List.isPrefixOf_iff_prefix] at partner
  obtain ⟨⟨⟨⟨⟨-, accounts⟩, opposite⟩, close⟩, positive⟩, labels⟩ := partner
  exact
    { negative, positive, close, labels
      accounts := accounts.symm
      opposite := by rw [opposite]; exact add_neg_cancel _ }

theorem isPartner_of_eligible {row candidate : BunqTransaction}
    (rowMem : row ∈ transactions.rows) (candidateMem : candidate ∈ transactions.rows)
    (eligible : Eligible texts row candidate) : isPartner texts row candidate := by
  have ne : candidate.id ≠ row.id := by
    intro same
    have sameRow := transactions.eq_of_key_eq candidateMem rowMem same
    exact eligible.accounts (congrArg BunqTransaction.accountId sameRow).symm
  have opposite : candidate.amount.value = -row.amount.value :=
    eq_neg_of_add_eq_zero_right eligible.opposite
  simp only [isPartner, sameLabel, Bool.and_eq_true, Bool.or_eq_true, decide_eq_true_eq,
    List.isPrefixOf_iff_prefix]
  exact ⟨⟨⟨⟨⟨ne, eligible.accounts.symm⟩, opposite⟩, eligible.close⟩,
    eligible.positive⟩, eligible.labels⟩

theorem nearest_chooses : GreedyPairs.Chooses nearest where
  mem := fun chosen => (OrderBy.mem_sort _).mp (List.mem_of_head? chosen)
  none := by
    intro row candidates nothing
    have same := (OrderBy.stable (nearness row)).perm candidates
    rw [List.head?_eq_none_iff.mp nothing] at same
    exact same.nil_eq.symm

theorem mem_unlabeledRows {row : BunqTransaction} :
    row ∈ unlabeledRows transactions tenantId connectionId ↔
      row ∈ transactions.rows ∧ isUnlabeled tenantId connectionId row := by
  rw [unlabeledRows, OrderBy.mem_sort, List.mem_filter]

/-! ## The rows of the pairs -/

theorem of_mem_unlabeledPairs {pair : BunqTransaction × BunqTransaction}
    (isMem : pair ∈ unlabeledPairs texts transactions tenantId connectionId) :
    (pair.1 ∈ transactions.rows ∧ isUnlabeled tenantId connectionId pair.1) ∧
      (pair.2 ∈ transactions.rows ∧ isUnlabeled tenantId connectionId pair.2) ∧
      Eligible texts pair.1 pair.2 := by
  obtain ⟨first, second, isStart, isFit⟩ :=
    GreedyPairs.of_mem_greedyPairs nearest_chooses _ isMem
  exact ⟨mem_unlabeledRows.mp first, mem_unlabeledRows.mp second,
    eligible_of_isPartner (of_decide_eq_true isStart) isFit⟩

theorem nodup_ids_unlabeledPairs :
    ((unlabeledPairs texts transactions tenantId connectionId).flatMap fun pair =>
      [pair.1.id, pair.2.id]).Nodup := by
  apply GreedyPairs.nodup_pairedKeys nearest_chooses
  intro row candidate partner same
  simp [isPartner, same] at partner

theorem ids_excludedRows (pairs : List (BunqTransaction × BunqTransaction)) :
    (excludedRows texts pairs).map BunqTransaction.id =
      pairs.flatMap fun pair => [pair.1.id, pair.2.id] := by
  simp only [excludedRows, List.map_flatMap]
  rfl

theorem mem_excludedRows {pairs : List (BunqTransaction × BunqTransaction)}
    {row : BunqTransaction} (isMem : row ∈ excludedRows texts pairs) :
    ∃ pair ∈ pairs, ∃ old, (old = pair.1 ∨ old = pair.2) ∧ row.id = old.id ∧
      row.revision = old.revision + 1 := by
  obtain ⟨pair, pairMem, isRow⟩ := List.mem_flatMap.mp isMem
  rw [List.mem_cons, List.mem_singleton] at isRow
  rcases isRow with rfl | rfl
  · exact ⟨pair, pairMem, pair.1, .inl rfl, rfl, rfl⟩
  · exact ⟨pair, pairMem, pair.2, .inr rfl, rfl, rfl⟩

/-- A call changes exactly the rows of its pairs. -/
theorem changed_iff {row : BunqTransaction} (stored : row ∈ transactions.rows) :
    row ∉ (excludeUnlabeledBunqTransferPairs texts transactions tenantId connectionId).1.rows ↔
      ∃ pair ∈ unlabeledPairs texts transactions tenantId connectionId,
        row = pair.1 ∨ row = pair.2 := by
  have nodup : ((excludedRows texts (unlabeledPairs texts transactions tenantId
      connectionId)).map BunqTransaction.id).Nodup := by
    rw [ids_excludedRows]
    exact nodup_ids_unlabeledPairs
  have known : ∀ new ∈ excludedRows texts (unlabeledPairs texts transactions tenantId
      connectionId), new.id ∈ transactions.rows.map BunqTransaction.id := by
    intro new newMem
    obtain ⟨pair, pairMem, old, isOld, sameId, -⟩ := mem_excludedRows newMem
    obtain ⟨first, second, -⟩ := of_mem_unlabeledPairs pairMem
    rw [sameId]
    rcases isOld with rfl | rfl
    · exact List.mem_map_of_mem first.1
    · exact List.mem_map_of_mem second.1
  constructor
  · intro gone
    by_contra outside
    apply gone
    apply Table.mem_saveAll_of_key_ne _ stored
    intro new newMem same
    obtain ⟨pair, pairMem, old, isOld, sameId, -⟩ := mem_excludedRows newMem
    obtain ⟨first, second, -⟩ := of_mem_unlabeledPairs pairMem
    have oldStored : old ∈ transactions.rows := by
      rcases isOld with rfl | rfl
      · exact first.1
      · exact second.1
    have isRow := transactions.eq_of_key_eq stored oldStored (same.trans sameId)
    exact outside ⟨pair, pairMem, isRow ▸ isOld⟩
  · rintro ⟨pair, pairMem, isOld⟩ stays
    have newVersion : excluded (pairKey texts pair.1 pair.2) row ∈
        excludedRows texts (unlabeledPairs texts transactions tenantId connectionId) := by
      apply List.mem_flatMap.mpr
      refine ⟨pair, pairMem, ?_⟩
      rcases isOld with rfl | rfl
      · exact List.mem_cons_self
      · exact List.mem_cons_of_mem _ (List.mem_singleton.mpr rfl)
    have newStored := Table.mem_saveAll _ nodup known _ newVersion
    have same := (transactions.saveAll _).eq_of_key_eq stays newStored rfl
    have revisions : row.revision = row.revision + 1 := congrArg BunqTransaction.revision same
    omega

/-- One call changes a disjoint union of eligible pairs, and leaves no eligible pair. -/
theorem exclude_pairsMaximally (texts : TextFunctions) (transactions : BunqTransactions)
    (tenantId : Uuid) (connectionId : Option Uuid) :
    PairsMaximally texts transactions tenantId connectionId
      (unlabeledPairs texts transactions tenantId connectionId) := by
  refine
    { disjoint := nodup_ids_unlabeledPairs
      eligible := ?_
      changed := fun row stored => changed_iff stored
      counted := ?_
      maximal := ?_ }
  · intro pair pairMem
    obtain ⟨first, second, eligible⟩ := of_mem_unlabeledPairs pairMem
    exact ⟨first.2, second.2, eligible⟩
  · rw [excludeUnlabeledBunqTransferPairs, excludedRows, List.length_flatMap]
    simp [Nat.mul_comm]
  · intro first firstMem second secondMem firstSelected secondSelected firstStays secondStays
      eligible
    have unpaired : ∀ row ∈ transactions.rows,
        row ∈ (excludeUnlabeledBunqTransferPairs texts transactions tenantId
          connectionId).1.rows →
        row.id ∉ GreedyPairs.pairedKeys BunqTransaction.id
          (unlabeledPairs texts transactions tenantId connectionId) := by
      intro row rowMem stays paired
      obtain ⟨pair, pairMem, isId⟩ := List.mem_flatMap.mp paired
      obtain ⟨firstOf, secondOf, -⟩ := of_mem_unlabeledPairs pairMem
      rw [List.mem_cons, List.mem_singleton] at isId
      refine (changed_iff rowMem).mpr ⟨pair, pairMem, ?_⟩ stays
      rcases isId with isFirst | isSecond
      · exact .inl (transactions.eq_of_key_eq rowMem firstOf.1 isFirst)
      · exact .inr (transactions.eq_of_key_eq rowMem secondOf.1 isSecond)
    have onePaired : first.id ∈ GreedyPairs.pairedKeys BunqTransaction.id
          (unlabeledPairs texts transactions tenantId connectionId) ∨
        second.id ∈ GreedyPairs.pairedKeys BunqTransaction.id
          (unlabeledPairs texts transactions tenantId connectionId) :=
      GreedyPairs.maximal nearest_chooses _
        (mem_unlabeledRows.mpr ⟨firstMem, firstSelected⟩)
        (mem_unlabeledRows.mpr ⟨secondMem, secondSelected⟩)
        (decide_eq_true eligible.negative) (isPartner_of_eligible firstMem secondMem eligible)
    rcases onePaired with firstPaired | secondPaired
    · exact unpaired first firstMem firstStays firstPaired
    · exact unpaired second secondMem secondStays secondPaired

end Matching

end FinanceSync.Sync
