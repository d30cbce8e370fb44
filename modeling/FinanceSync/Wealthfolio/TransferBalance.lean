import FinanceSync.Lib.Markers
import FinanceSync.Lib.OppositePairs
import FinanceSync.Wealthfolio.Preflight

/-!
# The balance of transfers

The legs of transfers are grouped by currency, pairing key, date and the text of the
absolute amount, and the legs of a group are reported unless it has legs of both
signs.  Data health pairs query rows on its own before, by the numbers, and gives the
two rows of a pair a key of theirs.
-/

namespace FinanceSync.Wealthfolio.TransferBalance

open Lib
open OppositePairs

/-! ## The stream -/

/-- A transaction with its amount as it is spelled.  Amounts have at most 24 digits,
which `abs` keeps. -/
structure StreamTransaction extends Transaction where
  spelled : Decimal
  spelled_value : spelled.value = amount

/-- `str(abs(amount or Decimal(0)))` -/
def spelledAmount (txn : StreamTransaction) : Int × Int :=
  (if txn.amount = 0 then 0 else txn.spelled.abs).text

/-- The key of `transfers`. -/
def streamKey (txn : StreamTransaction) : String × String × Int × Int × Int :=
  (txn.currencyCode, pairingKey txn.toTransaction, Instant.date txn.occurredAt, spelledAmount txn)

/-- A transfer with a pairing key and both legs in this account. -/
def isPaired (txn : StreamTransaction) : Bool :=
  txn.transactionType = .transfer ∧ pairingKey txn.toTransaction ≠ "" ∧
    isPairedHere txn.toTransaction

/-- A transfer without a pairing key. -/
def lacksKey (txn : StreamTransaction) : Bool :=
  txn.transactionType = .transfer ∧ pairingKey txn.toTransaction = "" ∧
    isPairedHere txn.toTransaction

/-- The transfers of a group have legs of both signs. -/
def isBalanced (rows : List StreamTransaction) : Bool :=
  rows.any (0 < ·.amount) && rows.any (·.amount < 0)

/-- The warnings of the groups. -/
def groupFindings (transactions : List StreamTransaction) : List PreflightFinding :=
  (groupsOf streamKey (transactions.filter isPaired)).flatMap fun group =>
    group.2.flatMap fun txn => findingIf txn.toTransaction "unbalanced_transfer" .warning
      "transfer has no matched opposite-signed leg"
      (group.2.length < 2 || !isBalanced group.2)

/-- `validate_transaction_stream` -/
def validateTransactionStream (transactions : List StreamTransaction) : List PreflightFinding :=
  (transactions.flatMap fun txn =>
    validateActivitySemantics txn.toTransaction ++
      findingIf txn.toTransaction "unbalanced_transfer" .warning
        "transfer has no provider or counterparty reference" (lacksKey txn)) ++
    groupFindings transactions

/-! ## Query rows -/

/-- What data health reads of a transfer; a row of six values has no id. -/
structure QueryRow where
  recordId : Option String
  amount : Option Decimal
  currency : String
  occurredOn : Int

structure TransferRow where
  index : Nat
  recordId : String
  amount : Option Decimal
  currency : String
  occurredOn : Int

/-- The rows with their places; a row of fewer values is left out. -/
def normalizedRows (rows : List (Option QueryRow)) : List TransferRow :=
  rows.zipIdx.filterMap fun (row, index) => row.map fun row =>
    { index
      recordId := row.recordId.getD ("transfer-row:" ++ toString index)
      amount := row.amount
      currency := row.currency
      occurredOn := row.occurredOn }

/-- The amount of a row, zero without one. -/
def TransferRow.value (row : TransferRow) : ℚ := (row.amount.getD 0).value

def startsPair (row : TransferRow) : Bool := row.value ≠ 0

/-- A row that is taken as the other leg. -/
def fitsRow (row candidate : TransferRow) : Bool :=
  candidate.value ≠ 0 ∧ candidate.value * row.value < 0 ∧ candidate.currency = row.currency ∧
    candidate.occurredOn = row.occurredOn ∧ |candidate.value| = |row.value|

/-- The rows that are paired, each with the first later row that fits. -/
def rowPairs (rows : List TransferRow) : List (TransferRow × TransferRow) :=
  pairOpposites (·.index) startsPair fitsRow rows []

/-- The key of a pair. -/
def pairKey (pair : TransferRow × TransferRow) : String :=
  "query-transfer:" ++ toString (min pair.1.index pair.2.index)

/-- `pair_keys.get(index)` -/
def rowKey (pairs : List (TransferRow × TransferRow)) (row : TransferRow) : Option String :=
  (pairs.find? fun pair => pair.1.index = row.index ∨ pair.2.index = row.index).map pairKey

/-- The transfer that stands for a row. -/
def streamRow (pairs : List (TransferRow × TransferRow)) (row : TransferRow) :
    StreamTransaction where
  id := row.recordId
  tenantId := ""
  providerKey := ""
  externalTransactionId := ""
  accountId := ""
  amount := row.value
  currencyCode := row.currency
  occurredAt := Instant.days row.occurredOn
  transactionType := .transfer
  providerMetadataContract := some (.object [])
  counterpartyAccountReference := rowKey pairs row
  spelled := row.amount.getD 0
  spelled_value := rfl

/-- `validate_transfer_rows` -/
def validateTransferRows (rows : List (Option QueryRow)) : List PreflightFinding :=
  let rows := normalizedRows rows
  (validateTransactionStream (rows.map (streamRow (rowPairs rows)))).filter fun finding =>
    finding.category ∈ ["unbalanced_transfer", "incomplete_transaction"]

/-! ## Reports -/

/-- How many findings report a record as unbalanced. -/
def reported (findings : List PreflightFinding) (records : List String) : Nat :=
  findings.countP fun finding =>
    finding.category = "unbalanced_transfer" ∧ finding.recordId ∈ records

/-- The group of a transfer. -/
def groupOf (transactions : List StreamTransaction) (txn : StreamTransaction) :
    List StreamTransaction :=
  (transactions.filter isPaired).filter fun other => streamKey other = streamKey txn

/-- A leg in this account without a pairing key, or without an opposite leg in its group. -/
def isOpenLeg (transactions : List StreamTransaction) (txn : StreamTransaction) : Bool :=
  lacksKey txn || isPaired txn && !isBalanced (groupOf transactions txn)

theorem category_of_semantic {txn : Transaction} {finding : PreflightFinding}
    (isMem : finding ∈ validateActivitySemantics txn) :
    finding.category ≠ "unbalanced_transfer" := by
  have named {category message : String} {severity : Severity} {holds : Bool}
      (isFinding : finding ∈ findingIf txn category severity message holds)
      (other : category ≠ "unbalanced_transfer") : finding.category ≠ "unbalanced_transfer" := by
    rw [(mem_findingIf.mp isFinding).2]
    exact other
  simp only [validateActivitySemantics, List.mem_append] at isMem
  obtain (((((((isFinding | isTrade) | isFinding) | isFinding) | isFinding) | isFee) | isFinding) |
    isFinding) | isFinding := isMem
  · exact named isFinding (by decide)
  · split at isTrade
    · simp only [tradeFindings, List.mem_append] at isTrade
      rcases isTrade with (isFinding | isFinding) | isFinding
      · exact named isFinding (by decide)
      · exact named isFinding (by decide)
      · exact named isFinding (by decide)
    · cases isTrade
  · exact named isFinding (by decide)
  · exact named isFinding (by decide)
  · exact named isFinding (by decide)
  · split at isFee
    · obtain ⟨feeAmount, _, isFinding⟩ := List.mem_flatMap.mp isFee
      rcases List.mem_append.mp isFinding with isFinding | isFinding
      · exact named isFinding (by decide)
      · exact named isFinding (by decide)
    · cases isFee
  · exact named isFinding (by decide)
  · exact named isFinding (by decide)
  · exact named isFinding (by decide)

/-- The findings of the groups, leg by leg. -/
theorem groupFindings_perm (transactions : List StreamTransaction) :
    (groupFindings transactions).Perm
      ((transactions.filter isPaired).flatMap fun txn =>
        findingIf txn.toTransaction "unbalanced_transfer" .warning
          "transfer has no matched opposite-signed leg"
          (!isBalanced (groupOf transactions txn))) := by
  have whole (rows : List StreamTransaction) : (rows.length < 2 || !isBalanced rows) =
      !isBalanced rows := by
    cases rows with
    | nil => rfl
    | cons first rest =>
        cases rest with
        | nil =>
            simpa [isBalanced] using le_total first.amount 0
        | cons second others => simp
  rw [groupFindings, groupsOf, List.flatMap_map]
  refine List.Perm.trans (List.Perm.of_eq ?_)
    ((flatMap_filter_perm streamKey (transactions.filter isPaired)).flatMap_right _)
  rw [List.flatMap_assoc]
  refine List.flatMap_congr fun wanted wantedMem => List.flatMap_congr fun txn txnMem => ?_
  rw [whole]
  have isKey := (List.mem_filter.mp txnMem).2
  rw [decide_eq_true_eq] at isKey
  rw [groupOf, isKey]

theorem reported_findingIf (records : List String) (txn : Transaction) (severity : Severity)
    (message : String) (holds : Bool) :
    reported (findingIf txn "unbalanced_transfer" severity message holds) records =
      if holds ∧ txn.id ∈ records then 1 else 0 := by
  cases holds with
  | false => rfl
  | true => simp [reported, findingIf, List.countP_singleton]

/-- Findings that are made one by one are counted one by one. -/
theorem reported_flatMap (transactions : List StreamTransaction) {records : List String}
    {findings : StreamTransaction → List PreflightFinding} (holds : StreamTransaction → Bool)
    (each : ∀ txn, reported (findings txn) records =
      if holds txn ∧ txn.id ∈ records then 1 else 0) :
    reported (transactions.flatMap findings) records =
      transactions.countP fun txn => holds txn ∧ txn.id ∈ records := by
  induction transactions with
  | nil => rfl
  | cons txn rest ih =>
      have step := each txn
      simp only [reported] at step ih ⊢
      rw [List.flatMap_cons, List.countP_append, step, ih, List.countP_cons,
        add_comm]
      simp only [decide_eq_true_eq]

theorem reported_semantic (txn : StreamTransaction) (records : List String) :
    reported (validateActivitySemantics txn.toTransaction ++
        findingIf txn.toTransaction "unbalanced_transfer" .warning
          "transfer has no provider or counterparty reference" (lacksKey txn)) records =
      if lacksKey txn ∧ txn.id ∈ records then 1 else 0 := by
  have none : (validateActivitySemantics txn.toTransaction).countP (fun finding =>
      finding.category = "unbalanced_transfer" ∧ finding.recordId ∈ records) = 0 := by
    rw [List.countP_eq_zero]
    intro finding isMem
    simp [category_of_semantic isMem]
  have own := reported_findingIf records txn.toTransaction .warning
    "transfer has no provider or counterparty reference" (lacksKey txn)
  rw [reported] at own ⊢
  rw [List.countP_append, none, zero_add, own]

/-- Rows that meet one of two conditions that exclude each other. -/
theorem countP_or {Row : Type} {first second : Row → Bool} (rows : List Row)
    (apart : ∀ row, first row → ¬ second row) :
    rows.countP (fun row => first row || second row) =
      rows.countP first + rows.countP second := by
  induction rows with
  | nil => rfl
  | cons row rest ih =>
      rw [List.countP_cons, List.countP_cons, List.countP_cons, ih]
      cases isFirst : first row with
      | true =>
          have notSecond : second row = false := eq_false_of_ne_true (apart row isFirst)
          rw [notSecond]
          simp
          omega
      | false => simp [add_assoc]

/-- The findings about records are the open legs among them. -/
theorem reported_stream (transactions : List StreamTransaction) (records : List String) :
    reported (validateTransactionStream transactions) records =
      transactions.countP fun txn => isOpenLeg transactions txn ∧ txn.id ∈ records := by
  have own := reported_flatMap transactions lacksKey fun txn => reported_semantic txn records
  have grouped := reported_flatMap (transactions.filter isPaired)
    (fun txn => !isBalanced (groupOf transactions txn)) fun txn =>
      reported_findingIf records txn.toTransaction .warning
        "transfer has no matched opposite-signed leg" (!isBalanced (groupOf transactions txn))
  have perm := (groupFindings_perm transactions).countP_eq fun finding =>
    finding.category = "unbalanced_transfer" ∧ finding.recordId ∈ records
  rw [reported] at own grouped ⊢
  rw [validateTransactionStream, List.countP_append, own, perm, grouped, List.countP_filter,
    ← countP_or]
  · apply List.countP_congr
    intro txn _
    rw [isOpenLeg]
    grind
  · intro txn lacks isOpen
    simp only [lacksKey, isPaired, decide_eq_true_eq, Bool.and_eq_true] at lacks isOpen
    exact isOpen.2.2.1 lacks.1.2.1

/-- Counting rows by the ids of some of them is counting among these. -/
theorem countP_ids {Row : Type} {id : Row → String} {rows : List Row}
    (nodup : (rows.map id).Nodup) (condition among : Row → Bool) :
    rows.countP (fun row => condition row ∧ id row ∈ (rows.filter among).map id) =
      (rows.filter among).countP condition := by
  rw [List.countP_filter]
  apply List.countP_congr
  intro row rowMem
  have named : id row ∈ (rows.filter among).map id ↔ among row := by
    rw [List.mem_map]
    constructor
    · rintro ⟨other, otherMem, same⟩
      obtain ⟨otherMem, isAmong⟩ := List.mem_filter.mp otherMem
      rw [← List.inj_on_of_nodup_map nodup otherMem rowMem same]
      exact isAmong
    · intro isAmong
      exact ⟨row, List.mem_filter.mpr ⟨rowMem, isAmong⟩, rfl⟩
  simp [named]

/-! ## The balance of a stream -/

/-- Transactions with their primary keys. -/
structure Stream where
  transactions : List StreamTransaction
  unique : (transactions.map (·.id)).Nodup

/-- The legs of a class: transfers of one currency, pairing key, date and absolute
amount as a number. -/
def classLegs (transactions : List StreamTransaction) (wanted : String × String × Int × ℚ) :
    List StreamTransaction :=
  transactions.filter fun txn =>
    txn.transactionType = .transfer ∧ transferKey txn.toTransaction = wanted

def inbound (txn : StreamTransaction) : Bool := 0 < txn.amount
def outbound (txn : StreamTransaction) : Bool := txn.amount < 0

/-- A class has at least as many findings as one side has legs more than the other, and
none where both sides have equally many. -/
def StreamExact (transactions : List StreamTransaction) (wanted : String × String × Int × ℚ) :
    Prop :=
  let legs := classLegs transactions wanted
  let findings := reported (validateTransactionStream transactions) (legs.map (·.id))
  ((legs.countP inbound : Int) - legs.countP outbound).natAbs ≤ findings ∧
    (legs.countP inbound = legs.countP outbound → 0 < legs.countP inbound → findings = 0)

/-- No leg of a balanced class is open, and on the larger side of any other the legs
that are not open exceed those of the smaller by twice the open legs of the smaller at
most. -/
def StreamBalances (transactions : List StreamTransaction)
    (wanted : String × String × Int × ℚ) : Prop :=
  let legs := classLegs transactions wanted
  let opens := fun side => legs.countP fun txn => side txn && isOpenLeg transactions txn
  let silent := fun side => legs.countP fun txn => side txn && !isOpenLeg transactions txn
  (legs.countP inbound = legs.countP outbound → opens inbound = 0 ∧ opens outbound = 0) ∧
    (legs.countP outbound < legs.countP inbound →
      silent inbound ≤ silent outbound + 2 * opens outbound) ∧
    (legs.countP inbound < legs.countP outbound →
      silent outbound ≤ silent inbound + 2 * opens inbound)

theorem countP_split (side condition : StreamTransaction → Bool) (legs : List StreamTransaction) :
    legs.countP side = (legs.countP fun txn => side txn && condition txn) +
      legs.countP fun txn => side txn && !condition txn := by
  rw [← countP_or]
  · apply List.countP_congr
    intro txn _
    cases condition txn <;> simp
  · intro txn
    cases condition txn <;> simp

/-- The legs of a class have an amount, or none of them has. -/
theorem sides_of_class (transactions : List StreamTransaction)
    (wanted : String × String × Int × ℚ) (condition : StreamTransaction → Bool) :
    let legs := classLegs transactions wanted
    legs.countP condition =
        (legs.countP fun txn => inbound txn && condition txn) +
          (legs.countP fun txn => outbound txn && condition txn) ∨
      legs.countP inbound = 0 ∧ legs.countP outbound = 0 := by
  intro legs
  by_cases isZero : wanted.2.2.2 = 0
  · right
    have noAmount (txn : StreamTransaction) (txnMem : txn ∈ legs) : txn.amount = 0 := by
      have inClass := (List.mem_filter.mp txnMem).2
      rw [decide_eq_true_eq] at inClass
      rw [← inClass.2, transferKey, abs_eq_zero] at isZero
      exact isZero
    constructor
    · rw [List.countP_eq_zero]
      intro txn txnMem
      simp [inbound, noAmount txn txnMem]
    · rw [List.countP_eq_zero]
      intro txn txnMem
      simp [outbound, noAmount txn txnMem]
  · left
    rw [← countP_or]
    · apply List.countP_congr
      intro txn txnMem
      have inClass := (List.mem_filter.mp txnMem).2
      rw [decide_eq_true_eq] at inClass
      rw [← inClass.2, transferKey, abs_eq_zero] at isZero
      rcases lt_or_gt_of_ne isZero with below | above
      · simp [inbound, outbound, below]
      · simp [inbound, outbound, above]
    · intro txn isInbound isOutbound
      simp only [inbound, outbound, Bool.and_eq_true, decide_eq_true_eq] at isInbound isOutbound
      exact lt_asymm isInbound.1 isOutbound.1

/-- What the stream reports of a class are its open legs. -/
theorem reported_class (stream : Stream) (wanted : String × String × Int × ℚ) :
    reported (validateTransactionStream stream.transactions)
        ((classLegs stream.transactions wanted).map (·.id)) =
      (classLegs stream.transactions wanted).countP (isOpenLeg stream.transactions) := by
  rw [reported_stream, classLegs]
  exact countP_ids stream.unique _ _

theorem streamExact_iff (stream : Stream) (wanted : String × String × Int × ℚ) :
    StreamExact stream.transactions wanted ↔ StreamBalances stream.transactions wanted := by
  have sides := sides_of_class stream.transactions wanted (isOpenLeg stream.transactions)
  have ofInbound := countP_split inbound (isOpenLeg stream.transactions)
    (classLegs stream.transactions wanted)
  have ofOutbound := countP_split outbound (isOpenLeg stream.transactions)
    (classLegs stream.transactions wanted)
  simp only [StreamExact, StreamBalances, reported_class]
  simp only at sides
  omega

/-! ## The balance of query rows -/

/-- Currency, date and absolute amount of a row with an amount. -/
def rowKind (row : TransferRow) : Option (String × Int × ℚ) :=
  if row.value = 0 then none else some (row.currency, row.occurredOn, |row.value|)

def isInbound (row : TransferRow) : Bool := 0 < row.value

theorem indices_nodup (rows : List (Option QueryRow)) :
    ((normalizedRows rows).map (·.index)).Nodup := by
  have places : (rows.zipIdx.map Prod.snd).Nodup := by
    rw [List.zipIdx_map_snd]
    exact List.nodup_range'
  refine places.sublist ?_
  rw [normalizedRows]
  induction rows.zipIdx with
  | nil => exact List.Sublist.refl []
  | cons place rest ih =>
      rcases place with ⟨row, index⟩
      rw [List.filterMap_cons]
      cases row with
      | none => exact ih.cons _
      | some row => exact ih.cons_cons _

/-- Rows fit by kind and sign. -/
theorem twoSided_rows : TwoSided startsPair fitsRow rowKind isInbound where
  starts_iff row := by
    simp only [startsPair, rowKind, decide_eq_true_eq]
    split_ifs with isZero <;> simp [isZero]
  fits_iff row candidate isStart := by
    rw [startsPair, decide_eq_true_eq] at isStart
    simp only [fitsRow, rowKind, isInbound, if_neg isStart, decide_eq_true_eq]
    split_ifs with isZero
    · simp [isZero]
    · have signs : candidate.value * row.value < 0 ↔
          decide (0 < candidate.value) ≠ decide (0 < row.value) := by
        rw [mul_neg_iff, ne_eq, decide_eq_decide]
        rcases lt_or_gt_of_ne isStart with below | above
        · rcases lt_or_gt_of_ne isZero with less | more
          · simp [below, less, less.not_gt, below.not_gt]
          · simp [below, more, more.not_gt, below.not_gt]
        · rcases lt_or_gt_of_ne isZero with less | more
          · simp [above, less, less.not_gt, above.not_gt]
          · simp [above, more, more.not_gt, above.not_gt]
      rw [signs, Option.some.injEq, Prod.mk.injEq, Prod.mk.injEq]
      tauto

/-- The rows of a class on one side. -/
def sideRows (rows : List TransferRow) (wanted : String × Int × ℚ) (of : Bool) :
    List TransferRow :=
  rows.filter fun row => rowKind row = some wanted ∧ isInbound row = of

theorem inOrder_rows (rows : List (Option QueryRow)) (wanted : String × Int × ℚ) :
    InOrder (·.index) (rowPairs (normalizedRows rows))
      (sideRows (normalizedRows rows) wanted true)
      (sideRows (normalizedRows rows) wanted false) := by
  have inOrder := inOrder_pairOpposites twoSided_rows (indices_nodup rows) [] wanted true
  have all (of : Bool) : openRows (·.index) rowKind isInbound wanted of (normalizedRows rows) [] =
      sideRows (normalizedRows rows) wanted of := by
    simp [openRows, sideRows, GreedyPairs.pairedKeys]
  rw [Bool.not_true, all, all] at inOrder
  exact inOrder

theorem pairs_apart (rows : List (Option QueryRow)) :
    (GreedyPairs.pairedKeys (·.index) (rowPairs (normalizedRows rows))).Nodup :=
  nodup_pairedKeys (indices_nodup rows) List.nodup_nil

/-- A row of a pair has its key. -/
theorem rowKey_of_mem (rows : List (Option QueryRow)) {pair : TransferRow × TransferRow}
    (pairMem : pair ∈ rowPairs (normalizedRows rows)) {row : TransferRow}
    (inPair : pair.1.index = row.index ∨ pair.2.index = row.index) :
    rowKey (rowPairs (normalizedRows rows)) row = some (pairKey pair) := by
  rw [rowKey, Option.map_eq_some_iff]
  cases found : (rowPairs (normalizedRows rows)).find? fun pair =>
      pair.1.index = row.index ∨ pair.2.index = row.index with
  | none =>
      have nobody := List.find?_eq_none.mp found pair pairMem
      rw [decide_eq_true_eq] at nobody
      exact absurd inPair nobody
  | some other =>
      have isOther := List.find?_some found
      rw [decide_eq_true_eq] at isOther
      refine ⟨other, rfl, ?_⟩
      rw [eq_of_shared (pairs_apart rows) (List.mem_of_find?_eq_some found) pairMem isOther inPair]

/-- A row in no pair has no key. -/
theorem rowKey_of_free {pairs : List (TransferRow × TransferRow)} {row : TransferRow}
    (isFree : row.index ∉ GreedyPairs.pairedKeys (·.index) pairs) : rowKey pairs row = none := by
  rw [rowKey, Option.map_eq_none_iff, List.find?_eq_none]
  intro pair pairMem inPair
  rw [decide_eq_true_eq] at inPair
  apply isFree
  rw [GreedyPairs.pairedKeys, List.mem_flatMap]
  refine ⟨pair, pairMem, ?_⟩
  rw [List.mem_cons, List.mem_singleton]
  exact inPair.imp Eq.symm Eq.symm

/-- Pairs with one key are the same. -/
theorem eq_of_pairKey (rows : List (Option QueryRow)) {first second : TransferRow × TransferRow}
    (firstMem : first ∈ rowPairs (normalizedRows rows))
    (secondMem : second ∈ rowPairs (normalizedRows rows)) (same : pairKey first = pairKey second) :
    first = second := by
  have sameIndex := eq_of_append_toString _ same
  have least (pair : TransferRow × TransferRow) :
      pair.1.index = min pair.1.index pair.2.index ∨
        pair.2.index = min pair.1.index pair.2.index := by
    omega
  exact eq_of_shared (pairs_apart rows) firstMem secondMem (least first) (sameIndex ▸ least second)

theorem pairKey_ne_empty (pair : TransferRow × TransferRow) : pairKey pair ≠ "" := by
  intro empty
  exact absurd (String.append_eq_empty_iff.mp empty).1 (by decide)

theorem exists_of_rowKey {pairs : List (TransferRow × TransferRow)} {row : TransferRow}
    {key : String} (isKey : rowKey pairs row = some key) :
    ∃ pair ∈ pairs, (pair.1.index = row.index ∨ pair.2.index = row.index) ∧ pairKey pair = key := by
  obtain ⟨pair, found, same⟩ := Option.map_eq_some_iff.mp isKey
  have inPair := List.find?_some found
  rw [decide_eq_true_eq] at inPair
  exact ⟨pair, List.mem_of_find?_eq_some found, inPair, same⟩

/-! ### The transfers that stand for rows -/

/-- `str(abs(amount))` of a row. -/
def spelledRow (row : TransferRow) : Int × Int := (row.amount.getD 0).abs.text

theorem pairingKey_streamRow (pairs : List (TransferRow × TransferRow)) (row : TransferRow) :
    pairingKey (streamRow pairs row).toTransaction = (rowKey pairs row).getD "" := rfl

theorem isPairedHere_streamRow (pairs : List (TransferRow × TransferRow)) (row : TransferRow) :
    isPairedHere (streamRow pairs row).toTransaction = true := rfl

theorem isPaired_streamRow (pairs : List (TransferRow × TransferRow)) (row : TransferRow) :
    isPaired (streamRow pairs row) ↔ (rowKey pairs row).getD "" ≠ "" := by
  rw [isPaired, pairingKey_streamRow, isPairedHere_streamRow]
  simp [streamRow]

/-- A row in no pair is reported. -/
theorem isOpenLeg_of_free {transactions : List StreamTransaction}
    {pairs : List (TransferRow × TransferRow)} {row : TransferRow}
    (isFree : row.index ∉ GreedyPairs.pairedKeys (·.index) pairs) :
    isOpenLeg transactions (streamRow pairs row) = true := by
  have lacks : lacksKey (streamRow pairs row) = true := by
    rw [lacksKey, pairingKey_streamRow, isPairedHere_streamRow, rowKey_of_free isFree]
    simp [streamRow]
  rw [isOpenLeg, lacks, Bool.true_or]

/-- The transfers that stand for the rows. -/
def streamRows (rows : List (Option QueryRow)) : List StreamTransaction :=
  (normalizedRows rows).map (streamRow (rowPairs (normalizedRows rows)))

/-- Two rows of one class on both sides that are a pair. -/
structure IsLegPair (rows : List (Option QueryRow)) (wanted : String × Int × ℚ)
    (first second : TransferRow) : Prop where
  firstMem : first ∈ sideRows (normalizedRows rows) wanted true
  secondMem : second ∈ sideRows (normalizedRows rows) wanted false
  isPair : (first, second) ∈ rowPairs (normalizedRows rows) ∨
    (second, first) ∈ rowPairs (normalizedRows rows)

theorem mem_sideRows {rows : List TransferRow} {wanted : String × Int × ℚ} {of : Bool}
    {row : TransferRow} :
    row ∈ sideRows rows wanted of ↔
      row ∈ rows ∧ rowKind row = some wanted ∧ isInbound row = of := by
  simp [sideRows]

theorem of_rowKind {row : TransferRow} {wanted : String × Int × ℚ}
    (isKind : rowKind row = some wanted) :
    row.value ≠ 0 ∧ row.currency = wanted.1 ∧ row.occurredOn = wanted.2.1 := by
  rw [rowKind] at isKind
  split_ifs at isKind with isZero
  rw [Option.some.injEq] at isKind
  exact ⟨isZero, isKind ▸ rfl, isKind ▸ rfl⟩

section LegPair

variable {rows : List (Option QueryRow)} {wanted : String × Int × ℚ} {first second : TransferRow}
  (legs : IsLegPair rows wanted first second)

include legs

/-- The two rows share a key. -/
theorem IsLegPair.exists_key :
    ∃ pair ∈ rowPairs (normalizedRows rows),
      (pair = (first, second) ∨ pair = (second, first)) ∧
        ∀ row, row = first ∨ row = second →
          rowKey (rowPairs (normalizedRows rows)) row = some (pairKey pair) := by
  rcases legs.isPair with isPair | isPair
  · refine ⟨_, isPair, .inl rfl, fun row isRow => rowKey_of_mem rows isPair ?_⟩
    rcases isRow with rfl | rfl
    · exact .inl rfl
    · exact .inr rfl
  · refine ⟨_, isPair, .inr rfl, fun row isRow => rowKey_of_mem rows isPair ?_⟩
    rcases isRow with rfl | rfl
    · exact .inr rfl
    · exact .inl rfl

/-- Only the two rows have their key. -/
theorem IsLegPair.of_same_key {row other : TransferRow} (isRow : row = first ∨ row = second)
    (otherMem : other ∈ normalizedRows rows)
    (same : rowKey (rowPairs (normalizedRows rows)) other =
      rowKey (rowPairs (normalizedRows rows)) row) : other = first ∨ other = second := by
  obtain ⟨pair, pairMem, isLegs, hasKey⟩ := legs.exists_key
  rw [hasKey row isRow] at same
  obtain ⟨otherPair, otherPairMem, inPair, sameKey⟩ := exists_of_rowKey same
  rw [eq_of_pairKey rows otherPairMem pairMem sameKey] at inPair
  have firstMem := (mem_sideRows.mp legs.firstMem).1
  have secondMem := (mem_sideRows.mp legs.secondMem).1
  have isFirst (sameIndex : first.index = other.index) : other = first :=
    (List.inj_on_of_nodup_map (indices_nodup rows) firstMem otherMem sameIndex).symm
  have isSecond (sameIndex : second.index = other.index) : other = second :=
    (List.inj_on_of_nodup_map (indices_nodup rows) secondMem otherMem sameIndex).symm
  rcases isLegs with rfl | rfl
  · exact inPair.imp isFirst isSecond
  · exact (inPair.imp isSecond isFirst).symm

/-- The group of a row of the pair has legs of both signs exactly if the two amounts are
spelled alike. -/
theorem IsLegPair.isBalanced_iff {row : TransferRow} (isRow : row = first ∨ row = second) :
    isBalanced (groupOf (streamRows rows) (streamRow (rowPairs (normalizedRows rows)) row)) ↔
      spelledRow first = spelledRow second := by
  obtain ⟨firstIn, firstKind, isIn⟩ := mem_sideRows.mp legs.firstMem
  obtain ⟨secondIn, secondKind, isOut⟩ := mem_sideRows.mp legs.secondMem
  have ofFirst := of_rowKind firstKind
  have ofSecond := of_rowKind secondKind
  have firstUp : 0 < first.value := by simpa [isInbound] using isIn
  have secondDown : second.value < 0 := by
    have notUp : second.value ≤ 0 := by simpa [isInbound] using isOut
    exact lt_of_le_of_ne notUp ofSecond.1
  obtain ⟨pair, pairMem, _, hasKey⟩ := legs.exists_key
  have keyOf {leg : TransferRow} (isLeg : leg = first ∨ leg = second) :
      streamKey (streamRow (rowPairs (normalizedRows rows)) leg) =
        (wanted.1, pairKey pair, Instant.date (Instant.days wanted.2.1), spelledRow leg) := by
    have ofLeg : leg.value ≠ 0 ∧ leg.currency = wanted.1 ∧ leg.occurredOn = wanted.2.1 := by
      rcases isLeg with rfl | rfl
      · exact ofFirst
      · exact ofSecond
    rw [streamKey, pairingKey_streamRow, hasKey leg isLeg, spelledAmount, ← ofLeg.2.1,
      ← ofLeg.2.2, spelledRow]
    exact congrArg _ (congrArg _ (congrArg _ (congrArg Decimal.text (if_neg ofLeg.1))))
  have isLeg {other : TransferRow} (otherMem : other ∈ normalizedRows rows)
      (paired : isPaired (streamRow (rowPairs (normalizedRows rows)) other))
      (sameKey : streamKey (streamRow (rowPairs (normalizedRows rows)) other) =
        streamKey (streamRow (rowPairs (normalizedRows rows)) row)) :
      other = first ∨ other = second := by
    apply legs.of_same_key isRow otherMem
    have same := congrArg (fun key => key.2.1) sameKey
    rw [isPaired_streamRow] at paired
    simp only [streamKey, pairingKey_streamRow] at same
    rw [hasKey row isRow] at same ⊢
    cases ofOther : rowKey (rowPairs (normalizedRows rows)) other with
    | none =>
        rw [ofOther] at paired
        exact absurd rfl paired
    | some key =>
        rw [ofOther] at same
        exact congrArg some same
  have inGroup {other : StreamTransaction} :
      other ∈ groupOf (streamRows rows) (streamRow (rowPairs (normalizedRows rows)) row) ↔
        ∃ leg ∈ normalizedRows rows, streamRow (rowPairs (normalizedRows rows)) leg = other ∧
          isPaired other ∧ streamKey other =
            streamKey (streamRow (rowPairs (normalizedRows rows)) row) := by
    rw [groupOf, List.mem_filter, List.mem_filter, streamRows, List.mem_map, decide_eq_true_eq]
    constructor
    · rintro ⟨⟨⟨leg, legMem, isRow⟩, paired⟩, sameKey⟩
      exact ⟨leg, legMem, isRow, paired, sameKey⟩
    · rintro ⟨leg, legMem, isRow, paired, sameKey⟩
      exact ⟨⟨⟨leg, legMem, isRow⟩, paired⟩, sameKey⟩
  rw [isBalanced, Bool.and_eq_true, List.any_eq_true, List.any_eq_true]
  constructor
  · rintro ⟨⟨up, upMem, isUp⟩, down, downMem, isDown⟩
    obtain ⟨upLeg, upIn, rfl, upPaired, upKey⟩ := inGroup.mp upMem
    obtain ⟨downLeg, downIn, rfl, downPaired, downKey⟩ := inGroup.mp downMem
    have isUp : 0 < upLeg.value := of_decide_eq_true isUp
    have isDown : downLeg.value < 0 := of_decide_eq_true isDown
    rcases isLeg upIn upPaired upKey with rfl | rfl
    · rcases isLeg downIn downPaired downKey with rfl | rfl
      · exact absurd isDown firstUp.not_gt
      · have same := upKey.trans downKey.symm
        rw [keyOf (.inl rfl), keyOf (.inr rfl), Prod.mk.injEq, Prod.mk.injEq, Prod.mk.injEq] at same
        exact same.2.2.2
    · exact absurd isUp secondDown.not_gt
  · intro alike
    have member {leg : TransferRow} (isOne : leg = first ∨ leg = second) :
        streamRow (rowPairs (normalizedRows rows)) leg ∈
          groupOf (streamRows rows) (streamRow (rowPairs (normalizedRows rows)) row) := by
      have legIn : leg ∈ normalizedRows rows := by
        rcases isOne with rfl | rfl
        · exact firstIn
        · exact secondIn
      have sameSpelling : spelledRow leg = spelledRow row := by
        rcases isOne with rfl | rfl <;> rcases isRow with rfl | rfl
        · rfl
        · exact alike
        · exact alike.symm
        · rfl
      refine inGroup.mpr ⟨leg, legIn, rfl, ?_, ?_⟩
      · rw [isPaired_streamRow, hasKey leg isOne]
        exact pairKey_ne_empty pair
      · rw [keyOf isOne, keyOf isRow, sameSpelling]
    exact ⟨⟨_, member (.inl rfl), decide_eq_true firstUp⟩,
      _, member (.inr rfl), decide_eq_true secondDown⟩

theorem IsLegPair.isOpenLeg_eq {row : TransferRow} (isRow : row = first ∨ row = second) :
    isOpenLeg (streamRows rows) (streamRow (rowPairs (normalizedRows rows)) row) =
      decide (spelledRow first ≠ spelledRow second) := by
  obtain ⟨pair, pairMem, _, hasKey⟩ := legs.exists_key
  have paired : isPaired (streamRow (rowPairs (normalizedRows rows)) row) = true := by
    rw [isPaired_streamRow, hasKey row isRow]
    exact pairKey_ne_empty pair
  have keyed : lacksKey (streamRow (rowPairs (normalizedRows rows)) row) = false := by
    rw [lacksKey, pairingKey_streamRow, hasKey row isRow]
    simp [pairKey_ne_empty pair]
  rw [isOpenLeg, keyed, paired, Bool.false_or, Bool.true_and, Bool.eq_iff_iff, Bool.not_eq_true',
    ← Bool.not_eq_true, legs.isBalanced_iff isRow, decide_eq_true_eq]

end LegPair

/-! ### What is reported of a class -/

/-- Rows as they are queried.  The ids of records are primary keys. -/
structure QueryRows where
  rows : List (Option QueryRow)
  unique : ((normalizedRows rows).map (·.recordId)).Nodup

/-- The rows of a class: one currency, date and absolute amount as a number. -/
def classRows (rows : List TransferRow) (wanted : String × Int × ℚ) : List TransferRow :=
  rows.filter fun row => rowKind row = some wanted

/-- The class has as many findings as one side has rows more than the other. -/
def RowsExact (rows : List (Option QueryRow)) (wanted : String × Int × ℚ) : Prop :=
  let class_ := classRows (normalizedRows rows) wanted
  reported (validateTransferRows rows) (class_.map (·.recordId)) =
    ((class_.countP (0 < ·.value) : Int) - class_.countP (·.value < 0)).natAbs

/-- The first inbound and the first outbound row of a class spell their absolute
amounts alike, the second and the second, and so on. -/
def SpelledAlike (rows : List (Option QueryRow)) (wanted : String × Int × ℚ) : Prop :=
  ∀ pair ∈ (sideRows (normalizedRows rows) wanted true).zip
      (sideRows (normalizedRows rows) wanted false),
    spelledRow pair.1 = spelledRow pair.2

/-- Only unbalanced transfers are counted, which the filter keeps. -/
theorem reported_validateTransferRows (rows : List (Option QueryRow)) (records : List String) :
    reported (validateTransferRows rows) records =
      (normalizedRows rows).countP fun row =>
        isOpenLeg (streamRows rows) (streamRow (rowPairs (normalizedRows rows)) row) ∧
          row.recordId ∈ records := by
  have whole : reported (validateTransferRows rows) records =
      reported (validateTransactionStream (streamRows rows)) records := by
    rw [reported, reported, validateTransferRows, List.countP_filter]
    apply List.countP_congr
    intro finding _
    simp +contextual
  rw [whole, reported_stream, streamRows, List.countP_map]
  rfl

/-- A class is its two sides. -/
theorem countP_class (rows : List TransferRow) (wanted : String × Int × ℚ)
    (condition : TransferRow → Bool) :
    (classRows rows wanted).countP condition =
      (sideRows rows wanted true).countP condition +
        (sideRows rows wanted false).countP condition := by
  rw [classRows, sideRows, sideRows, List.countP_filter, List.countP_filter, List.countP_filter,
    ← countP_or]
  · apply List.countP_congr
    intro row _
    cases isInbound row <;> simp
  · intro row
    cases isInbound row <;> simp

theorem inbound_class (rows : List TransferRow) (wanted : String × Int × ℚ) :
    (classRows rows wanted).countP (0 < ·.value) = (sideRows rows wanted true).length := by
  have left : (sideRows rows wanted true).countP (0 < ·.value) =
      (sideRows rows wanted true).length :=
    List.countP_eq_length.mpr fun row rowMem => (mem_sideRows.mp rowMem).2.2
  have right : (sideRows rows wanted false).countP (0 < ·.value) = 0 :=
    List.countP_eq_zero.mpr fun row rowMem => ne_true_of_eq_false (mem_sideRows.mp rowMem).2.2
  rw [countP_class, left, right, add_zero]

theorem outbound_class (rows : List TransferRow) (wanted : String × Int × ℚ) :
    (classRows rows wanted).countP (·.value < 0) = (sideRows rows wanted false).length := by
  have left : (sideRows rows wanted true).countP (·.value < 0) = 0 := by
    refine List.countP_eq_zero.mpr fun row rowMem => ?_
    have isUp : 0 < row.value := of_decide_eq_true (mem_sideRows.mp rowMem).2.2
    simp [isUp.le]
  have right : (sideRows rows wanted false).countP (·.value < 0) =
      (sideRows rows wanted false).length := by
    refine List.countP_eq_length.mpr fun row rowMem => ?_
    obtain ⟨_, isKind, isOut⟩ := mem_sideRows.mp rowMem
    have notUp : row.value ≤ 0 := by simpa [isInbound] using isOut
    exact decide_eq_true (lt_of_le_of_ne notUp (of_rowKind isKind).1)
  rw [countP_class, left, right, zero_add]

theorem rowsExact_iff (rows : QueryRows) (wanted : String × Int × ℚ) :
    RowsExact rows.rows wanted ↔ SpelledAlike rows.rows wanted := by
  have inOrder := inOrder_rows rows.rows wanted
  have ofPair : ∀ pair ∈ (sideRows (normalizedRows rows.rows) wanted true).zip
      (sideRows (normalizedRows rows.rows) wanted false),
      isOpenLeg (streamRows rows.rows)
          (streamRow (rowPairs (normalizedRows rows.rows)) pair.1) =
          decide (spelledRow pair.1 ≠ spelledRow pair.2) ∧
        isOpenLeg (streamRows rows.rows)
          (streamRow (rowPairs (normalizedRows rows.rows)) pair.2) =
          decide (spelledRow pair.1 ≠ spelledRow pair.2) := by
    rintro ⟨first, second⟩ pairMem
    have legs : IsLegPair rows.rows wanted first second :=
      ⟨(List.of_mem_zip pairMem).1, (List.of_mem_zip pairMem).2, inOrder.paired _ pairMem⟩
    exact ⟨legs.isOpenLeg_eq (.inl rfl), legs.isOpenLeg_eq (.inr rfl)⟩
  have counted := countP_reported (fun first second => spelledRow first ≠ spelledRow second)
    (fun row => isOpenLeg (streamRows rows.rows)
      (streamRow (rowPairs (normalizedRows rows.rows)) row)) ofPair
    fun row rowMem => isOpenLeg_of_free (inOrder.leftOver row rowMem)
  rw [RowsExact, reported_validateTransferRows, classRows, countP_ids rows.unique, ← classRows,
    countP_class, counted, inbound_class, outbound_class, add_eq_right, mul_eq_zero,
    or_iff_right two_ne_zero, List.countP_eq_zero, SpelledAlike]
  simp

/-! ## The balance check -/

/-- The check of a stream is exact for a class where its open legs make up for the
surplus, and the check of query rows where the rows that are paired spell their amounts
alike. -/
theorem balance_exact_iff (stream : Stream) (legClass : String × String × Int × ℚ)
    (rows : QueryRows) (rowClass : String × Int × ℚ) :
    (StreamExact stream.transactions legClass ↔ StreamBalances stream.transactions legClass) ∧
      (RowsExact rows.rows rowClass ↔ SpelledAlike rows.rows rowClass) :=
  ⟨streamExact_iff stream legClass, rowsExact_iff rows rowClass⟩

/-- A leg of ten euros of one transfer. -/
def sampleLeg (id : String) (sign : Int) : StreamTransaction where
  id
  tenantId := "tenant"
  providerKey := "bunq"
  externalTransactionId := id
  accountId := "account"
  amount := (⟨10 * sign, 0⟩ : Decimal).value
  currencyCode := "EUR"
  occurredAt := 0
  transactionType := .transfer
  counterpartyAccountReference := some "savings"
  spelled := ⟨10 * sign, 0⟩
  spelled_value := rfl

/-- Three inbound legs and one outbound leg are not reported, and two legs that are
spelled with different scales are. -/
theorem surplus_not_reported :
    ¬ StreamExact [sampleLeg "1" 1, sampleLeg "2" 1, sampleLeg "3" 1, sampleLeg "4" (-1)]
        ("EUR", "savings", 0, 10) ∧
      ¬ RowsExact
        [some ⟨some "1", some ⟨10, 0⟩, "EUR", 0⟩, some ⟨some "2", some ⟨-100, -1⟩, "EUR", 0⟩]
        ("EUR", 0, 10) := by
  rw [StreamExact, RowsExact]
  decide +kernel

end FinanceSync.Wealthfolio.TransferBalance
