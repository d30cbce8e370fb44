import FinanceSync.Lib.Grouping
import FinanceSync.Visibility.Spending
import FinanceSync.Wealthfolio.TransactionMapper

/-!
# Checks before an export

What the exporter and data health check of the transactions of an account.  An error isolates its
transaction; a warning does not.  Only a transaction's own fields can isolate it: what is said
about the legs of transfers are warnings.
-/

namespace FinanceSync.Wealthfolio

open FinanceSync.Visibility (truthy)
open Lib

/-! ## Findings -/

inductive Severity
  | error | warning
deriving DecidableEq

/-- A deterministic finding attached to one canonical record. -/
structure PreflightFinding where
  category : String
  severity : Severity
  recordId : String
  message : String
deriving DecidableEq

/-- The finding of a transaction, if the condition holds. -/
def findingIf (txn : Transaction) (category : String) (severity : Severity) (message : String)
    (holds : Bool) : List PreflightFinding :=
  if holds then [⟨category, severity, txn.id, message⟩] else []

/-- `_is_currency_code` -/
def isCurrencyCode (value : String) : Bool :=
  value.toList.length = 3 && value.toList.all fun char => 'A' ≤ char && char ≤ 'Z'

/-- The checks of a trade, and of a transfer of a security. -/
def tradeFindings (txn : Transaction) : List PreflightFinding :=
  let missing := (if txn.quantity.isNone then ["quantity"] else []) ++
    (if txn.unitPrice.isNone then ["unit price"] else []) ++
    if txn.securityId.isNone then ["security"] else []
  findingIf txn "incomplete_transaction" .error ("trade is missing " ++ ", ".intercalate missing)
      (missing ≠ []) ++
    findingIf txn "invalid_activity_semantics" .error
      "trade has a non-positive or invalid quantity" (txn.quantity.any (· ≤ 0)) ++
    findingIf txn "invalid_activity_semantics" .error
      "trade has a negative or invalid unit price" (txn.unitPrice.any (· < 0))

/-- The checks of the fee of a fee or a tax. -/
def feeFindings (txn : Transaction) (feeAmount : ℚ) : List PreflightFinding :=
  findingIf txn "invalid_activity_semantics" .error
      "fee or tax activity must have a positive fee amount" (feeAmount ≤ 0) ++
    findingIf txn "invalid_activity_semantics" .error
      "fee or tax activity has an invalid currency code"
      (!isCurrencyCode (orText txn.feeCurrencyCode (some txn.currencyCode)))

/-- `validate_activity_semantics` -/
def validateActivitySemantics (txn : Transaction) : List PreflightFinding :=
  let trade := decide (txn.transactionType = .purchase ∨ txn.transactionType = .sale)
  let transfer := decide (txn.transactionType = .transfer)
  let investmentTransfer := transfer && txn.securityId.isSome && txn.quantity.any (0 < ·)
  let feeOrTax := decide (txn.transactionType = .fee ∨ txn.transactionType = .tax)
  let quantityEvent :=
    decide (txn.transactionType = .split ∨ txn.transactionType = .adjustment)
  findingIf txn "invalid_activity_semantics" .error
      "activity has no stable external transaction ID"
      (strip txn.externalTransactionId.toList = []) ++
    (if trade || investmentTransfer then tradeFindings txn else []) ++
    findingIf txn "invalid_activity_semantics" .error
      "activity has an invalid ISO-4217 currency code" (!isCurrencyCode txn.currencyCode) ++
    findingIf txn "incomplete_transaction" .error
      "transfer is missing a non-zero amount or direction" (transfer && txn.amount = 0) ++
    findingIf txn "incomplete_transaction" .error "security transfer is missing quantity"
      (transfer && txn.securityId.isSome && txn.quantity.isNone) ++
    (if feeOrTax then txn.feeAmount.toList.flatMap (feeFindings txn) else []) ++
    findingIf txn "zero_cost_transaction" .warning
      "trade has zero cost and may be a corporate action"
      (trade && (txn.unitPrice = some 0 || txn.quantity.isSome && txn.amount = 0)) ++
    findingIf txn "invalid_activity_semantics" .warning
      "quantity event is missing a positive split ratio"
      (quantityEvent && (quantityEventRatio txn.providerMetadataContract).isNone) ++
    findingIf txn "invalid_activity_semantics" .error "booked_at precedes occurred_at"
      (txn.bookedAt.any (· < txn.occurredAt))

/-! ## Transfers -/

/-- `_first_text` -/
def firstText (mapping : List (String × Json)) (keys : List String) : Option String :=
  keys.findSome? fun key => ((dictGet mapping key).filter truthy).map Json.str

/-- The dicts that are searched for what pairs a transfer. -/
def metadataCandidates (txn : Transaction) : List (List (String × Json)) :=
  let metadata := (txn.providerMetadataContract.bind Json.asDict).getD []
  metadata :: ((dictGet metadata "fields").bind Json.asDict).toList

/-- The id of the provider, or the account on the other side. -/
def pairingKey (txn : Transaction) : String :=
  let providerId := (metadataCandidates txn).findSome? fun candidate =>
    firstText candidate ["transfer_id", "transferId", "transfer_reference", "transferReference"]
  orText providerId txn.counterpartyAccountReference

/-- Both legs are of this account. -/
def isPairedHere (txn : Transaction) : Bool :=
  ((metadataCandidates txn).findSome? fun candidate => firstText candidate ["pair_scope"]) ≠
    some "cross_account"

/-- What the legs of a transfer have in common. -/
def transferKey (txn : Transaction) : String × String × Int × ℚ :=
  (txn.currencyCode, pairingKey txn, Instant.date txn.occurredAt, |txn.amount|)

/-- The warnings of the transfers that are paired. -/
def legFindings (transactions : List Transaction) : List PreflightFinding :=
  let transfers := transactions.filter fun txn =>
    txn.transactionType = .transfer ∧ pairingKey txn ≠ "" ∧ isPairedHere txn
  (groupsOf transferKey transfers).flatMap fun group =>
    let balanced := group.2.any (0 < ·.amount) && group.2.any (·.amount < 0)
    group.2.flatMap fun txn => findingIf txn "unbalanced_transfer" .warning
      "transfer has no matched opposite-signed leg" (group.2.length < 2 || !balanced)

/-- `validate_transaction_stream` -/
def validateTransactionStream (transactions : List Transaction) : List PreflightFinding :=
  (transactions.flatMap fun txn =>
    validateActivitySemantics txn ++
      findingIf txn "unbalanced_transfer" .warning
        "transfer has no provider or counterparty reference"
        (txn.transactionType = .transfer && pairingKey txn = "" && isPairedHere txn)) ++
    legFindings transactions

/-! ## Isolated transactions -/

theorem mem_findingIf {txn : Transaction} {category message : String} {severity : Severity}
    {holds : Bool} {finding : PreflightFinding} :
    finding ∈ findingIf txn category severity message holds ↔
      holds = true ∧ finding = ⟨category, severity, txn.id, message⟩ := by
  rw [findingIf]
  split
  · next isTrue => rw [List.mem_singleton, and_iff_right isTrue]
  · next isFalse => exact iff_of_false List.not_mem_nil fun both => isFalse both.1

/-- A finding names its transaction. -/
theorem recordId_of_mem {txn : Transaction} {finding : PreflightFinding}
    (isMem : finding ∈ validateActivitySemantics txn) : finding.recordId = txn.id := by
  have named {category message : String} {severity : Severity} {holds : Bool}
      (isFinding : finding ∈ findingIf txn category severity message holds) :
      finding.recordId = txn.id := by
    rw [(mem_findingIf.mp isFinding).2]
  have ofTrade (isFinding : finding ∈ tradeFindings txn) : finding.recordId = txn.id := by
    simp only [tradeFindings, List.mem_append] at isFinding
    obtain (isFinding | isFinding) | isFinding := isFinding
    · exact named isFinding
    · exact named isFinding
    · exact named isFinding
  have ofFee {feeAmount : ℚ} (isFinding : finding ∈ feeFindings txn feeAmount) :
      finding.recordId = txn.id := by
    obtain isFinding | isFinding := List.mem_append.mp isFinding
    · exact named isFinding
    · exact named isFinding
  simp only [validateActivitySemantics, List.mem_append] at isMem
  obtain (((((((isFinding | isTrade) | isFinding) | isFinding) | isFinding) | isFee) | isFinding) |
    isFinding) | isFinding := isMem
  · exact named isFinding
  · split at isTrade
    · exact ofTrade isTrade
    · cases isTrade
  · exact named isFinding
  · exact named isFinding
  · exact named isFinding
  · split at isFee
    · obtain ⟨feeAmount, _, isFinding⟩ := List.mem_flatMap.mp isFee
      exact ofFee isFinding
    · cases isFee
  · exact named isFinding
  · exact named isFinding
  · exact named isFinding

/-- A transaction that an error isolates. -/
def Quarantined (txn : Transaction) : Prop :=
  ∃ finding ∈ validateActivitySemantics txn, finding.severity = .error

instance (txn : Transaction) : Decidable (Quarantined txn) :=
  inferInstanceAs (Decidable (∃ finding ∈ validateActivitySemantics txn, _))

/-- The errors of a stream are those of its transactions. -/
theorem error_mem_stream_iff {transactions : List Transaction} {finding : PreflightFinding}
    (isError : finding.severity = .error) :
    finding ∈ validateTransactionStream transactions ↔
      ∃ txn ∈ transactions, finding ∈ validateActivitySemantics txn := by
  have notWarning {txn : Transaction} {category message : String} {holds : Bool} :
      finding ∉ findingIf txn category .warning message holds := by
    intro isWarning
    rw [(mem_findingIf.mp isWarning).2] at isError
    cases isError
  have noLeg : finding ∉ legFindings transactions := by
    intro isLeg
    obtain ⟨group, _, isLeg⟩ := List.mem_flatMap.mp isLeg
    obtain ⟨txn, _, isWarning⟩ := List.mem_flatMap.mp isLeg
    exact notWarning isWarning
  rw [validateTransactionStream, List.mem_append, or_iff_left noLeg, List.mem_flatMap]
  refine exists_congr fun txn => and_congr_right fun _ => ?_
  rw [List.mem_append, or_iff_left notWarning]

/-- The ids that the errors of a stream name are those of its quarantined transactions. -/
theorem error_names_iff {transactions : List Transaction} (nodup : (transactions.map (·.id)).Nodup)
    {txn : Transaction} (isMem : txn ∈ transactions) :
    (∃ finding ∈ validateTransactionStream transactions,
        finding.severity = .error ∧ finding.recordId = txn.id) ↔ Quarantined txn := by
  constructor
  · rintro ⟨finding, inStream, isError, isNamed⟩
    obtain ⟨other, otherMem, isFinding⟩ := (error_mem_stream_iff isError).mp inStream
    have same : other = txn := List.inj_on_of_nodup_map nodup otherMem isMem
      ((recordId_of_mem isFinding).symm.trans isNamed)
    exact ⟨finding, same ▸ isFinding, isError⟩
  · rintro ⟨finding, isFinding, isError⟩
    exact ⟨finding, (error_mem_stream_iff isError).mpr ⟨txn, isMem, isFinding⟩, isError,
      recordId_of_mem isFinding⟩

end FinanceSync.Wealthfolio
