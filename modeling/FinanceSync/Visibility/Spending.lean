import FinanceSync.Data.DecimalText
import FinanceSync.Visibility.ReadScope

/-!
# Spending detail and user overrides

The endpoints under `/transactions/{transaction_id}`.  Each loads a transaction of
the tenant and reads, or adds to, what is attached to it.
-/

namespace FinanceSync.Visibility

open Lib Auth

/-! ## JSON -/

/-- `bool(value)` of a loaded JSON value. -/
def truthy : Json → Bool
  | .null => false
  | .bool value => value
  | .number text => text ∉ ["0", "0.0", "-0.0"]
  | .string text => text ≠ ""
  | .array items => !items.isEmpty
  | .object fields => !fields.isEmpty

/-- `dict[key] = value` -/
def setItem (fields : List (String × Json)) (key : String) (value : Json) :
    List (String × Json) :=
  if (fields.lookup key).isSome then
    fields.map fun field => if field.1 = key then (key, value) else field
  else fields ++ [(key, value)]

/-! ## What a request does to a transaction -/

def internalServerError : RequestError := .http 500 "Internal Server Error"

def transactionNotFound : RequestError := .http 404 "Transaction not found"

/-- A row to be attached to a transaction. -/
structure NewRow where
  table : AttachedTable
  id : Uuid
  columns : List (String × Cell)

def NewRow.attachTo (row : NewRow) (transaction : Transaction) : Attached where
  id := row.id
  tenantId := transaction.tenantId
  transactionId := some transaction.id
  columns := row.columns

inductive WriteReply
  | corrected (transactionId : Uuid) (changes : List (String × String))
  | overridden (id transactionId : Uuid) (fieldName : String)
  | tombstoned (id : Uuid) (status : String) (tombstonedAt : Option Instant)
  | added (id transactionId : Uuid)
  | classified (transactionId : Uuid) (category : String)

/-- What a request writes: new values of the loaded row, which stays on its
account, and rows to be attached to it. -/
structure Write (transaction : Transaction) where
  changed : Transaction := transaction
  rows : List NewRow := []
  reply : WriteReply
  sameRow : changed.id = transaction.id ∧ changed.tenantId = transaction.tenantId ∧
    changed.accountId = transaction.accountId := by exact ⟨rfl, rfl, rfl⟩

/-- Who writes, and the ids and the instant that the request uses. -/
structure Writer where
  actor : Option Uuid
  newId : Nat → Uuid
  now : Instant

/-- A request handler, given the transaction that it loaded and the rows attached
to that. -/
abbrev Handler :=
  (transaction : Transaction) → (AttachedTable → List Attached) →
    Except RequestError (Write transaction)

namespace Database

variable (db : Database)

/-- `_load_transaction` -/
def loadTransaction (tenantId transactionId : Uuid) : Option Transaction :=
  db.transactions.rows.find? fun transaction =>
    transaction.id = transactionId && transaction.tenantId = tenantId

def commit (transaction : Transaction) (write : Write transaction) : Database :=
  { db with
    transactions := db.transactions.save write.changed
    attached := fun table => db.attached table ++
      (write.rows.filter fun row => row.table = table).map (·.attachTo transaction) }

/-- Handle a request for the transaction that was found. -/
def handleWrite (found : Option Transaction) (handler : Handler) :
    Except RequestError (Database × WriteReply) :=
  match found with
  | none => .error transactionNotFound
  | some transaction => do
      let write ← handler transaction (db.attachedTo transaction)
      return (db.commit transaction write, write.reply)

end Database

/-! ## Reading -/

/-- The attributes that `_dump` looks for. -/
def dumpedKeys : List String :=
  ["id", "object_type", "external_ids", "provider_revisions", "annotation_type", "content_hash",
    "mime_type", "safe_reference", "owner", "retention_until", "destination_reference", "amount",
    "currency_code", "percentage", "category_suggestion", "destination", "idempotency_key",
    "provenance", "field_name", "value", "actor", "event_type", "payload", "source_revision",
    "destination_type", "canonical_key", "destination_object_id", "direction"]

def Attached.getattr (row : Attached) (key : String) : Option Cell :=
  if key = "id" then some (.uuid row.id) else row.columns.lookup key

def dump (row : Attached) : List (String × Cell) :=
  dumpedKeys.filterMap fun key => (row.getattr key).map (key, ·)

structure SpendingDetailResponse where
  transactionId : Uuid
  providerMetadataContract : Option Json
  sourceReferences : List (List (String × Cell))
  splits : List (List (String × Cell))
  annotations : List (List (String × Cell))
  overrides : List (List (String × Cell))
  lifecycleEvents : List (List (String × Cell))
  destinationStatus : List (List (String × Cell))

def Database.spendingDetail (db : Database) (tenantId transactionId : Uuid) :
    Except RequestError SpendingDetailResponse :=
  match db.loadTransaction tenantId transactionId with
  | none => .error transactionNotFound
  | some transaction =>
      let rows := fun table => (db.attachedTo transaction table).map dump
      .ok
        { transactionId := transaction.id
          providerMetadataContract := transaction.providerMetadataContract
          sourceReferences := rows .sourceReference
          splits := rows .split
          annotations := rows .annotationRow
          overrides := rows .override
          lifecycleEvents := rows .lifecycleEvent
          destinationStatus := rows .destinationReference }

/-! ## Rows that are added -/

def text (value : String) : Cell := .json (.string value)

/-- A column that may be null. -/
def column (name : String) (value : Option Cell) : List (String × Cell) :=
  value.toList.map (name, ·)

def overrideRow (writer : Writer) (index : Nat) (fieldName : String) (value : Json) : NewRow where
  table := .override
  id := writer.newId index
  columns :=
    [("field_name", text fieldName), ("value", .json (.object [("value", value)]))] ++
      column "actor" (writer.actor.map .uuid) ++ [("provenance", text "user_override")]

def eventRow (writer : Writer) (index : Nat) (eventType idempotencyKey : String)
    (payload : Json) (sourceRevision : Nat) : NewRow where
  table := .lifecycleEvent
  id := writer.newId index
  columns :=
    [("event_type", text eventType), ("idempotency_key", text idempotencyKey),
        ("payload", .json payload)] ++
      column "actor" (writer.actor.map .uuid) ++
      [("provenance", text "user_override"),
        ("source_revision", .json (.number (toString sourceRevision)))]

def Attached.hasIdempotencyKey (row : Attached) (idempotencyKey : String) : Bool :=
  match row.columns.lookup "idempotency_key" with
  | some (.json (.string key)) => key = idempotencyKey
  | _ => false

/-- `uq_transaction_event_idempotency` -/
def checkEventKey (attached : AttachedTable → List Attached) (idempotencyKey : String) :
    Except RequestError Unit :=
  if (attached .lifecycleEvent).any (·.hasIdempotencyKey idempotencyKey) then
    .error .integrityError
  else .ok ()

/-! ## Corrections -/

/-- A decimal of a request: the number, and the text that `str` gives for it. -/
structure DecimalText where
  value : ℚ
  text : String

structure DataQualityCorrection where
  transactionType : Option TransactionType := none
  unitPrice : Option DecimalText := none
  splitRatio : Option DecimalText := none

namespace DataQualityCorrection

variable (body : DataQualityCorrection)

def isEmpty : Bool :=
  body.transactionType.isNone && body.unitPrice.isNone && body.splitRatio.isNone

def changes : List (String × String) :=
  (body.transactionType.toList.map fun value => ("transaction_type", StrEnum.value value)) ++
    (body.unitPrice.toList.map fun value => ("unit_price", value.text)) ++
    (body.splitRatio.toList.map fun value => ("split_ratio", value.text))

end DataQualityCorrection

/-- The metadata contract with a split ratio among its fields. -/
def withSplitRatio (contract : Option Json) (ratio : DecimalText) : Json :=
  let metadata := (contract.bind Json.asDict).getD []
  let fields := ((dictGet metadata "fields").bind Json.asDict).getD []
  let schemaVersion := match (dictGet metadata "schema_version").filter truthy with
    | some version => version.str
    | none => "1"
  .object (setItem (setItem metadata "schema_version" (.string schemaVersion)) "fields"
    (.object (setItem fields "split_ratio" (.string ratio.text))))

def emptyCorrection : RequestError :=
  .http 422 "Provide transaction_type, unit_price, or split_ratio."

/-- What `correct_data_quality_transaction` does with the loaded transaction. -/
def correctDataQuality (writer : Writer) (body : DataQualityCorrection) : Handler :=
  fun transaction attached => do
    let revision := transaction.revision + 1
    let idempotencyKey := s!"data-quality-correction:{transaction.id}:{revision}"
    checkEventKey attached idempotencyKey
    return {
      changed := { transaction with
        revision
        transactionType := body.transactionType.getD transaction.transactionType
        unitPrice := (body.unitPrice.map DecimalText.value).or transaction.unitPrice
        providerMetadataContract :=
          (body.splitRatio.map (withSplitRatio transaction.providerMetadataContract)).or
            transaction.providerMetadataContract }
      rows :=
        eventRow writer 0 "update" idempotencyKey
            (.object [("changes", .object (body.changes.map fun change =>
              (change.1, .string change.2)))])
            transaction.revision ::
          body.changes.mapIdx fun index change =>
            overrideRow writer (index + 1) change.1 (.string change.2)
      reply := .corrected transaction.id body.changes }

/-! ## Overrides, splits, events and tombstones -/

def createSpendingOverride (writer : Writer) (fieldName : String) (value : Json) : Handler :=
  fun transaction _ => .ok {
    changed := { transaction with
      classificationOverride :=
        match fieldName, value with
        | "classification_override", .string category => some category
        | _, _ => transaction.classificationOverride }
    rows := [overrideRow writer 0 fieldName value]
    reply := .overridden (writer.newId 0) transaction.id fieldName }

def tombstoneSpendingTransaction (writer : Writer) : Handler :=
  fun transaction attached =>
    match transaction.tombstonedAt with
    | some tombstonedAt => .ok {
        reply := .tombstoned transaction.id (StrEnum.value transaction.status)
          (some tombstonedAt) }
    | none => do
        let revision := transaction.revision + 1
        let source := s!"{transaction.providerKey}:{transaction.externalTransactionId}"
        let idempotencyKey := s!"{source}:tombstone:{revision}"
        checkEventKey attached idempotencyKey
        return {
          changed := { transaction with
            tombstonedAt := some writer.now
            status := .cancelled
            revision }
          rows := [eventRow writer 0 "tombstone" idempotencyKey
            (.object [("reason", .string "explicit_user_delete")]) revision]
          reply := .tombstoned transaction.id (StrEnum.value TransactionStatus.cancelled)
            (some writer.now) }

/-- A split.  Amount and percentage are as `Decimal` reads them; a text that is no
number is none. -/
structure SpendingSplit where
  idempotencyKey : String
  amount : Option ℚ
  currencyCode : String
  percentage : Option (Option ℚ) := none
  categorySuggestion : Option Json := none
  destination : Option String := none

/-- The columns of a split, unless a number cannot be read. -/
def SpendingSplit.columns (body : SpendingSplit) : Option (List (String × Cell)) := do
  let amount ← body.amount
  let percentage ← match body.percentage with
    | none => some none
    | some read => read.map some
  return [("idempotency_key", text body.idempotencyKey), ("amount", .decimal amount),
      ("currency_code", text body.currencyCode.toUpper)] ++
    column "percentage" (percentage.map .decimal) ++
    column "category_suggestion" (body.categorySuggestion.map .json) ++
    column "destination" (body.destination.map text) ++
    [("provenance", text "user_override")]

def createSpendingSplit (writer : Writer) (body : SpendingSplit) : Handler :=
  fun transaction attached =>
    match (attached .split).find? (·.hasIdempotencyKey body.idempotencyKey) with
    | some existing => .ok { reply := .added existing.id transaction.id }
    | none =>
        match body.columns with
        | none => .error internalServerError
        | some columns => .ok {
            rows := [{ table := .split, id := writer.newId 0, columns }]
            reply := .added (writer.newId 0) transaction.id }

structure SpendingEvent where
  eventType : String
  idempotencyKey : String
  payload : Json := .object []

def createSpendingEvent (writer : Writer) (body : SpendingEvent) : Handler :=
  fun transaction attached =>
    match (attached .lifecycleEvent).find? (·.hasIdempotencyKey body.idempotencyKey) with
    | some existing => .ok { reply := .added existing.id transaction.id }
    | none => .ok {
        rows := [eventRow writer 0 body.eventType body.idempotencyKey body.payload
          transaction.revision]
        reply := .added (writer.newId 0) transaction.id }

/-! ## Corrected ratios -/

section Ratios

variable {contract : Option Json} {ratio : DecimalText}

/-- A correction with a ratio changes the contract by it, another one leaves it. -/
theorem contract_of_correctDataQuality {writer : Writer} {body : DataQualityCorrection}
    {transaction : Transaction} {attached : AttachedTable → List Attached}
    {write : Write transaction}
    (handled : correctDataQuality writer body transaction attached = .ok write) :
    write.changed.providerMetadataContract =
      (body.splitRatio.map (withSplitRatio transaction.providerMetadataContract)).or
        transaction.providerMetadataContract := by
  simp only [correctDataQuality, bind, Except.bind] at handled
  split at handled
  · cases handled
  · rw [← Except.ok.inj handled]

theorem lookup_setItem (fields : List (String × Json)) (key other : String) (value : Json) :
    (setItem fields key value).lookup other =
      if other = key then some value else fields.lookup other := by
  have replaced : (fields.map fun field => if field.1 = key then (key, value) else field).lookup
      other = if other = key then (fields.lookup other).map fun _ => value
        else fields.lookup other := by
    induction fields with
    | nil => simp
    | cons field rest ih => grind
  rw [setItem]
  split
  · next known =>
      rw [replaced]
      split
      · next wanted => rw [wanted, ← Option.some_get known, Option.map_some]
      · rfl
  · next new =>
      rw [List.lookup_append, List.lookup_cons, List.lookup_nil]
      by_cases wanted : other = key
      · simp [wanted, Option.not_isSome_iff_eq_none.mp new]
      · simp [wanted, beq_false_of_ne wanted]

theorem dictGet_setItem_of_ne {fields : List (String × Json)} {key other : String} {value : Json}
    (ne : other ≠ key) : dictGet (setItem fields key value) other = dictGet fields other := by
  rw [dictGet, dictGet, lookup_setItem, if_neg ne]

theorem firstPresent_setItem {fields : List (String × Json)} {key : String} {value : Json}
    {keys : List String} (others : key ∉ keys) :
    firstPresent (setItem fields key value) keys = firstPresent fields keys := by
  induction keys with
  | nil => rfl
  | cons other rest ih =>
      rw [List.mem_cons, not_or] at others
      rw [firstPresent, firstPresent, List.findSome?_cons, List.findSome?_cons,
        dictGet_setItem_of_ne (Ne.symm others.1)]
      split
      · rfl
      · exact ih others.2

/-- The ratio that the metadata has outside its fields, in the legacy flat shape. -/
def flatRatio (contract : Option Json) : Option (Option ℚ) :=
  (contract.bind Json.asDict).bind candidateRatio

/-- No ratio is looked up under the keys that a correction sets. -/
theorem flatRatio_withSplitRatio :
    flatRatio (some (withSplitRatio contract ratio)) = flatRatio contract := by
  have unread : ∀ (fields : List (String × Json)) (version value : Json),
      candidateRatio (setItem (setItem fields "schema_version" version) "fields" value) =
        candidateRatio fields := by
    intro fields version value
    have first : ∀ keys ∈ [ratioKeys, numeratorKeys, denominatorKeys],
        firstPresent (setItem (setItem fields "schema_version" version) "fields" value) keys =
          firstPresent fields keys := by
      intro keys member
      have others : "schema_version" ∉ keys ∧ "fields" ∉ keys := by
        revert keys
        decide
      rw [firstPresent_setItem others.2, firstPresent_setItem others.1]
    rw [candidateRatio, candidateRatio, first _ (by simp), first _ (by simp), first _ (by simp)]
  rw [flatRatio, flatRatio, withSplitRatio, Option.bind_some, Json.asDict, Option.bind_some, unread]
  cases contract.bind Json.asDict with
  | none => rfl
  | some metadata => rfl

theorem quantityEventRatio_withSplitRatio {decimal : Decimal} (positive : 0 < decimal.value)
    (written : ratio = ⟨decimal.value, decimal.str⟩) :
    quantityEventRatio (some (withSplitRatio contract ratio)) =
      (flatRatio contract).getD (some ratio.value) := by
  have corrected : ∀ fields : List (String × Json),
      candidateRatio (setItem fields "split_ratio" (.string ratio.text)) =
        some (some ratio.value) := by
    intro fields
    have isFirst : firstPresent (setItem fields "split_ratio" (.string ratio.text)) ratioKeys =
        some (.string ratio.text) := by
      simp [firstPresent, ratioKeys, dictGet, lookup_setItem]
    rw [candidateRatio, isFirst, written]
    exact congrArg some (Decimal.positiveRatio_str positive)
  have flat : flatRatio (some (withSplitRatio contract ratio)) = flatRatio contract :=
    flatRatio_withSplitRatio
  rw [← flat]
  simp only [flatRatio, withSplitRatio, Option.bind_some, Json.asDict, quantityEventRatio,
    ratioCandidates, dictGet, lookup_setItem, if_true, Option.toList_some, List.cons_append,
    List.nil_append, List.findSome?_cons, corrected]
  split
  · next found => rw [found]; rfl
  · next missing => rw [missing]; rfl

/-- A transaction after some corrections, which were handled one after the other. -/
inductive Corrected (transaction : Transaction) : List DataQualityCorrection → Transaction → Prop
  | start : Corrected transaction [] transaction
  | correct {bodies : List DataQualityCorrection} {last : Transaction} {writer : Writer}
      {body : DataQualityCorrection} {attached : AttachedTable → List Attached} {write : Write last}
      (before : Corrected transaction bodies last)
      (handled : correctDataQuality writer body last attached = .ok write) :
      Corrected transaction (bodies ++ [body]) write.changed

/-- A positive decimal and its text. -/
def IsWritten (ratio : DecimalText) : Prop :=
  ∃ decimal : Decimal, 0 < decimal.value ∧ ratio = ⟨decimal.value, decimal.str⟩

/-- After any corrections of a transaction the ratio that is read is that of the last one with a
ratio, unless the metadata has one in the legacy flat shape, which hides them all. -/
theorem corrected_ratio_read (transaction last : Transaction) (bodies : List DataQualityCorrection)
    (corrected : Corrected transaction bodies last)
    (written : ∀ body ∈ bodies, ∀ ratio ∈ body.splitRatio, IsWritten ratio) :
    quantityEventRatio last.providerMetadataContract =
      match (bodies.filterMap DataQualityCorrection.splitRatio).getLast? with
      | none => quantityEventRatio transaction.providerMetadataContract
      | some ratio => (flatRatio transaction.providerMetadataContract).getD (some ratio.value) := by
  refine (?_ : flatRatio last.providerMetadataContract =
    flatRatio transaction.providerMetadataContract ∧ _).2
  induction corrected with
  | start => exact ⟨rfl, rfl⟩
  | @correct bodies last writer body attached write before handled ih =>
      obtain ⟨sameFlat, isRead⟩ := ih fun body member =>
        written body (List.mem_append_left _ member)
      rw [contract_of_correctDataQuality handled, List.filterMap_append]
      cases named : body.splitRatio with
      | none =>
          rw [List.filterMap_cons_none named, List.filterMap_nil, List.append_nil]
          exact ⟨sameFlat, isRead⟩
      | some ratio =>
          obtain ⟨decimal, positive, isText⟩ := written body (by simp) ratio named
          rw [Option.map_some, Option.some_or, flatRatio_withSplitRatio,
            quantityEventRatio_withSplitRatio positive isText, sameFlat]
          simp [named]

/-- A split of three for two. -/
def threeForTwo : DataQualityCorrection where
  splitRatio := some ⟨(⟨15, -1⟩ : Decimal).value, (⟨15, -1⟩ : Decimal).str⟩

def splitTransaction : Transaction where
  id := 1
  tenantId := 1
  accountId := 1
  providerKey := "saxo"
  externalTransactionId := "split"
  amount := 0
  currencyCode := "EUR"
  occurredAt := 0
  transactionType := .split

theorem three_for_two_read : ∃ last, Corrected splitTransaction [threeForTwo] last ∧
    quantityEventRatio last.providerMetadataContract = some (3 / 2) := by
  have handled : ∃ write, correctDataQuality ⟨none, id, 0⟩ threeForTwo splitTransaction
      (fun _ => []) = .ok write := ⟨_, rfl⟩
  obtain ⟨write, isWrite⟩ := handled
  have corrected : Corrected splitTransaction ([] ++ [threeForTwo]) write.changed :=
    .correct .start isWrite
  have written : ∀ body ∈ [threeForTwo], ∀ ratio ∈ body.splitRatio, IsWritten ratio := by
    intro body isBody ratio isRatio
    rw [List.mem_singleton.mp isBody] at isRatio
    exact ⟨⟨15, -1⟩, by decide +kernel, (Option.some_inj.mp isRatio).symm⟩
  refine ⟨_, corrected, ?_⟩
  rw [corrected_ratio_read _ _ _ corrected written]
  decide +kernel

end Ratios

end FinanceSync.Visibility
