import FinanceSync.Persistence.Transactions

/-!
# One stored row under both upserts

A transaction that is stored already is written by `persist_transaction` field by
field, compared in Python, and by `persist_transactions_batch` column by column,
compared in SQL.  This module says for one stored row when the two leave the same
columns and the same revision.
-/

namespace FinanceSync.Persistence

/-! ## The values of both paths -/

theorem PyValue.stored_dumped (value : PyValue) : value.dumped.stored = value.stored := by
  cases value <;> rfl

theorem isDistinct_eq_false_iff {new old : Option PyValue} :
    isDistinct new old = false ↔ new.map PyValue.stored = old.map PyValue.stored := by
  simp [isDistinct]

/-- Both paths list the same columns. -/
theorem mem_transactionUpdateColumns_iff (field : Field) :
    field ∈ transactionUpdateColumns ↔ field ∈ transactionFields ++ [.securityId] := by
  cases field <;> decide

theorem extensionFields_subset {field : Field} (extension : field ∈ extensionFields) :
    field ∈ transactionUpdateColumns := by
  revert field
  decide

variable (transaction : CanonicalTransactionData) (securityId : Option Uuid)

/-- Both paths start from the same value, but for the enumerations and for the
export decision, which the per-row path does not have. -/
theorem transactionRow_eq {field : Field} (notType : field ≠ .transactionType)
    (notStatus : field ≠ .status) (notExport : field ≠ .exportStatus) :
    transactionRow transaction securityId field =
      (incomingTransaction transaction securityId field).map PyValue.dumped := by
  cases field <;> first | rfl | contradiction | skip
  cases securityId <;> rfl

/-- A text that is read as a member of its enumeration keeps its text. -/
def EnumsKnown : Prop :=
  (StrEnum.ofValue? (α := TransactionType) transaction.transactionType).isSome ∧
    (StrEnum.ofValue? (α := TransactionStatus) transaction.status).isSome

theorem stored_transactionRow (known : EnumsKnown transaction) {field : Field}
    (notExport : field ≠ .exportStatus) :
    (transactionRow transaction securityId field).map PyValue.stored =
      (incomingTransaction transaction securityId field).map PyValue.stored := by
  by_cases isType : field = .transactionType
  · subst isType
    simp only [transactionRow, incomingTransaction, CanonicalTransactionData.getattr]
    rw [StrEnum.value_coerce known.1]
  · by_cases isStatus : field = .status
    · subst isStatus
      simp only [transactionRow, incomingTransaction, CanonicalTransactionData.getattr]
      rw [StrEnum.value_coerce known.2]
    · rw [transactionRow_eq transaction securityId isType isStatus notExport, Option.map_map]
      congr 1
      funext value
      exact value.stored_dumped

/-! ## What is changed on each path -/

variable (named : List Field) (old : Attributes)

/-- The fields that `persist_transaction` changes. -/
abbrev changedByRow : List Field :=
  changedTransactionFields (incomingTransaction transaction securityId) old

/-- The values that `persist_transactions_batch` sends. -/
abbrev sentByBatch : Attributes := sentValues named (transactionRow transaction securityId)

variable {transaction securityId named old}

theorem mem_columns_of_isSome {field : Field}
    (given : (incomingTransaction transaction securityId field).isSome) :
    field ∈ transactionUpdateColumns := by
  cases field <;> first | decide | cases given

theorem mem_changedByRow_iff {field : Field} :
    field ∈ changedByRow transaction securityId old ↔
      (incomingTransaction transaction securityId field).isSome ∧
        valuesDiffer (incomingTransaction transaction securityId field) (old field) = true ∧
        ¬ (field = .classificationOverride ∧ (old .classificationOverride).isSome) := by
  have listed : (incomingTransaction transaction securityId field).isSome →
      field ∈ transactionFields ++ [.securityId] := by
    intro given
    exact (mem_transactionUpdateColumns_iff field).mp (mem_columns_of_isSome given)
  simp only [changedByRow, changedTransactionFields, changedFields, List.mem_filter,
    Bool.and_eq_true, Bool.not_eq_true', Bool.and_eq_false_imp, decide_eq_true_eq,
    Option.isSome_eq_false_iff, not_and]
  constructor
  · rintro ⟨⟨-, given, differs⟩, unguarded⟩
    exact ⟨given, differs, fun same => by simpa using unguarded same⟩
  · rintro ⟨given, differs, unguarded⟩
    exact ⟨⟨listed given, given, differs⟩, fun same => by simpa using unguarded same⟩

theorem mem_columns_of_changed {field : Field}
    (changed : field ∈ changedByRow transaction securityId old) :
    field ∈ transactionUpdateColumns :=
  mem_columns_of_isSome (mem_changedByRow_iff.mp changed).1

/-- The export decision is derived in the batch only. -/
theorem exportStatus_not_mem_changedByRow :
    .exportStatus ∉ changedByRow transaction securityId old := by
  intro changed
  cases (mem_changedByRow_iff.mp changed).1

/-- The statement names the field: all but the extension fields always are. -/
def Named (named : List Field) (field : Field) : Prop :=
  field ∈ extensionFields → field ∈ named

theorem sentByBatch_of_named {field : Field} (isNamed : Named named field) :
    sentByBatch transaction securityId named field =
      transactionRow transaction securityId field := by
  rw [sentByBatch, sentValues, if_neg]
  rintro ⟨extension, unnamed⟩
  exact unnamed (isNamed extension)

theorem sentByBatch_of_not_named {field : Field} (unnamed : ¬ Named named field) :
    sentByBatch transaction securityId named field = none := by
  rw [Named, Classical.not_imp] at unnamed
  rw [sentByBatch, sentValues, if_pos unnamed]

/-- A value that is sent is the one that the per-row path compares. -/
theorem stored_sentByBatch (known : EnumsKnown transaction) {field : Field}
    (isNamed : Named named field) (notExport : field ≠ .exportStatus) :
    (sentByBatch transaction securityId named field).map PyValue.stored =
      (incomingTransaction transaction securityId field).map PyValue.stored := by
  rw [sentByBatch_of_named isNamed,
    stored_transactionRow transaction securityId known notExport]

theorem isDistinct_sentByBatch (known : EnumsKnown transaction) {field : Field}
    (isNamed : Named named field) (notExport : field ≠ .exportStatus) (existing : Option PyValue) :
    isDistinct (sentByBatch transaction securityId named field) existing =
      isDistinct (incomingTransaction transaction securityId field) existing := by
  rw [isDistinct, stored_sentByBatch known isNamed notExport, isDistinct]

theorem isSome_sentByBatch (known : EnumsKnown transaction) {field : Field}
    (isNamed : Named named field) (notExport : field ≠ .exportStatus) :
    (sentByBatch transaction securityId named field).isSome =
      (incomingTransaction transaction securityId field).isSome := by
  rw [← Option.isSome_map (f := PyValue.stored), stored_sentByBatch known isNamed notExport,
    Option.isSome_map]

/-- Only a value that is named is sent. -/
theorem named_of_sent {field : Field}
    (sent : (sentByBatch transaction securityId named field).isSome) : Named named field := by
  by_contra unnamed
  rw [sentByBatch_of_not_named unnamed] at sent
  cases sent

/-- The statement would change the column. -/
def ChangedBySql (incoming existing : Attributes) (column : Field) : Prop :=
  isDistinct (coalesce (incoming column) (existing column)) (existing column) = true

theorem updateFires_iff {columns : List Field} {incoming existing : Attributes} :
    updateFires columns incoming existing = true ↔
      ∃ column ∈ columns, ChangedBySql incoming existing column := by
  simp [updateFires, ChangedBySql]

/-- The statement would change a column exactly if it sends a value for it that
is distinct. -/
theorem changedBySql_iff {incoming existing : Attributes} {column : Field} :
    ChangedBySql incoming existing column ↔
      (incoming column).isSome ∧ isDistinct (incoming column) (existing column) = true := by
  rw [ChangedBySql]
  cases incoming column with
  | none => simp [coalesce, isDistinct]
  | some value => simp [coalesce]

/-! ## The outcome of both paths -/

/-- Both paths write the row or both leave it, and if they write it then each
column holds the same value afterwards. -/
def SameUpdate (transaction : CanonicalTransactionData) (securityId : Option Uuid)
    (named : List Field) (old : Attributes) : Prop :=
  (changedByRow transaction securityId old = [] ↔
      updateFires transactionUpdateColumns (sentByBatch transaction securityId named) old =
        false) ∧
    (changedByRow transaction securityId old ≠ [] → ∀ column ∈ transactionUpdateColumns,
      (setFields (changedByRow transaction securityId old)
          (incomingTransaction transaction securityId) old column).map PyValue.stored =
        (updateSet transactionUpdateColumns (sentByBatch transaction securityId named) old
          column).map PyValue.stored)

/-- Column by column: what the statement would change is changed in Python, what
is changed in Python gets the same value from the statement, and it is never that
Python changes the row and the statement does not. -/
theorem sameUpdate_iff_columns :
    SameUpdate transaction securityId named old ↔
      (∀ column ∈ transactionUpdateColumns,
        ChangedBySql (sentByBatch transaction securityId named) old column →
          column ∈ changedByRow transaction securityId old) ∧
      (∀ column ∈ changedByRow transaction securityId old,
        (incomingTransaction transaction securityId column).map PyValue.stored =
          (coalesce (sentByBatch transaction securityId named column) (old column)).map
            PyValue.stored) ∧
      (changedByRow transaction securityId old ≠ [] → ∃ column ∈ transactionUpdateColumns,
        ChangedBySql (sentByBatch transaction securityId named) old column) := by
  have quiet : updateFires transactionUpdateColumns (sentByBatch transaction securityId named)
      old = false ↔ ¬ ∃ column ∈ transactionUpdateColumns,
        ChangedBySql (sentByBatch transaction securityId named) old column := by
    rw [← updateFires_iff, Bool.not_eq_true]
  have unwritten : ∀ {column}, ¬ ChangedBySql (sentByBatch transaction securityId named) old
      column ↔ (coalesce (sentByBatch transaction securityId named column)
        (old column)).map PyValue.stored = (old column).map PyValue.stored := by
    intro column
    rw [ChangedBySql, Bool.not_eq_true, isDistinct_eq_false_iff]
  have set : ∀ {column}, column ∈ transactionUpdateColumns →
      updateSet transactionUpdateColumns (sentByBatch transaction securityId named) old column =
        coalesce (sentByBatch transaction securityId named column) (old column) :=
    fun isMem => if_pos isMem
  rw [SameUpdate, quiet]
  constructor
  · rintro ⟨bothQuiet, sameColumns⟩
    have written : (∃ column ∈ transactionUpdateColumns,
        ChangedBySql (sentByBatch transaction securityId named) old column) →
        changedByRow transaction securityId old ≠ [] :=
      fun fires same => bothQuiet.mp same fires
    refine ⟨?_, ?_, ?_⟩
    · intro column isMem changes
      by_contra untouched
      apply unwritten.mpr ?_ changes
      have same := sameColumns (written ⟨column, isMem, changes⟩) column isMem
      rw [set isMem, setFields, if_neg untouched] at same
      exact same.symm
    · intro column changed
      have isMem : column ∈ transactionUpdateColumns := mem_columns_of_changed changed
      have same := sameColumns (List.ne_nil_of_mem changed) column isMem
      rwa [set isMem, setFields, if_pos changed] at same
    · intro changed
      by_contra noneFires
      exact changed (bothQuiet.mpr noneFires)
  · rintro ⟨bySql, sameValue, fires⟩
    constructor
    · constructor
      · rintro same ⟨column, isMem, changes⟩
        have := bySql column isMem changes
        rw [same] at this
        cases this
      · intro noneFires
        by_contra changed
        exact noneFires (fires changed)
    · intro _ column isMem
      rw [set isMem, setFields]
      split
      · next changed => exact sameValue column changed
      · next untouched =>
          exact (unwritten.mp fun changes => untouched (bySql column isMem changes)).symm

/-- A text that both paths write or both leave is the same text. -/
theorem text_eq_of_columns (column : Field) {raw text : String}
    (plain : column ≠ .classificationOverride)
    (compared : incomingTransaction transaction securityId column = some (.text raw))
    (sent : sentByBatch transaction securityId named column = some (.text text))
    (bySql : ChangedBySql (sentByBatch transaction securityId named) old column →
      column ∈ changedByRow transaction securityId old)
    (sameValue : column ∈ changedByRow transaction securityId old →
      (incomingTransaction transaction securityId column).map PyValue.stored =
        (coalesce (sentByBatch transaction securityId named column) (old column)).map
          PyValue.stored) : text = raw := by
  by_cases changed : column ∈ changedByRow transaction securityId old
  · have same := sameValue changed
    rw [compared, sent, coalesce, Option.some_or, Option.map_some, Option.map_some,
      Option.some_inj] at same
    injection same.symm
  · have stored : (old column).map PyValue.stored = some (.text text) := by
      by_contra distinct
      apply changed
      apply bySql
      rw [changedBySql_iff, sent]
      exact ⟨rfl, by simpa [isDistinct, PyValue.stored] using Ne.symm distinct⟩
    obtain ⟨value, isOld, valueText⟩ := Option.map_eq_some_iff.mp stored
    have sameText : valuesDiffer (some (.text raw)) (old column) = false := by
      by_contra differs
      apply changed
      rw [mem_changedByRow_iff, compared]
      exact ⟨rfl, by simpa using differs, fun guarded => plain guarded.1⟩
    cases value <;> cases valueText
    rw [isOld] at sameText
    simp only [valuesDiffer, isDecimal, str, Bool.or_self, Bool.false_eq_true, if_false,
      ne_eq, decide_not, Bool.not_eq_false', decide_eq_true_eq, PyText.plain.injEq] at sameText
    exact sameText.symm

/-! ## When they agree -/

/-- When both paths do the same to a stored row. -/
structure RowAgrees (transaction : CanonicalTransactionData) (securityId : Option Uuid)
    (named : List Field) (old : Attributes) : Prop where
  /-- The per-row path does not refresh the export decision. -/
  exportStatus : (old .exportStatus).map PyValue.stored =
    some (.text (transactionExportStatus transaction))
  /-- The per-row path writes the texts of unknown enumeration members. -/
  enums : EnumsKnown transaction
  /-- The batch replaces an override that is stored. -/
  override : (old .classificationOverride).isSome → Named named .classificationOverride →
    ∀ value, transaction.classificationOverride = some value →
      isDistinct (some (.text value)) (old .classificationOverride) = false
  /-- The batch drops a value that the first row of its statement lacks. -/
  unnamed : ∀ field ∈ changedByRow transaction securityId old, ¬ Named named field →
    isDistinct (incomingTransaction transaction securityId field) (old field) = false
  /-- Values that Python takes for the same are the same in SQL. -/
  sameText : ∀ field, Named named field →
    (incomingTransaction transaction securityId field).isSome →
    valuesDiffer (incomingTransaction transaction securityId field) (old field) = false →
      isDistinct (incomingTransaction transaction securityId field) (old field) = false
  /-- If Python finds a difference then there is one in SQL. -/
  difference : changedByRow transaction securityId old ≠ [] →
    ∃ field ∈ changedByRow transaction securityId old,
      isDistinct (incomingTransaction transaction securityId field) (old field) = true

theorem sameUpdate_iff :
    SameUpdate transaction securityId named old ↔
      RowAgrees transaction securityId named old := by
  rw [sameUpdate_iff_columns]
  constructor
  · rintro ⟨bySql, sameValue, fires⟩
    have untouched : ∀ {column}, column ∈ transactionUpdateColumns →
        column ∉ changedByRow transaction securityId old →
        (sentByBatch transaction securityId named column).isSome →
        isDistinct (sentByBatch transaction securityId named column) (old column) = false := by
      intro column isMem unchanged sent
      by_contra distinct
      rw [Bool.not_eq_false] at distinct
      exact unchanged (bySql column isMem (changedBySql_iff.mpr ⟨sent, distinct⟩))
    have known : EnumsKnown transaction := by
      constructor
      · apply (StrEnum.value_coerce_eq_iff TransactionType.other (by decide)).mp
        exact text_eq_of_columns .transactionType (by decide) rfl
          (sentByBatch_of_named fun _ => by contradiction) (bySql _ (by decide)) (sameValue _)
      · apply (StrEnum.value_coerce_eq_iff TransactionStatus.pending (by decide)).mp
        exact text_eq_of_columns .status (by decide) rfl
          (sentByBatch_of_named fun _ => by contradiction) (bySql _ (by decide)) (sameValue _)
    have unchanged : ∀ {column}, column ≠ .exportStatus → Named named column →
        (incomingTransaction transaction securityId column).isSome →
        column ∉ changedByRow transaction securityId old →
        isDistinct (incomingTransaction transaction securityId column) (old column) = false := by
      intro column notExport isNamed given unchanged
      rw [← isDistinct_sentByBatch known isNamed notExport]
      apply untouched (mem_columns_of_isSome given) unchanged
      rwa [isSome_sentByBatch known isNamed notExport]
    refine ⟨?_, known, ?_, ?_, ?_, ?_⟩
    · have same := untouched (by decide) exportStatus_not_mem_changedByRow
        (by rw [sentByBatch_of_named fun _ => by contradiction]; rfl)
      rw [sentByBatch_of_named fun _ => by contradiction] at same
      exact (isDistinct_eq_false_iff.mp same).symm
    · intro stored isNamed value given
      have compared : incomingTransaction transaction securityId .classificationOverride =
          some (.text value) := congrArg (Option.map PyValue.text) given
      rw [← compared]
      apply unchanged (by decide) isNamed (by rw [compared]; rfl)
      intro changed
      exact (mem_changedByRow_iff.mp changed).2.2 ⟨rfl, stored⟩
    · intro field changed unnamed
      have same := sameValue field changed
      rw [sentByBatch_of_not_named unnamed, coalesce, Option.none_or] at same
      exact isDistinct_eq_false_iff.mpr same
    · intro field isNamed given sameText
      apply unchanged ?_ isNamed given
      · intro changed
        rw [(mem_changedByRow_iff.mp changed).2.1] at sameText
        cases sameText
      · rintro rfl
        cases given
    · intro changed
      obtain ⟨column, isMem, changes⟩ := fires changed
      have columnChanged := bySql column isMem changes
      refine ⟨column, columnChanged, ?_⟩
      obtain ⟨sent, distinct⟩ := changedBySql_iff.mp changes
      rwa [isDistinct_sentByBatch known (named_of_sent sent)] at distinct
      rintro rfl
      exact exportStatus_not_mem_changedByRow columnChanged
  · intro agrees
    refine ⟨?_, ?_, ?_⟩
    · intro column isMem changes
      obtain ⟨sent, distinct⟩ := changedBySql_iff.mp changes
      have isNamed := named_of_sent sent
      by_cases isExport : column = .exportStatus
      · subst isExport
        have same : (transactionRow transaction securityId .exportStatus).map PyValue.stored =
            (old .exportStatus).map PyValue.stored := agrees.exportStatus.symm
        rw [sentByBatch_of_named isNamed, isDistinct_eq_false_iff.mpr same] at distinct
        cases distinct
      · rw [isDistinct_sentByBatch agrees.enums isNamed isExport] at distinct
        rw [isSome_sentByBatch agrees.enums isNamed isExport] at sent
        rw [mem_changedByRow_iff]
        refine ⟨sent, ?_, ?_⟩
        · by_contra sameText
          rw [agrees.sameText column isNamed sent (by simpa using sameText)] at distinct
          cases distinct
        · rintro ⟨rfl, stored⟩
          obtain ⟨value, given⟩ := Option.isSome_iff_exists.mp sent
          obtain ⟨text, isText, rfl⟩ := Option.map_eq_some_iff.mp given
          rw [given, agrees.override stored isNamed text isText] at distinct
          cases distinct
    · intro column changed
      have notExport : column ≠ .exportStatus := by
        rintro rfl
        exact exportStatus_not_mem_changedByRow changed
      by_cases isNamed : Named named column
      · obtain ⟨value, sent⟩ := Option.isSome_iff_exists.mp
          ((isSome_sentByBatch agrees.enums isNamed notExport).trans
            (mem_changedByRow_iff.mp changed).1)
        rw [← stored_sentByBatch agrees.enums isNamed notExport, sent, coalesce,
          Option.some_or]
      · rw [sentByBatch_of_not_named isNamed, coalesce, Option.none_or]
        exact isDistinct_eq_false_iff.mp (agrees.unnamed column changed isNamed)
    · intro changed
      obtain ⟨column, columnChanged, distinct⟩ := agrees.difference changed
      have isNamed : Named named column := by
        by_contra unnamed
        rw [agrees.unnamed column columnChanged unnamed] at distinct
        cases distinct
      have notExport : column ≠ .exportStatus := by
        rintro rfl
        exact exportStatus_not_mem_changedByRow columnChanged
      refine ⟨column, mem_columns_of_changed columnChanged, changedBySql_iff.mpr ⟨?_, ?_⟩⟩
      · rw [isSome_sentByBatch agrees.enums isNamed notExport]
        exact (mem_changedByRow_iff.mp columnChanged).1
      · rwa [isDistinct_sentByBatch agrees.enums isNamed notExport]

end FinanceSync.Persistence
