import FinanceSync.Wealthfolio.HoldingsConvergence

/-!
# Reconciliation of holdings

After the corrections a checker compares the rows with the positions once more.  It
reads the names that the instruments expose, and a position that exposes a name
again hides the ones before it.
-/

namespace FinanceSync.Wealthfolio

open Lib

/-! ## The checker -/

/-- What the checker reads of an account. -/
structure CheckedAccount where
  id : String
  name : String
  availableBalance : Option ℚ
  currentBalance : Option ℚ

structure Finding where
  accountId : String
  accountName : String
  error : String
deriving DecidableEq

/-- The tolerances of a reconciliation. -/
structure Tolerances where
  absolute : ℚ
  percentage : ℚ

namespace Tolerances

/-- How far a position may be from its row. -/
def ofQuantity (tolerances : Tolerances) (quantity : ℚ) : ℚ :=
  max (max tolerances.absolute (|quantity| * tolerances.percentage)) (1 / 100)

/-- How far the value of the portfolio may be from that of the rows. -/
def ofValue (tolerances : Tolerances) (value : ℚ) : ℚ :=
  max tolerances.absolute (|value| * tolerances.percentage)

end Tolerances

def positionError (symbol : String) : String :=
  "Positie-afwijking voor opgeloste security " ++ symbol ++ "."

def outsideError : String := "Wealthfolio bevat posities buiten de bronsnapshot."

def valueError : String := "Portefeuillewaarde buiten ingestelde tolerantie."

/-- The symbol and the ISIN of a row. -/
def sourceIdentities (row : HoldingRow) : List String :=
  identitiesOf [some row.symbol, some row.isin]

/-- The names that the instrument of a position exposes; cash exposes none. -/
def exposed (row : RemoteRow) : List String :=
  if row.isCash then []
  else identitiesOf
    [row.instrumentOf.isin, row.instrumentOf.symbol, row.instrumentOf.displayCode]

/-- What is written to the dict of quantities, in order. -/
def remoteQuantities (remoteRows : List RemoteRow) : List (String × ℚ) :=
  remoteRows.flatMap fun row => (exposed row).map fun name => (name, row.quantity)

/-- The quantity under a name is the one that was written last. -/
def quantityUnder (written : List (String × ℚ)) (name : String) : Option ℚ :=
  written.reverse.lookup name

/-- The finding of a row.  `setOrder` is the order in which a set is read. -/
def positionFinding (setOrder : List String → List String) (account : CheckedAccount)
    (tolerances : Tolerances) (written : List (String × ℚ)) (row : HoldingRow) : Option Finding :=
  if sourceIdentities row = [] then none
  else
    let quantity := quantityOf row.quantity
    let finding := Finding.mk account.id account.name (positionError row.symbol)
    match (setOrder (sourceIdentities row)).findSome? (quantityUnder written) with
    | none => some finding
    | some remoteQuantity =>
        if tolerances.ofQuantity quantity < |remoteQuantity - quantity| then some finding
        else none

/-- The value of the rows with the cash of the account, where every row has a price. -/
def sourceValue (account : CheckedAccount) (sourceRows : List HoldingRow) : Option ℚ :=
  if sourceRows = [] then account.currentBalance
  else if sourceRows.all (·.snapshotPrice.isSome) then
    some ((sourceRows.map fun row => quantityOf row.quantity * row.snapshotPrice.getD 0).sum +
      (((account.availableBalance.filter (· ≠ 0)).or account.currentBalance).getD 0))
  else none

def valueFinding (account : CheckedAccount) (tolerances : Tolerances)
    (sourceRows : List HoldingRow) (remoteRows : List RemoteRow) : Option Finding :=
  let remoteValue := (remoteRows.map fun row => row.marketValue.getD 0).sum
  match sourceValue account sourceRows with
  | none => none
  | some value =>
      if remoteRows ≠ [] ∧ tolerances.ofValue value < |value - remoteValue| then
        some ⟨account.id, account.name, valueError⟩
      else none

/-- Return visible, path-free reconciliation findings. -/
def reconcileHoldings (setOrder : List String → List String) (account : CheckedAccount)
    (tolerances : Tolerances) (sourceRows : List HoldingRow) (remoteRows : List RemoteRow) :
    List Finding :=
  let written := remoteQuantities remoteRows
  let extra := written.any fun write => write.1 ∉ sourceRows.flatMap sourceIdentities
  sourceRows.filterMap (positionFinding setOrder account tolerances written) ++
    (if extra then [⟨account.id, account.name, outsideError⟩] else []) ++
    (valueFinding account tolerances sourceRows remoteRows).toList

/-! ## The position that is read for a row -/

variable {setOrder : List String → List String}

/-- The last position that exposes a name. -/
def lastExposing (remote : List Entry) (name : String) : Option Entry :=
  remote.reverse.find? fun entry => name ∈ exposed entry.row

/-- The position that is read for a row: the last one that exposes its first name
that is exposed. -/
def readFor (setOrder : List String → List String) (remote : List Entry) (source : Entry) :
    Option Entry :=
  (setOrder source.names).findSome? (lastExposing remote)

theorem exposed_subset_aliases {row : RemoteRow} {name : String} (shown : name ∈ exposed row) :
    row.isCash = false ∧ name ∈ aliases row := by
  rw [exposed] at shown
  split at shown
  · cases shown
  · next noCash =>
      refine ⟨by simpa using noCash, ?_⟩
      simp only [identitiesOf, aliases, List.mem_map, List.mem_filterMap] at shown ⊢
      obtain ⟨value, ⟨text, isOne, kept⟩, same⟩ := shown
      refine ⟨value, ⟨text, ?_, kept⟩, same⟩
      simp only [List.mem_cons, List.not_mem_nil, or_false] at isOne ⊢
      tauto

theorem remoteEntry_of_exposed {row : RemoteRow} {name : String} (shown : name ∈ exposed row)
    (place : Nat) :
    remoteEntry row place = some ⟨row, aliases row, cents row.quantity, place⟩ := by
  obtain ⟨noCash, named⟩ := exposed_subset_aliases shown
  rw [remoteEntry, noCash, if_neg (by decide), entryOf, if_neg (List.ne_nil_of_mem named)]

theorem lookup_exposed (row : RemoteRow) (name : String) :
    ((exposed row).map fun shown => (shown, row.quantity)).reverse.lookup name =
      if name ∈ exposed row then some row.quantity else none := by
  rw [← List.map_reverse]
  have shownMem : name ∈ exposed row ↔ name ∈ (exposed row).reverse := List.mem_reverse.symm
  simp only [shownMem]
  induction (exposed row).reverse with
  | nil => rfl
  | cons shown rest ih =>
      by_cases same : name = shown
      · simp [same]
      · have differ : (name == shown) = false := by simpa using same
        rw [List.map_cons, List.lookup_cons, differ]
        simpa [same] using ih

/-- The quantity under a name is that of the last position that exposes it. -/
theorem quantityUnder_eq (remoteRows : List RemoteRow) (name : String) :
    quantityUnder (remoteQuantities remoteRows) name =
      (lastExposing (remoteEntries remoteRows) name).map (·.row.quantity) := by
  rw [remoteEntries]
  generalize 0 = start
  induction remoteRows generalizing start with
  | nil => rfl
  | cons row remoteRows ih =>
      have rest := ih (start + 1)
      rw [quantityUnder] at rest ⊢
      rw [remoteQuantities, List.flatMap_cons, List.reverse_append, List.lookup_append,
        ← remoteQuantities, rest, lookup_exposed, List.zipIdx_cons]
      rw [List.filterMap_cons]
      by_cases shown : name ∈ exposed row
      · simp only [if_pos shown, remoteEntry_of_exposed shown]
        rw [lastExposing, lastExposing, List.reverse_cons, List.find?_append]
        cases List.find? _ _ with
        | some entry => rfl
        | none => simp [shown]
      · rw [if_neg shown, Option.or_none]
        cases isEntry : remoteEntry row start with
        | none => rfl
        | some entry =>
            simp only [lastExposing, List.reverse_cons, List.find?_append,
              (remoteEntry_some isEntry).1]
            simp [shown]

/-! ## Findings -/

variable {account : CheckedAccount} {tolerances : Tolerances} {sourceRows : List HoldingRow}
  {remoteRows : List RemoteRow}

/-- The quantity of the position lies within the tolerance of the row. -/
def Near (tolerances : Tolerances) (source entry : Entry) : Prop :=
  |entry.row.quantity - source.row.quantity| ≤ tolerances.ofQuantity source.row.quantity

theorem sourceIdentities_eq (row : HoldingRow) : sourceIdentities row = aliases row.asRemote :=
  rfl

theorem mem_entries_of_row {row : HoldingRow} (rowMem : row ∈ sourceRows)
    (named : aliases row.asRemote ≠ []) : ∃ source ∈ sourceEntries sourceRows,
      source.row = row.asRemote ∧ source.names = aliases row.asRemote := by
  obtain ⟨place, within, isRow⟩ := List.mem_iff_getElem.mp rowMem
  have indexed : (row, place) ∈ sourceRows.zipIdx :=
    List.mk_mem_zipIdx_iff_getElem?.mpr (by rw [List.getElem?_eq_getElem within, isRow])
  refine ⟨_, List.mem_filterMap.mpr ⟨_, indexed, if_neg named⟩, rfl, rfl⟩

theorem mem_entries_of_exposed {row : RemoteRow} (rowMem : row ∈ remoteRows) {name : String}
    (shown : name ∈ exposed row) : ∃ entry ∈ remoteEntries remoteRows, entry.row = row := by
  obtain ⟨place, within, isRow⟩ := List.mem_iff_getElem.mp rowMem
  have indexed : (row, place) ∈ remoteRows.zipIdx :=
    List.mk_mem_zipIdx_iff_getElem?.mpr (by rw [List.getElem?_eq_getElem within, isRow])
  exact ⟨_, List.mem_filterMap.mpr ⟨_, indexed, remoteEntry_of_exposed shown place⟩, rfl⟩

/-- What is read for a row is the quantity of the position. -/
theorem findSome?_quantityUnder (row : HoldingRow) {source : Entry}
    (names : source.names = aliases row.asRemote) :
    (setOrder (sourceIdentities row)).findSome? (quantityUnder (remoteQuantities remoteRows)) =
      (readFor setOrder (remoteEntries remoteRows) source).map (·.row.quantity) := by
  rw [readFor, names, sourceIdentities_eq, List.map_findSome?]
  congr 1
  funext name
  exact quantityUnder_eq remoteRows name

theorem positionFinding_eq_none_iff {row : HoldingRow} {source : Entry}
    (isRow : source.row = row.asRemote) (names : source.names = aliases row.asRemote)
    (named : aliases row.asRemote ≠ []) :
    positionFinding setOrder account tolerances (remoteQuantities remoteRows) row = none ↔
      ∃ entry, readFor setOrder (remoteEntries remoteRows) source = some entry ∧
        Near tolerances source entry := by
  rw [positionFinding, if_neg (sourceIdentities_eq row ▸ named)]
  simp only [findSome?_quantityUnder row names]
  cases readFor setOrder (remoteEntries remoteRows) source with
  | none => simp
  | some entry => simp [Near, isRow, HoldingRow.asRemote]

/-- No row has a finding where every row has a near position. -/
theorem positionFindings_eq_nil_iff (account : CheckedAccount) :
    sourceRows.filterMap (positionFinding setOrder account tolerances
        (remoteQuantities remoteRows)) = [] ↔
      ∀ source ∈ sourceEntries sourceRows, ∃ entry,
        readFor setOrder (remoteEntries remoteRows) source = some entry ∧
          Near tolerances source entry := by
  rw [List.filterMap_eq_nil_iff]
  constructor
  · intro silent source sourceMem
    obtain ⟨row, rowMem, isRow, names, named⟩ := mem_sourceEntries sourceMem
    exact (positionFinding_eq_none_iff isRow names (names ▸ named)).mp (silent row rowMem)
  · intro near row rowMem
    by_cases named : aliases row.asRemote = []
    · rw [positionFinding, if_pos (sourceIdentities_eq row ▸ named)]
    · obtain ⟨source, sourceMem, isRow, names⟩ := mem_entries_of_row rowMem named
      exact (positionFinding_eq_none_iff isRow names named).mpr (near source sourceMem)

theorem mem_sourceNames {name : String} : name ∈ sourceRows.flatMap sourceIdentities ↔
    ∃ source ∈ sourceEntries sourceRows, name ∈ source.names := by
  rw [List.mem_flatMap]
  constructor
  · rintro ⟨row, rowMem, nameMem⟩
    obtain ⟨source, sourceMem, -, names⟩ := mem_entries_of_row rowMem (List.ne_nil_of_mem nameMem)
    exact ⟨source, sourceMem, names ▸ nameMem⟩
  · rintro ⟨source, sourceMem, nameMem⟩
    obtain ⟨row, rowMem, -, names, -⟩ := mem_sourceEntries sourceMem
    rw [names, ← sourceIdentities_eq] at nameMem
    exact ⟨row, rowMem, nameMem⟩

theorem not_extra_iff :
    ((remoteQuantities remoteRows).any fun write =>
        write.1 ∉ sourceRows.flatMap sourceIdentities) = false ↔
      ∀ row ∈ remoteRows, ∀ name ∈ exposed row,
        ∃ source ∈ sourceEntries sourceRows, name ∈ source.names := by
  simp only [List.any_eq_false, decide_eq_true_eq, not_not, mem_sourceNames]
  simp only [remoteQuantities, List.mem_flatMap, List.mem_map]
  constructor
  · intro inside row rowMem name shown
    exact inside (name, row.quantity) ⟨row, rowMem, name, shown, rfl⟩
  · rintro inside write ⟨row, rowMem, name, shown, rfl⟩
    exact inside row rowMem name shown

theorem positionError_ne (symbol : String) : positionError symbol ≠ valueError := by
  have start : "Posi".toList <+: "Positie-afwijking voor opgeloste security ".toList := by
    decide +kernel
  have other : ¬"Posi".toList <+: valueError.toList := by decide +kernel
  have parts : (positionError symbol).toList =
      "Positie-afwijking voor opgeloste security ".toList ++ (symbol ++ ".").toList := by
    unfold positionError
    rw [String.append_assoc]
    exact String.toList_append
  intro same
  rw [← same, parts] at other
  exact other (start.trans (List.prefix_append _ _))

theorem outsideError_ne : outsideError ≠ valueError := by decide +kernel

/-- The checker finds at most a difference of value where every row has a near
position and no other name is exposed. -/
theorem reconcileHoldings_iff :
    (∀ finding ∈ reconcileHoldings setOrder account tolerances sourceRows remoteRows,
        finding.error = valueError) ↔
      (∀ source ∈ sourceEntries sourceRows, ∃ entry,
        readFor setOrder (remoteEntries remoteRows) source = some entry ∧
          Near tolerances source entry) ∧
      ∀ row ∈ remoteRows, ∀ name ∈ exposed row,
        ∃ source ∈ sourceEntries sourceRows, name ∈ source.names := by
  rw [← positionFindings_eq_nil_iff account, ← not_extra_iff]
  have isPosition : ∀ row finding, positionFinding setOrder account tolerances
      (remoteQuantities remoteRows) row = some finding → finding.error ≠ valueError := by
    intro row finding found
    simp only [positionFinding] at found
    split at found
    · cases found
    · split at found
      · cases found
        exact positionError_ne row.symbol
      · split at found
        · cases found
          exact positionError_ne row.symbol
        · cases found
  have isValue : ∀ finding ∈ (valueFinding account tolerances sourceRows remoteRows).toList,
      finding.error = valueError := by
    intro finding found
    rw [Option.mem_toList, valueFinding] at found
    split at found
    · cases found
    · split at found
      · cases found
        rfl
      · cases found
  constructor
  · intro value
    constructor
    · rw [List.filterMap_eq_nil_iff]
      intro row rowMem
      cases found : positionFinding setOrder account tolerances
          (remoteQuantities remoteRows) row with
      | none => rfl
      | some finding =>
          refine absurd (value finding ?_) (isPosition row finding found)
          exact List.mem_append_left _ (List.mem_append_left _
            (List.mem_filterMap.mpr ⟨row, rowMem, found⟩))
    · by_contra extra
      refine absurd (value ⟨account.id, account.name, outsideError⟩ ?_) outsideError_ne
      apply List.mem_append_left
      apply List.mem_append_right
      rw [if_pos (by simpa using extra)]
      exact List.mem_singleton_self _
  · rintro ⟨positions, inside⟩ finding findingMem
    rw [reconcileHoldings] at findingMem
    simp only [positions, inside, List.nil_append, if_false, Bool.false_eq_true] at findingMem
    exact isValue finding findingMem

/-! ## Agreement with the corrections -/

/-- The row and the position share names with each other only. -/
structure Alone (sourceRows : List HoldingRow) (remoteRows : List RemoteRow)
    (source entry : Entry) : Prop where
  position : ∀ other ∈ remoteEntries remoteRows, shareName source other = true → other = entry
  row : ∀ other ∈ sourceEntries sourceRows, shareName other entry = true → other = source

/-- Every row has a name that an instrument exposes, instruments expose names of rows
only, and where names are shared with others the position that is read is near. -/
structure Readable (setOrder : List String → List String) (tolerances : Tolerances)
    (sourceRows : List HoldingRow) (remoteRows : List RemoteRow) : Prop where
  shown : ∀ source ∈ sourceEntries sourceRows,
    ∃ row ∈ remoteRows, ∃ name ∈ exposed row, name ∈ source.names
  inside : ∀ row ∈ remoteRows, ∀ name ∈ exposed row,
    ∃ source ∈ sourceEntries sourceRows, name ∈ source.names
  near : ∀ source ∈ sourceEntries sourceRows, ∀ entry,
    readFor setOrder (remoteEntries remoteRows) source = some entry →
      ¬Alone sourceRows remoteRows source entry → Near tolerances source entry

theorem mem_of_readFor (order : ∀ names name, name ∈ setOrder names ↔ name ∈ names)
    {source entry : Entry} (isRead : readFor setOrder (remoteEntries remoteRows) source =
      some entry) :
    entry ∈ remoteEntries remoteRows ∧ shareName source entry = true := by
  obtain ⟨name, nameMem, found⟩ := List.exists_of_findSome?_eq_some isRead
  have entryMem := List.mem_reverse.mp (List.mem_of_find?_eq_some found)
  have shown : name ∈ exposed entry.row := by simpa using List.find?_some found
  refine ⟨entryMem, List.any_eq_true.mpr ⟨name, (order _ _).mp nameMem, ?_⟩⟩
  obtain ⟨⟨row, place⟩, -, isEntry⟩ := List.mem_filterMap.mp entryMem
  rw [(remoteEntry_some isEntry).1] at shown ⊢
  exact decide_eq_true (exposed_subset_aliases shown).2

/-- A position is read for a row that has an exposed name. -/
theorem readFor_isSome_iff (order : ∀ names name, name ∈ setOrder names ↔ name ∈ names)
    {source : Entry} :
    (∃ entry, readFor setOrder (remoteEntries remoteRows) source = some entry) ↔
      ∃ row ∈ remoteRows, ∃ name ∈ exposed row, name ∈ source.names := by
  constructor
  · rintro ⟨entry, isRead⟩
    obtain ⟨name, nameMem, found⟩ := List.exists_of_findSome?_eq_some isRead
    have entryMem := List.mem_reverse.mp (List.mem_of_find?_eq_some found)
    exact ⟨entry.row, List.mem_of_getElem? (mem_remoteEntries entryMem).1, name,
      by simpa using List.find?_some found, (order _ _).mp nameMem⟩
  · rintro ⟨row, rowMem, name, shown, nameMem⟩
    obtain ⟨entry, entryMem, isRow⟩ := mem_entries_of_exposed rowMem shown
    cases isRead : readFor setOrder (remoteEntries remoteRows) source with
    | some entry => exact ⟨entry, rfl⟩
    | none =>
        have missing := List.findSome?_eq_none_iff.mp isRead name ((order _ _).mpr nameMem)
        have hidden := List.find?_eq_none.mp missing entry (List.mem_reverse.mpr entryMem)
        exact absurd (by simpa [isRow] using shown) hidden

/-- Quantities with the same hundredths are near. -/
theorem near_of_cents_eq {source entry : Entry}
    (same : cents entry.row.quantity = cents source.row.quantity) :
    Near tolerances source entry := by
  have first := abs_le.mp (abs_roundHalfEven_sub_le (entry.row.quantity * 100))
  have second := abs_le.mp (abs_roundHalfEven_sub_le (source.row.quantity * 100))
  rw [← cents] at first second
  rw [same] at first
  have close : |entry.row.quantity - source.row.quantity| ≤ 1 / 100 := by
    rw [abs_le]
    constructor
    · linarith
    · linarith
  exact close.trans (le_max_right _ _)

/-- Without corrections a row has the hundredths of the only position it shares
names with. -/
theorem cents_eq_of_alone {context : CorrectionContext}
    (silent : holdingsQuantityCorrections context sourceRows remoteRows = []) {source entry : Entry}
    (sourceMem : source ∈ sourceEntries sourceRows) (entryMem : entry ∈ remoteEntries remoteRows)
    (shares : shareName source entry = true) (alone : Alone sourceRows remoteRows source entry) :
    cents entry.row.quantity = cents source.row.quantity := by
  have taken := FirstFit.assigned_of_alone (nodup_remoteEntries remoteRows) sourceMem entryMem
    shares alone.position alone.row
  have isTarget : targetOf (source, some entry) ∈
      targets (sourceEntries sourceRows) (remoteEntries remoteRows) :=
    List.mem_append_left _ (List.mem_map_of_mem taken)
  have same := correctionOf_eq_none_iff.mp (List.filterMap_eq_nil_iff.mp silent _ isTarget)
  have isCents : source.quantity = cents source.row.quantity := by
    obtain ⟨⟨row, place⟩, -, isEntry⟩ := List.mem_filterMap.mp sourceMem
    rw [(entryOf_some isEntry).1]
  rw [← (mem_remoteEntries entryMem).2.1, ← isCents]
  exact same.symm

/-- Where there is nothing to correct the checker finds no position exactly if every
row is shown, nothing else is, and shared names do not mislead. -/
theorem checker_agrees_iff (setOrder : List String → List String)
    (order : ∀ names name, name ∈ setOrder names ↔ name ∈ names) (context : CorrectionContext)
    (account : CheckedAccount) (tolerances : Tolerances) (sourceRows : List HoldingRow)
    (remoteRows : List RemoteRow)
    (silent : holdingsQuantityCorrections context sourceRows remoteRows = []) :
    (∀ finding ∈ reconcileHoldings setOrder account tolerances sourceRows remoteRows,
        finding.error = valueError) ↔
      Readable setOrder tolerances sourceRows remoteRows := by
  rw [reconcileHoldings_iff]
  constructor
  · rintro ⟨near, inside⟩
    refine ⟨?_, inside, ?_⟩
    · intro source sourceMem
      obtain ⟨entry, isRead, -⟩ := near source sourceMem
      exact (readFor_isSome_iff order).mp ⟨entry, isRead⟩
    · intro source sourceMem entry isRead _
      obtain ⟨other, isOther, isNear⟩ := near source sourceMem
      rw [isRead] at isOther
      rw [Option.some.inj isOther]
      exact isNear
  · intro readable
    refine ⟨?_, readable.inside⟩
    intro source sourceMem
    obtain ⟨entry, isRead⟩ := (readFor_isSome_iff order).mpr (readable.shown source sourceMem)
    refine ⟨entry, isRead, ?_⟩
    by_cases alone : Alone sourceRows remoteRows source entry
    · obtain ⟨entryMem, shares⟩ := mem_of_readFor order isRead
      exact near_of_cents_eq (cents_eq_of_alone silent sourceMem entryMem shares alone)
    · exact readable.near source sourceMem entry isRead alone

/-- A row that was sold out. -/
def closedRow : HoldingRow where
  date := 0
  symbol := "VWCE.DE"
  isin := "IE00BK5BQT80"
  quantity := "0.00"
  avgCost := ""
  currency := "EUR"

def heldRow : HoldingRow where
  date := 0
  symbol := "VWCE.DE"
  isin := "IE00BK5BQT80"
  quantity := "5.00"
  avgCost := "100.00"
  currency := "EUR"

def shownPosition : RemoteRow where
  instrument := some { symbol := some "VWCE", isin := some "IE00BK5BQT80" }
  quantity := 5

def checkedSample : CheckedAccount where
  id := "account"
  name := "Broker"
  availableBalance := none
  currentBalance := none

/-- A position with the symbol and the ISIN of its row passes. -/
theorem shown_position_agrees :
    Readable id ⟨0, 0⟩ [heldRow] [shownPosition] := by
  apply (checker_agrees_iff id (fun _ _ => Iff.rfl) ⟨"wf-1", "EUR", "tenant", "account", 0⟩
    checkedSample ⟨0, 0⟩ [heldRow] [shownPosition] (by decide +kernel)).mp
  decide +kernel

/-- The row without a quantity and without a position is not corrected, but found. -/
theorem closed_row_found :
    DisjointRows [closedRow] ∧
      holdingsQuantityCorrections ⟨"wf-1", "EUR", "tenant", "account", 0⟩ [closedRow] [] = [] ∧
      reconcileHoldings id checkedSample ⟨0, 0⟩ [closedRow] [] =
        [⟨"account", "Broker", positionError "VWCE.DE"⟩] := by
  refine ⟨List.pairwise_singleton _ _, ?_, ?_⟩
  · decide +kernel
  · decide +kernel

end FinanceSync.Wealthfolio
