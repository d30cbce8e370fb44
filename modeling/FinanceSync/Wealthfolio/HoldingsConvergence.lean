import FinanceSync.Wealthfolio.HoldingsCorrections

/-!
# Corrections converge

After the corrections every position that a row takes has the quantity of the row,
and every other position with a name has none.  If no two rows share a name, there
is nothing left to correct.
-/

namespace FinanceSync.Wealthfolio

open Lib

/-! ## Hundredths -/

/-- The number lies half-way between two hundredths. -/
def HalfCent (value : ℚ) : Prop := value * 100 - (value * 100).floor = 1 / 2

instance (value : ℚ) : Decidable (HalfCent value) := inferInstanceAs (Decidable (_ = _))

theorem roundHalfEven_add_int {number : ℚ} (exact : number - number.floor ≠ 1 / 2) (units : Int) :
    roundHalfEven (number + units) = roundHalfEven number + units := by
  have floor : (number + units).floor = number.floor + units :=
    Int.floor_add_intCast number units
  have rest : number + units - (number + units).floor = number - number.floor := by
    rw [floor]
    push_cast
    ring
  simp only [roundHalfEven]
  rw [rest, floor]
  by_cases below : number - number.floor < 1 / 2
  · rw [if_pos below, if_pos below]
  · have above : 1 / 2 < number - number.floor :=
      lt_of_le_of_ne (not_lt.mp below) (Ne.symm exact)
    rw [if_neg below, if_neg below, if_pos above, if_pos above]
    ring

/-- A correction moves the hundredths by what it adds. -/
theorem cents_add {value : ℚ} (exact : ¬HalfCent value) (units : Int) :
    cents (value + (units : ℚ) / 100) = cents value + units := by
  have scaled : (value + (units : ℚ) / 100) * 100 = value * 100 + units := by ring
  rw [cents, scaled, roundHalfEven_add_int exact, cents]

/-! ## Corrections at one position -/

variable {context : CorrectionContext}

/-- What a correction of a target adds, where it goes and how it is keyed. -/
theorem correctionOf_some {target : Target} {correction : Correction}
    (corrected : correctionOf context target = some correction) :
    correction.signedQuantity = ((target.target - target.current : Int) : ℚ) / 100 ∧
      correction.place = target.place ∧
      correction.idempotencyKey = holdingsCorrectionCommentPrefix context ++ target.stableId ∧
      correction.symbol = orText target.row.symbol target.row.instrumentOf.symbol ∧
      correction.isin = orText target.row.isin target.row.instrumentOf.isin := by
  simp only [correctionOf] at corrected
  split at corrected
  · cases corrected
  · cases corrected
    refine ⟨?_, rfl, rfl, rfl, rfl⟩
    by_cases positive : 0 < target.target - target.current
    · simp only [Correction.signedQuantity, positive, if_true, abs_of_pos positive]
    · simp only [Correction.signedQuantity, positive, if_false, reduceCtorEq,
        abs_of_nonpos (not_lt.mp positive)]
      push_cast
      ring

theorem correctionOf_eq_none_iff {target : Target} :
    correctionOf context target = none ↔ target.target = target.current := by
  simp only [correctionOf]
  split
  · next same => simpa using sub_eq_zero.mp same
  · next differ => simpa using fun same => differ (sub_eq_zero.mpr same)

/-- What the targets add at a place. -/
def shiftAt (targets : List Target) (place : Option Nat) : ℚ :=
  ((targets.filter (·.place = place)).map fun target =>
    ((target.target - target.current : Int) : ℚ) / 100).sum

theorem sum_corrections (targets : List Target) (place : Option Nat) :
    (((targets.filterMap (correctionOf context)).filter (·.place = place)).map
      Correction.signedQuantity).sum = shiftAt targets place := by
  induction targets with
  | nil => rfl
  | cons target targets ih =>
      cases corrected : correctionOf context target with
      | none =>
          have same := correctionOf_eq_none_iff.mp corrected
          rw [List.filterMap_cons_none corrected, ih, shiftAt, shiftAt,
            List.filter_cons]
          split
          · simp [same]
          · rfl
      | some correction =>
          obtain ⟨signed, isPlace, -⟩ := correctionOf_some corrected
          rw [List.filterMap_cons_some corrected, List.filter_cons, isPlace]
          rw [shiftAt, List.filter_cons]
          split
          · rw [List.map_cons, List.sum_cons, ih, signed, List.map_cons,
              List.sum_cons, shiftAt]
          · rw [ih, shiftAt]

/-- Where no two targets share a place, only one counts at its place. -/
theorem shiftAt_of_nodup {targets : List Target} (nodup : (targets.filterMap Target.place).Nodup)
    {target : Target} (targetMem : target ∈ targets) {place : Nat}
    (isPlace : target.place = some place) :
    shiftAt targets (some place) = ((target.target - target.current : Int) : ℚ) / 100 := by
  have only : targets.filter (·.place = some place) = [target] := by
    induction targets with
    | nil => cases targetMem
    | cons first targets ih =>
        cases List.mem_cons.mp targetMem with
        | inl same =>
            rw [← same] at nodup ⊢
            rw [List.filterMap_cons_some isPlace, List.nodup_cons] at nodup
            rw [List.filter_cons_of_pos (by simpa using isPlace), List.filter_eq_nil_iff.mpr]
            intro other otherMem atPlace
            exact nodup.1 (List.mem_filterMap.mpr ⟨other, otherMem, by simpa using atPlace⟩)
        | inr later =>
            have rest : (targets.filterMap Target.place).Nodup := by
              rw [List.filterMap_cons] at nodup
              split at nodup
              · exact nodup
              · exact (List.nodup_cons.mp nodup).2
            have elsewhere : first.place ≠ some place := by
              intro atPlace
              rw [List.filterMap_cons_some atPlace, List.nodup_cons] at nodup
              exact nodup.1 (List.mem_filterMap.mpr ⟨target, later, isPlace⟩)
            rw [List.filter_cons_of_neg (by simpa using elsewhere)]
            exact ih rest later
  rw [shiftAt, only]
  simp

/-! ## Places -/

theorem entryOf_some {row : RemoteRow} {place : Nat} {entry : Entry}
    (isEntry : entryOf row place = some entry) :
    entry = ⟨row, aliases row, cents row.quantity, place⟩ ∧ aliases row ≠ [] := by
  rw [entryOf] at isEntry
  split at isEntry
  · cases isEntry
  · next named => exact ⟨(Option.some.inj isEntry).symm, named⟩

theorem remoteEntry_some {row : RemoteRow} {place : Nat} {entry : Entry}
    (isEntry : remoteEntry row place = some entry) :
    entry = ⟨row, aliases row, cents row.quantity, place⟩ ∧ aliases row ≠ [] := by
  rw [remoteEntry] at isEntry
  split at isEntry
  · cases isEntry
  · exact entryOf_some isEntry

theorem mem_remoteEntries {remoteRows : List RemoteRow} {entry : Entry}
    (entryMem : entry ∈ remoteEntries remoteRows) :
    remoteRows[entry.place]? = some entry.row ∧ entry.quantity = cents entry.row.quantity ∧
      entry.names ≠ [] := by
  obtain ⟨⟨row, place⟩, rowMem, isEntry⟩ := List.mem_filterMap.mp entryMem
  obtain ⟨same, named⟩ := remoteEntry_some isEntry
  rw [same]
  exact ⟨List.mk_mem_zipIdx_iff_getElem?.mp rowMem, rfl, named⟩

theorem mem_sourceEntries {sourceRows : List HoldingRow} {entry : Entry}
    (entryMem : entry ∈ sourceEntries sourceRows) : ∃ row ∈ sourceRows,
      entry.row = row.asRemote ∧ entry.names = aliases row.asRemote ∧ entry.names ≠ [] := by
  obtain ⟨⟨row, place⟩, rowMem, isEntry⟩ := List.mem_filterMap.mp entryMem
  obtain ⟨same, named⟩ := entryOf_some isEntry
  rw [same]
  exact ⟨row, List.mem_of_getElem? (List.mk_mem_zipIdx_iff_getElem?.mp rowMem), rfl, rfl, named⟩

/-- Different entries have different places. -/
theorem nodup_places (remoteRows : List RemoteRow) :
    ((remoteEntries remoteRows).map Entry.place).Nodup := by
  have indexed : (remoteRows.zipIdx.map Prod.snd).Nodup := by
    rw [List.zipIdx_map_snd]
    exact List.nodup_range'
  refine List.Nodup.sublist ?_ indexed
  rw [remoteEntries]
  generalize remoteRows.zipIdx = rows
  induction rows with
  | nil => exact .slnil
  | cons row rows ih =>
      cases isEntry : remoteEntry row.1 row.2 with
      | none =>
          simp only [List.filterMap_cons, isEntry]
          exact ih.cons _
      | some entry =>
          simp only [List.filterMap_cons, isEntry, List.map_cons, (remoteEntry_some isEntry).1]
          exact ih.cons_cons _

theorem nodup_remoteEntries (remoteRows : List RemoteRow) : (remoteEntries remoteRows).Nodup :=
  List.Nodup.of_map _ (nodup_places remoteRows)

theorem places_targets (source remote : List Entry) :
    (targets source remote).filterMap Target.place =
      ((FirstFit.assigned shareName remote source).filterMap Prod.snd ++
        FirstFit.left shareName remote source).map Entry.place := by
  rw [targets, List.filterMap_append, List.map_append, matchedTargets, staleTargets,
    List.filterMap_map, List.filterMap_map, List.map_filterMap]
  congr 1
  rw [← List.filterMap_eq_map]
  rfl

theorem nodup_places_targets {source : List Entry} {remoteRows : List RemoteRow} :
    ((targets source (remoteEntries remoteRows)).filterMap Target.place).Nodup := by
  rw [places_targets]
  have perm := FirstFit.perm_assigned shareName (remoteEntries remoteRows) source
  exact (perm.map Entry.place).nodup_iff.mp (nodup_places remoteRows)

/-! ## The positions after the corrections -/

/-- The names and the quantity of an entry. -/
def coreOf (entry : Entry) : List String × Int := (entry.names, entry.quantity)

/-- The core of the entry after a change of its quantity. -/
def shiftedCore (targets : List Target) (entry : Entry) : List String × Int :=
  (entry.names, cents (entry.row.quantity + shiftAt targets (some entry.place)))

theorem coreOf_remoteEntry (row : RemoteRow) (place : Nat) :
    (remoteEntry row place).map coreOf = (remoteEntry row 0).map coreOf := by
  rw [remoteEntry, remoteEntry]
  split
  · rfl
  · rw [entryOf, entryOf]
    split
    · rfl
    · rfl

theorem zipIdx_map_zipIdx {α β : Type} (rows : List α) (change : α × Nat → β) (start : Nat) :
    ((rows.zipIdx start).map change).zipIdx start =
      (rows.zipIdx start).map fun indexed => (change indexed, indexed.2) := by
  induction rows generalizing start with
  | nil => rfl
  | cons row rows ih =>
      rw [List.zipIdx_cons, List.map_cons, List.zipIdx_cons, ih, List.map_cons]

theorem coreOf_changed (row : RemoteRow) (quantity : ℚ) (place : Nat) :
    (remoteEntry { row with quantity } place).map coreOf =
      (remoteEntry row place).map fun entry => (entry.names, cents quantity) := by
  rw [remoteEntry, remoteEntry]
  change (if row.isCash = true then none else entryOf { row with quantity } place).map coreOf = _
  split
  · rfl
  · rw [entryOf, entryOf]
    change (if aliases row = [] then none else _).map coreOf = _
    split
    · rfl
    · rfl

theorem cores_applyCorrections (targets : List Target) (remoteRows : List RemoteRow) :
    (remoteEntries (applyCorrections (targets.filterMap (correctionOf context))
        remoteRows)).map coreOf =
      (remoteEntries remoteRows).map (shiftedCore targets) ++
        (((targets.filterMap (correctionOf context)).filter (·.place = none)).map
          openedRow).filterMap fun row => (remoteEntry row 0).map coreOf := by
  rw [remoteEntries, applyCorrections, List.zipIdx_append, List.filterMap_append, List.map_append,
    zipIdx_map_zipIdx, List.filterMap_map, List.map_filterMap, List.map_filterMap]
  congr 1
  · rw [remoteEntries, List.map_filterMap]
    apply List.filterMap_congr
    intro indexed _
    simp only [Function.comp_apply, sum_corrections, coreOf_changed]
    cases isEntry : remoteEntry indexed.1 indexed.2 with
    | none => rfl
    | some entry =>
        rw [(remoteEntry_some isEntry).1]
        rfl
  · simp only [coreOf_remoteEntry]
    rw [← List.zipIdx_map_fst (0 + _) (((targets.filterMap (correctionOf context)).filter
      (·.place = none)).map openedRow), List.filterMap_map]
    simp
    rfl

/-! ## Opened positions -/

/-- The core of the position that is opened for a row. -/
def openedCore (source : Entry) : Option (List String × Int) :=
  if source.quantity = 0 then none else some (source.names, source.quantity)

theorem aliases_openedRow (row : HoldingRow) (correction : Correction)
    (symbol : correction.symbol = row.symbol) (isin : correction.isin = row.isin) :
    aliases (openedRow correction) = aliases row.asRemote := by
  simp only [aliases, openedRow, HoldingRow.asRemote, RemoteRow.instrumentOf, symbol, isin,
    Option.getD_some, Option.getD_none, identitiesOf, List.filterMap_cons, Option.filter_none]

theorem orText_some_none (text : String) : orText (some text) none = text := by
  by_cases blank : text = ""
  · rw [blank]
    rfl
  · simp [orText]

theorem opened_core (context : CorrectionContext) {sourceRows : List HoldingRow} {source : Entry}
    (sourceMem : source ∈ sourceEntries sourceRows) :
    ((correctionOf context (targetOf (source, none))).map openedRow).bind
      (fun row => (remoteEntry row 0).map coreOf) = openedCore source := by
  obtain ⟨row, -, isRow, names, named⟩ := mem_sourceEntries sourceMem
  by_cases zero : source.quantity = 0
  · have missing : correctionOf context (targetOf (source, none)) = none :=
      correctionOf_eq_none_iff.mpr zero
    rw [missing, openedCore, if_pos zero]
    rfl
  · cases corrected : correctionOf context (targetOf (source, none)) with
    | none => exact absurd (correctionOf_eq_none_iff.mp corrected) zero
    | some correction =>
        obtain ⟨signed, -, -, symbol, isin⟩ := correctionOf_some corrected
        have isSymbol : correction.symbol = row.symbol := by
          rw [symbol]
          change orText source.row.symbol source.row.instrumentOf.symbol = _
          rw [isRow]
          exact orText_some_none row.symbol
        have isIsin : correction.isin = row.isin := by
          rw [isin]
          change orText source.row.isin source.row.instrumentOf.isin = _
          rw [isRow]
          exact orText_some_none row.isin
        have isNames := aliases_openedRow row correction isSymbol isIsin
        have quantity : cents correction.signedQuantity = source.quantity := by
          rw [signed, cents_of_units]
          exact sub_zero _
        have noCash : (openedRow correction).isCash = false := by
          have lower : ¬"".toLower = "cash" := by decide +kernel
          simp [RemoteRow.isCash, RemoteRow.instrumentOf, openedRow, lower]
        rw [names] at named
        rw [openedCore, if_neg zero, Option.map_some, Option.bind_some, remoteEntry, noCash,
          if_neg (by decide), entryOf, isNames, if_neg named, ← names]
        change some (source.names, cents correction.signedQuantity) = _
        rw [quantity]

/-- The positions that are opened are those of the rows without a position. -/
theorem openedRows_cores {sourceRows : List HoldingRow} (remote : List Entry) :
    ((((targets (sourceEntries sourceRows) remote).filterMap (correctionOf context)).filter
      (·.place = none)).map openedRow).filterMap (fun row => (remoteEntry row 0).map coreOf) =
      FirstFit.newSlots openedCore
        ((FirstFit.assigned shareName remote (sourceEntries sourceRows)).map
          fun pair => (pair.1, pair.2.map coreOf)) := by
  have stale : ((staleTargets (sourceEntries sourceRows) remote).filterMap
      (correctionOf context)).filter (·.place = none) = [] := by
    rw [List.filter_eq_nil_iff]
    intro correction correctionMem
    obtain ⟨target, targetMem, corrected⟩ := List.mem_filterMap.mp correctionMem
    obtain ⟨entry, -, rfl⟩ := List.mem_map.mp targetMem
    have place := (correctionOf_some corrected).2.1
    simp [place, staleTarget]
  have members : ∀ pair ∈ FirstFit.assigned shareName remote (sourceEntries sourceRows),
      pair.1 ∈ sourceEntries sourceRows := by
    intro pair pairMem
    have inRows := List.mem_map_of_mem (f := Prod.fst) pairMem
    rwa [FirstFit.map_fst_assigned] at inRows
  rw [targets, List.filterMap_append, List.filter_append, stale, List.append_nil, matchedTargets]
  generalize FirstFit.assigned shareName remote (sourceEntries sourceRows) = pairs at members
  induction pairs with
  | nil => rfl
  | cons pair pairs ih =>
      have rest := ih fun other otherMem =>
        members other (List.mem_cons_of_mem _ otherMem)
      obtain ⟨source, taken⟩ := pair
      rw [List.map_cons, List.map_cons, FirstFit.newSlots, List.filterMap_cons,
        List.filterMap_cons, ← FirstFit.newSlots]
      cases taken with
      | some entry =>
          cases corrected : correctionOf context (targetOf (source, some entry)) with
          | none => simpa using rest
          | some correction =>
              have place := (correctionOf_some corrected).2.1
              have elsewhere : ¬correction.place = none := by
                rw [place]
                simp [targetOf]
              simpa [elsewhere] using rest
      | none =>
          have core := opened_core context (members (source, none) List.mem_cons_self)
          cases corrected : correctionOf context (targetOf (source, none)) with
          | none =>
              rw [corrected] at core
              simpa [← core] using rest
          | some correction =>
              have place : correction.place = none := (correctionOf_some corrected).2.1
              rw [corrected] at core
              simp only [Option.map_some, Option.bind_some] at core
              simp only [place, List.filter_cons, decide_true, if_true, List.map_cons,
                Option.map_none, Option.isNone_none]
              rw [List.filterMap_cons, core, rest]

/-! ## Convergence -/

/-- No two rows of the positions file share a name. -/
def DisjointRows (sourceRows : List HoldingRow) : Prop :=
  sourceRows.Pairwise fun row other =>
    ∀ name ∈ aliases row.asRemote, name ∉ aliases other.asRemote

/-- No row and no position of the destination shares a name with two. -/
structure Unambiguous (sourceRows : List HoldingRow) (remoteRows : List RemoteRow) : Prop where
  rows : DisjointRows sourceRows
  positions : (remoteEntries remoteRows).Pairwise fun entry other =>
    ∀ name ∈ entry.names, name ∉ other.names
  single : ∀ source ∈ sourceEntries sourceRows, ∀ entry ∈ remoteEntries remoteRows,
    ∀ other ∈ remoteEntries remoteRows, shareName source entry = true →
      shareName source other = true → entry = other
  alone : ∀ entry ∈ remoteEntries remoteRows, ∀ source ∈ sourceEntries sourceRows,
    ∀ other ∈ sourceEntries sourceRows, shareName source entry = true →
      shareName other entry = true → source = other

/-- The position of the entry is within half a hundredth of a quantity in hundredths,
and has just these hundredths unless it lay half-way between two before. -/
def QuantityAt (remoteRows : List RemoteRow) (entry : Entry) (units : Int) : Prop :=
  ∃ row, remoteRows[entry.place]? = some row ∧ |row.quantity - (units : ℚ) / 100| ≤ 1 / 200 ∧
    (¬HalfCent entry.row.quantity → cents row.quantity = units)

theorem shareName_eq_false_iff {source entry : Entry} :
    shareName source entry = false ↔ ∀ name ∈ source.names, name ∉ entry.names := by
  simp [shareName]

theorem disjoint_sourceEntries {sourceRows : List HoldingRow} (disjoint : DisjointRows sourceRows) :
    (sourceEntries sourceRows).Pairwise fun source other => shareName source other = false := by
  have indexed : sourceRows.zipIdx.Pairwise fun row other =>
      ∀ name ∈ aliases row.1.asRemote, name ∉ aliases other.1.asRemote := by
    rw [DisjointRows, ← List.zipIdx_map_fst 0 sourceRows, List.pairwise_map] at disjoint
    exact disjoint
  refine List.Pairwise.filterMap _ ?_ indexed
  intro row other apart source isSource entry isEntry
  rw [(entryOf_some isSource).1, (entryOf_some isEntry).1, shareName_eq_false_iff]
  exact apart

section Runs

variable {sourceRows : List HoldingRow} {remoteRows : List RemoteRow}

theorem getElem?_applyCorrections {targets : List Target} {place : Nat} {row : RemoteRow}
    (isRow : remoteRows[place]? = some row) :
    (applyCorrections (targets.filterMap (correctionOf context)) remoteRows)[place]? =
      some { row with quantity := row.quantity + shiftAt targets (some place) } := by
  obtain ⟨within, -⟩ := List.getElem?_eq_some_iff.mp isRow
  rw [applyCorrections, List.getElem?_append_left (by simpa using within), List.getElem?_map,
    List.getElem?_zipIdx, isRow]
  simp [sum_corrections]

section Targets

variable {entry : Entry} {target : Target}

/-- A target adds what its position lacks. -/
theorem shiftAt_of_target (entryMem : entry ∈ remoteEntries remoteRows)
    (targetMem : target ∈ targets (sourceEntries sourceRows) (remoteEntries remoteRows))
    (current : target.current = entry.quantity) (place : target.place = some entry.place) :
    shiftAt (targets (sourceEntries sourceRows) (remoteEntries remoteRows)) (some entry.place) =
      ((target.target - cents entry.row.quantity : Int) : ℚ) / 100 := by
  rw [shiftAt_of_nodup nodup_places_targets targetMem place, current,
    (mem_remoteEntries entryMem).2.1]

theorem cents_of_target (entryMem : entry ∈ remoteEntries remoteRows)
    (exact : ¬HalfCent entry.row.quantity)
    (targetMem : target ∈ targets (sourceEntries sourceRows) (remoteEntries remoteRows))
    (current : target.current = entry.quantity) (place : target.place = some entry.place) :
    cents (entry.row.quantity + shiftAt (targets (sourceEntries sourceRows)
      (remoteEntries remoteRows)) (some entry.place)) = target.target := by
  rw [shiftAt_of_target entryMem targetMem current place, cents_add exact]
  ring

/-- A target moves its position to what it should have. -/
theorem quantityAt_of_target (entryMem : entry ∈ remoteEntries remoteRows)
    (targetMem : target ∈ targets (sourceEntries sourceRows) (remoteEntries remoteRows))
    (current : target.current = entry.quantity) (place : target.place = some entry.place)
    {units : Int} (isUnits : target.target = units) :
    QuantityAt (applyCorrections (holdingsQuantityCorrections context sourceRows remoteRows)
      remoteRows) entry units := by
  rw [← isUnits]
  refine ⟨_, getElem?_applyCorrections (mem_remoteEntries entryMem).1, ?_, ?_⟩
  · have near := abs_roundHalfEven_sub_le (entry.row.quantity * 100)
    have rest : entry.row.quantity + ((target.target - cents entry.row.quantity : Int) : ℚ) / 100 -
        (target.target : ℚ) / 100 =
        -((roundHalfEven (entry.row.quantity * 100) : ℚ) - entry.row.quantity * 100) / 100 := by
      rw [cents]
      push_cast
      ring
    simp only [shiftAt_of_target entryMem targetMem current place, rest]
    rw [abs_div, abs_neg, abs_of_pos (by norm_num : (0 : ℚ) < 100)]
    linarith
  · intro exact
    exact cents_of_target entryMem exact targetMem current place

end Targets

section Matched

variable {source entry : Entry}

theorem quantityAt_of_assigned (taken : (source, some entry) ∈ FirstFit.assigned shareName
      (remoteEntries remoteRows) (sourceEntries sourceRows)) :
    QuantityAt (applyCorrections (holdingsQuantityCorrections context sourceRows remoteRows)
      remoteRows) entry source.quantity := by
  have isTarget : targetOf (source, some entry) ∈
      targets (sourceEntries sourceRows) (remoteEntries remoteRows) :=
    List.mem_append_left _ (List.mem_map_of_mem taken)
  exact quantityAt_of_target (FirstFit.mem_of_assigned taken) isTarget rfl rfl rfl

theorem quantityAt_of_left (isLeft : entry ∈ FirstFit.left shareName (remoteEntries remoteRows)
      (sourceEntries sourceRows)) :
    QuantityAt (applyCorrections (holdingsQuantityCorrections context sourceRows remoteRows)
      remoteRows) entry 0 := by
  have isTarget := List.mem_append_right (matchedTargets (sourceEntries sourceRows)
    (remoteEntries remoteRows)) (List.mem_map_of_mem (f := staleTarget) isLeft)
  exact quantityAt_of_target (FirstFit.mem_of_left isLeft) isTarget rfl rfl rfl

theorem shifted_of_assigned (exact : ∀ row ∈ remoteRows, ¬HalfCent row.quantity)
    (taken : (source, some entry) ∈ FirstFit.assigned shareName
      (remoteEntries remoteRows) (sourceEntries sourceRows)) :
    cents (entry.row.quantity + shiftAt (targets (sourceEntries sourceRows)
      (remoteEntries remoteRows)) (some entry.place)) = source.quantity := by
  have entryMem := FirstFit.mem_of_assigned taken
  have exactly := exact _ (List.mem_of_getElem? (mem_remoteEntries entryMem).1)
  exact cents_of_target entryMem exactly
    (List.mem_append_left _ (List.mem_map_of_mem (f := targetOf) taken)) rfl rfl

theorem shifted_of_left (exact : ∀ row ∈ remoteRows, ¬HalfCent row.quantity)
    (isLeft : entry ∈ FirstFit.left shareName (remoteEntries remoteRows)
      (sourceEntries sourceRows)) :
    cents (entry.row.quantity + shiftAt (targets (sourceEntries sourceRows)
      (remoteEntries remoteRows)) (some entry.place)) = 0 := by
  have entryMem := FirstFit.mem_of_left isLeft
  have exactly := exact _ (List.mem_of_getElem? (mem_remoteEntries entryMem).1)
  exact cents_of_target entryMem exactly
    (List.mem_append_right _ (List.mem_map_of_mem isLeft)) rfl rfl

end Matched

/-! ### The second call -/

/-- A row fits the core of an entry that it shares a name with. -/
def coreFits (source : Entry) (core : List String × Int) : Bool :=
  source.names.any (· ∈ core.1)

/-- The rows take positions by their names. -/
theorem assigned_relabel {relabel : Entry → List String × Int}
    (names : ∀ entry, (relabel entry).1 = entry.names) (free rows : List Entry) :
    FirstFit.assigned coreFits (free.map relabel) rows =
        (FirstFit.assigned shareName free rows).map (fun pair => (pair.1, pair.2.map relabel)) ∧
      FirstFit.left coreFits (free.map relabel) rows =
        (FirstFit.left shareName free rows).map relabel := by
  have same : ∀ row entry, coreFits row (relabel entry) = shareName row entry := by
    intro row entry
    rw [coreFits, names, shareName]
  exact ⟨FirstFit.assigned_map same, FirstFit.left_map same⟩

/-- Nothing is corrected where every row has its quantity and what is left has none. -/
theorem corrections_eq_nil {cores : List (List String × Int)}
    (isCores : (remoteEntries remoteRows).map coreOf = cores)
    (matched : ∀ pair ∈ FirstFit.assigned coreFits cores (sourceEntries sourceRows),
      pair.1.quantity = (pair.2.map Prod.snd).getD 0)
    (stale : ∀ core ∈ FirstFit.left coreFits cores (sourceEntries sourceRows), core.2 = 0) :
    holdingsQuantityCorrections context sourceRows remoteRows = [] := by
  rw [← isCores, (assigned_relabel (fun _ => rfl) _ _).1] at matched
  rw [← isCores, (assigned_relabel (fun _ => rfl) _ _).2] at stale
  rw [holdingsQuantityCorrections, List.filterMap_eq_nil_iff]
  intro target targetMem
  rw [correctionOf_eq_none_iff]
  cases List.mem_append.mp targetMem with
  | inl isMatched =>
      obtain ⟨⟨source, taken⟩, takenMem, rfl⟩ := List.mem_map.mp isMatched
      have same := matched _ (List.mem_map_of_mem takenMem)
      cases taken with
      | none => exact same
      | some entry => exact same
  | inr isStale =>
      obtain ⟨entry, isLeft, rfl⟩ := List.mem_map.mp isStale
      exact (stale _ (List.mem_map_of_mem isLeft)).symm

theorem newSlots_relabel {Other : Type} {relabel : Entry → Other} {own : Entry → Option Other}
    (pairs : List (Entry × Option Entry)) :
    FirstFit.newSlots own (pairs.map fun pair => (pair.1, pair.2.map relabel)) =
      pairs.filterMap fun pair => if pair.2.isNone then own pair.1 else none := by
  rw [FirstFit.newSlots, List.filterMap_map]
  simp only [Function.comp_def, Option.isNone_map]

/-- The cores after the corrections: those of the positions, and those of the rows
without a position. -/
theorem cores_after : (remoteEntries (applyCorrections
      (holdingsQuantityCorrections context sourceRows remoteRows) remoteRows)).map coreOf =
    (remoteEntries remoteRows).map (shiftedCore (targets (sourceEntries sourceRows)
      (remoteEntries remoteRows))) ++
      FirstFit.newSlots openedCore (FirstFit.assigned coreFits
        ((remoteEntries remoteRows).map (shiftedCore (targets (sourceEntries sourceRows)
          (remoteEntries remoteRows)))) (sourceEntries sourceRows)) := by
  rw [holdingsQuantityCorrections, cores_applyCorrections, openedRows_cores,
    (assigned_relabel (fun _ => rfl) _ _).1, newSlots_relabel, newSlots_relabel]

theorem second_call_empty (exact : ∀ row ∈ remoteRows, ¬HalfCent row.quantity)
    (disjoint : DisjointRows sourceRows) (later : CorrectionContext) :
    holdingsQuantityCorrections later sourceRows (applyCorrections
      (holdingsQuantityCorrections context sourceRows remoteRows) remoteRows) = [] := by
  have fitsOwn : ∀ source ∈ sourceEntries sourceRows, ∀ core ∈ openedCore source,
      coreFits source core = true := by
    intro source sourceMem core isOwn
    obtain ⟨-, -, -, -, named⟩ := mem_sourceEntries sourceMem
    rw [openedCore] at isOwn
    split at isOwn
    · cases isOwn
    · cases isOwn
      simpa [coreFits] using List.exists_mem_of_ne_nil _ named
  have onlyOwn : (sourceEntries sourceRows).Pairwise fun source other =>
      ∀ core ∈ openedCore other, coreFits source core = false := by
    refine (disjoint_sourceEntries disjoint).imp ?_
    intro source other apart core isOwn
    rw [openedCore] at isOwn
    split at isOwn
    · cases isOwn
    · cases isOwn
      exact apart
  obtain ⟨matched, stale⟩ := FirstFit.assigned_append
    ((remoteEntries remoteRows).map (shiftedCore (targets (sourceEntries sourceRows)
      (remoteEntries remoteRows)))) fitsOwn onlyOwn
  apply corrections_eq_nil cores_after
  · rw [matched, (assigned_relabel (fun _ => rfl) _ _).1, List.map_map]
    intro pair pairMem
    obtain ⟨⟨source, taken⟩, takenMem, rfl⟩ := List.mem_map.mp pairMem
    cases taken with
    | some entry => exact (shifted_of_assigned exact takenMem).symm
    | none =>
        change source.quantity = ((openedCore source).map Prod.snd).getD 0
        rw [openedCore]
        split
        · next zero => exact zero
        · rfl
  · rw [stale, (assigned_relabel (fun _ => rfl) _ _).2]
    intro core coreMem
    obtain ⟨entry, isLeft, rfl⟩ := List.mem_map.mp coreMem
    exact shifted_of_left exact isLeft

/-! ### Keys -/

theorem smallest_mem {names : List String} (named : names ≠ []) : smallest names ∈ names := by
  have inFold : ∀ (rest : List String) (first : String),
      rest.foldl (fun least name => if name < least then name else least) first ∈ first :: rest := by
    intro rest
    induction rest with
    | nil => intro first; exact List.mem_cons_self
    | cons name rest ih =>
        intro first
        rw [List.foldl_cons]
        have inRest := ih (if name < first then name else first)
        split at inRest
        · next smaller =>
            rw [if_pos smaller]
            exact List.mem_cons_of_mem _ inRest
        · next larger =>
            rw [if_neg larger]
            cases List.mem_cons.mp inRest with
            | inl same => rw [same]; exact List.mem_cons_self
            | inr later => exact List.mem_cons_of_mem _ (List.mem_cons_of_mem _ later)
  cases names with
  | nil => exact absurd rfl named
  | cons first rest => exact inFold rest first

/-- Entries that share no name have different smallest names. -/
theorem nodup_smallest {entries : List Entry} (named : ∀ entry ∈ entries, entry.names ≠ [])
    (apart : entries.Pairwise fun entry other => ∀ name ∈ entry.names, name ∉ other.names) :
    (entries.map fun entry => smallest entry.names).Nodup := by
  rw [List.Nodup, List.pairwise_map]
  refine apart.imp_of_mem ?_
  intro entry other entryMem otherMem apartNames same
  have inOther := smallest_mem (named other otherMem)
  rw [← same] at inOther
  exact apartNames _ (smallest_mem (named entry entryMem)) inOther

theorem stableIds_targets (source remote : List Entry) :
    (targets source remote).map Target.stableId =
      (source ++ FirstFit.left shareName remote source).map fun entry => smallest entry.names := by
  have matched : (matchedTargets source remote).map Target.stableId =
      source.map fun entry => smallest entry.names := by
    conv_rhs => rw [← FirstFit.map_fst_assigned shareName remote source]
    rw [matchedTargets, List.map_map, List.map_map]
    rfl
  rw [targets, List.map_append, matched, List.map_append, staleTargets, List.map_map]
  rfl

theorem keys_sublist (targets : List Target) :
    ((targets.filterMap (correctionOf context)).map Correction.idempotencyKey).Sublist
      ((targets.map Target.stableId).map (holdingsCorrectionCommentPrefix context ++ ·)) := by
  induction targets with
  | nil => exact .slnil
  | cons target targets ih =>
      cases corrected : correctionOf context target with
      | none =>
          rw [List.filterMap_cons_none corrected]
          exact ih.cons _
      | some correction =>
          rw [List.filterMap_cons_some corrected, List.map_cons,
            (correctionOf_some corrected).2.2.1]
          exact ih.cons_cons _

/-- No two corrections have the same key. -/
theorem nodup_keys (unambiguous : Unambiguous sourceRows remoteRows) :
    ((holdingsQuantityCorrections context sourceRows remoteRows).map
      Correction.idempotencyKey).Nodup := by
  refine (keys_sublist _).nodup (List.Nodup.map ?_ ?_)
  · intro first second same
    exact String.append_right_inj _ |>.mp same
  · rw [stableIds_targets]
    apply nodup_smallest
    · intro entry entryMem
      cases List.mem_append.mp entryMem with
      | inl isSource =>
          obtain ⟨-, -, -, -, named⟩ := mem_sourceEntries isSource
          exact named
      | inr isLeft => exact (mem_remoteEntries (FirstFit.mem_of_left isLeft)).2.2
    · rw [List.pairwise_append]
      refine ⟨?_, unambiguous.positions.sublist FirstFit.left_sublist, ?_⟩
      · exact (disjoint_sourceEntries unambiguous.rows).imp shareName_eq_false_iff.mp
      · intro source sourceMem entry isLeft
        exact shareName_eq_false_iff.mp (FirstFit.not_fits_of_left
          (nodup_remoteEntries remoteRows) sourceMem (unambiguous.single source sourceMem) isLeft)

/-! ### Positions by name -/

section Names

variable {source entry : Entry}

/-- Without ambiguity a position that shares a name with a row is taken by it. -/
theorem assigned_of_shareName (unambiguous : Unambiguous sourceRows remoteRows)
    (sourceMem : source ∈ sourceEntries sourceRows) (entryMem : entry ∈ remoteEntries remoteRows)
    (shares : shareName source entry = true) :
    (source, some entry) ∈ FirstFit.assigned shareName (remoteEntries remoteRows)
      (sourceEntries sourceRows) := by
  apply FirstFit.assigned_of_alone (nodup_remoteEntries remoteRows) sourceMem entryMem shares
  · intro other otherMem otherShares
    exact unambiguous.single source sourceMem other otherMem entry entryMem otherShares shares
  · intro other otherMem otherShares
    exact unambiguous.alone entry entryMem other otherMem source sourceMem otherShares shares

end Names

end Runs

/-- Every position that a row takes is brought to the quantity of the row and every other
one to zero.  Without shared names among the rows a second call is empty; without
ambiguity the positions are those that share a name and the keys are different. -/
theorem corrections_converge (context later : CorrectionContext) (sourceRows : List HoldingRow)
    (remoteRows : List RemoteRow) :
    (∀ source entry, (source, some entry) ∈ FirstFit.assigned shareName
        (remoteEntries remoteRows) (sourceEntries sourceRows) →
      QuantityAt (applyCorrections (holdingsQuantityCorrections context sourceRows remoteRows)
        remoteRows) entry source.quantity) ∧
    (∀ entry ∈ FirstFit.left shareName (remoteEntries remoteRows) (sourceEntries sourceRows),
      QuantityAt (applyCorrections (holdingsQuantityCorrections context sourceRows remoteRows)
        remoteRows) entry 0) ∧
    (DisjointRows sourceRows → (∀ row ∈ remoteRows, ¬HalfCent row.quantity) →
      holdingsQuantityCorrections later sourceRows (applyCorrections
        (holdingsQuantityCorrections context sourceRows remoteRows) remoteRows) = []) ∧
    (Unambiguous sourceRows remoteRows →
      (∀ entry ∈ remoteEntries remoteRows,
        (∀ source ∈ sourceEntries sourceRows, shareName source entry = true →
          QuantityAt (applyCorrections (holdingsQuantityCorrections context sourceRows remoteRows)
            remoteRows) entry source.quantity) ∧
        ((∀ source ∈ sourceEntries sourceRows, shareName source entry = false) →
          QuantityAt (applyCorrections (holdingsQuantityCorrections context sourceRows remoteRows)
            remoteRows) entry 0)) ∧
      ((holdingsQuantityCorrections context sourceRows remoteRows).map
        Correction.idempotencyKey).Nodup) := by
  refine ⟨?_, ?_, ?_, ?_⟩
  · intro source entry taken
    exact quantityAt_of_assigned taken
  · intro entry isLeft
    exact quantityAt_of_left isLeft
  · intro disjoint exact
    exact second_call_empty exact disjoint later
  · intro unambiguous
    refine ⟨?_, nodup_keys unambiguous⟩
    intro entry entryMem
    constructor
    · intro source sourceMem shares
      exact quantityAt_of_assigned (assigned_of_shareName unambiguous sourceMem entryMem shares)
    · intro apart
      exact quantityAt_of_left (FirstFit.left_of_not_fits entryMem apart)

/-- A row of the positions file that is listed on two exchanges. -/
def listedTwice : List HoldingRow :=
  [{ date := 0, symbol := "VWCE.DE", isin := "IE00BK5BQT80", quantity := "5.00",
     avgCost := "100.00", currency := "EUR" }]

def twoListings : List RemoteRow :=
  [{ symbol := some "VWCE.DE", quantity := 3 }, { symbol := some "VWCE.AS", quantity := 4 }]

def correctionSample : CorrectionContext where
  accountId := "wf-1"
  accountCurrency := "EUR"
  tenantId := "tenant"
  financeSyncAccountId := "account"
  today := 0

/-- The second listing shares a name with the row and is driven to zero. -/
theorem second_listing_closed :
    (sourceEntries listedTwice).map Entry.quantity = [500] ∧
      ((remoteEntries twoListings).all fun entry =>
        (sourceEntries listedTwice).all (shareName · entry)) = true ∧
      (applyCorrections (holdingsQuantityCorrections correctionSample listedTwice twoListings)
        twoListings).map RemoteRow.quantity = [5, 0] := by
  decide +kernel

/-- One listing alone takes the quantity of the row. -/
theorem single_listing_converges :
    Unambiguous listedTwice (twoListings.take 1) ∧
      ((holdingsQuantityCorrections correctionSample listedTwice
        (twoListings.take 1)).map Correction.idempotencyKey).Nodup := by
  have unambiguous : Unambiguous listedTwice (twoListings.take 1) :=
    { rows := List.pairwise_singleton _ _
      positions := by decide +kernel
      single := by decide +kernel
      alone := by decide +kernel }
  exact ⟨unambiguous, ((corrections_converge correctionSample correctionSample listedTwice
    (twoListings.take 1)).2.2.2 unambiguous).2⟩

end FinanceSync.Wealthfolio
