import FinanceSync.Data.DecimalText
import FinanceSync.Ghostfolio.Exporter
import FinanceSync.Lib.Fallible
import FinanceSync.Lib.Run

/-!
# Net positions in Ghostfolio

Ghostfolio takes a position as the buys minus the sells of its activities.  The
exporter sends both the trades of a position and snapshots of it, so that the
position comes out right only where one of them cancels out.
-/

namespace FinanceSync.Ghostfolio

variable (runtime : Runtime) (server : Server)

/-! ## Runs -/

/-- The tenant's rows at the last run, what Ghostfolio has, and whether the last run
was aborted. -/
structure World where
  data : TenantData
  stored : List Entry
  aborted : Bool

def emptyWorld : World where
  data := ⟨[], [], [], .nil, .nil, .nil⟩
  stored := []
  aborted := false

def exportStep (world : World) (run : ExportRun) : World :=
  { data := run.data
    stored := (runExport runtime server world.stored run).1
    aborted := (runExport runtime server world.stored run).2.toOption.isNone }

/-! ## What is claimed -/

def Activity.signedQuantity (activity : Activity) : ℚ :=
  match activity.type with
  | .buy => activity.quantity
  | .sell => -activity.quantity
  | _ => 0

/-- The buys minus the sells of a position. -/
def netQuantity (position : Position) (entries : List Entry) : ℚ :=
  (entries.map fun entry =>
    if entry.position = position then entry.activity.signedQuantity else 0).sum

def Holding.position (holding : Holding) : Position := (holding.accountId, some holding.securityId)

/-- The most recently observed holding of its account and security. -/
def IsLatest (holdings : List Holding) (holding : Holding) : Prop :=
  holding ∈ holdings ∧ ∀ other ∈ holdings, other.position = holding.position →
    other.observedAt ≤ holding.observedAt

/-- The last run was not aborted, and the net quantity of every position is that of
its latest holding. -/
def PositionsEqual (world : World) : Prop :=
  world.aborted = false ∧ ∀ holding, IsLatest world.data.holdings holding →
    netQuantity holding.position world.stored = holding.quantity

/-! ## The condition on a run -/

/-- Every row has an activity: the transactions have one of the supported types and
the snapshots have a symbol, a quantity and a price. -/
def ExportRun.Representable (run : ExportRun) : Prop :=
  (∀ txn ∈ run.exported runtime, typeMap txn.transactionType ≠ none) ∧
    ∀ holding ∈ run.holdings runtime,
      symbolOf (run.security (some holding.securityId)) ≠ none ∧ holding.quantity ≠ 0 ∧
        (holding.marketValue ≠ none ∨ holding.price ≠ none)

/-- Ghostfolio has the activity of a row. -/
def IsSent (stored : List Entry) (entry : Except String Entry) : Prop :=
  ∃ sent ∈ stored, entry.toOption.map Entry.activity = some sent.activity

instance (stored : List Entry) (entry : Except String Entry) : Decidable (IsSent stored entry) :=
  inferInstanceAs (Decidable (∃ sent ∈ stored, _))

/-- The units of a trade as JSON carries them, negative for a sale. -/
def Transaction.signedUnits (txn : Transaction) : ℚ :=
  match txn.transactionType with
  | .purchase => runtime.throughFloat txn.units
  | .sale => -runtime.throughFloat txn.units
  | _ => 0

/-- The units of the exported trades of a position that Ghostfolio does not have. -/
def ExportRun.unsentTrades (stored : List Entry) (run : ExportRun) (position : Position) : ℚ :=
  ((run.exported runtime).map fun txn =>
    if (txn.accountId, txn.securityId) = position ∧
        ¬ IsSent stored (transactionEntry runtime run txn) then txn.signedUnits runtime
    else 0).sum

/-- For every position, if the run sends its latest holding for the first time, all
its trades and earlier snapshots cancel out; otherwise they add up to it.  For a
snapshot of a negative quantity, or one that JSON does not carry exactly, they make
up for the difference. -/
def ExportRun.Balanced (stored : List Entry) (run : ExportRun) : Prop :=
  ∀ holding, IsLatest run.data.holdings holding →
    netQuantity holding.position stored + run.unsentTrades runtime stored holding.position =
      if holding ∈ run.holdings runtime ∧ ¬ IsSent stored (holdingEntry runtime run holding) then
        holding.quantity - runtime.throughFloat |holding.quantity|
      else holding.quantity

/-! ## What is known of the server and the runtime -/

/-- The server imports an activity unless it has it. -/
def Server.Documented (server : Server) : Prop :=
  ∀ stored activity, server stored activity =
    if activity ∈ stored then .duplicate else .imported

structure Runtime.Lawful (runtime : Runtime) : Prop where
  uuidText_injective : Function.Injective runtime.uuidText
  uuidText_ne_empty : ∀ id, runtime.uuidText id ≠ ""
  uuidText_no_colon : ∀ id, ':' ∉ (runtime.uuidText id).toList

/-! ## Importing -/

section Import

variable {runtime} {server}

/-- The client adds each activity that the server does not have. -/
theorem importActivities_eq (documented : server.Documented) (entries : List Entry) :
    ∀ stored result,
      (importActivities server stored result entries).1 =
          stored ++ Lib.keepFirst Entry.activity (stored.map Entry.activity) entries ∧
        ∃ counts, (importActivities server stored result entries).2 = .ok counts := by
  induction entries with
  | nil =>
      intro stored result
      exact ⟨by simp [importActivities, Lib.keepFirst], result, rfl⟩
  | cons entry rest ih =>
      intro stored result
      rw [importActivities, documented, Lib.keepFirst]
      by_cases known : entry.activity ∈ stored.map Entry.activity
      · rw [if_pos known, if_pos known]
        exact ih _ _
      · rw [if_neg known, if_neg known]
        obtain ⟨added, counts⟩ := ih (stored ++ [entry])
          { result with imported := result.imported + 1 }
        refine ⟨?_, counts⟩
        have same : ∀ wanted, wanted ∈ (stored ++ [entry]).map Entry.activity ↔
            wanted ∈ entry.activity :: stored.map Entry.activity := by
          intro wanted
          simp [or_comm]
        rw [added, Lib.keepFirst_congr _ same, List.append_assoc]
        rfl

/-! ## The activities of the rows -/

theorem transactionEntry_isOk_iff (run : ExportRun) (txn : Transaction) :
    (∃ entry, transactionEntry runtime run txn = .ok entry) ↔
      typeMap txn.transactionType ≠ none := by
  rw [transactionEntry, mapTransaction]
  split
  · next unsupported =>
      simp only [unsupported, ne_eq, not_true_eq_false, iff_false]
      rintro ⟨entry, succeeds⟩
      cases succeeds
  · next type supported =>
      simp only [supported, ne_eq, reduceCtorEq, not_false_eq_true, iff_true]
      exact ⟨_, rfl⟩

theorem holdingEntry_isOk_iff (run : ExportRun) (holding : Holding) :
    (∃ entry, holdingEntry runtime run holding = .ok entry) ↔
      symbolOf (run.security (some holding.securityId)) ≠ none ∧ holding.quantity ≠ 0 ∧
        (holding.marketValue ≠ none ∨ holding.price ≠ none) := by
  rw [holdingEntry, mapHolding]
  cases symbolOf (run.security (some holding.securityId)) with
  | none =>
      simp only [ne_eq, not_true_eq_false, false_and, iff_false]
      rintro ⟨entry, succeeds⟩
      cases succeeds
  | some symbol =>
      by_cases zero : holding.quantity = 0
      · simp only [zero, abs_zero, if_true, ne_eq, not_true_eq_false, false_and, and_false,
          iff_false]
        rintro ⟨entry, succeeds⟩
        cases succeeds
      · simp only [abs_eq_zero, zero, if_false]
        cases holding.marketValue with
        | some value => simp [Except.map, zero]
        | none => cases holding.price <;> simp [Except.map, zero]

/-- The position, the comment and the quantity of the activity of a transaction. -/
theorem transactionEntry_eq_ok {run : ExportRun} {txn : Transaction} {entry : Entry}
    (made : transactionEntry runtime run txn = .ok entry) :
    entry.position = (txn.accountId, txn.securityId) ∧ entry.activity.accountId = none ∧
      entry.activity.comment = "finance-sync:" ++ runtime.uuidText txn.id ++ ":" ++
        txn.externalTransactionId ∧
      entry.activity.signedQuantity = txn.signedUnits runtime := by
  rw [transactionEntry, mapTransaction] at made
  split at made
  · cases made
  · next type supported =>
      cases made
      refine ⟨rfl, rfl, rfl, ?_⟩
      simp only [Activity.signedQuantity, Transaction.signedUnits]
      cases isType : txn.transactionType <;> rw [isType] at supported <;> cases supported <;> rfl

theorem holdingEntry_eq_ok (lawful : runtime.Lawful) {run : ExportRun} {holding : Holding}
    {entry : Entry} (made : holdingEntry runtime run holding = .ok entry) :
    entry.position = holding.position ∧ entry.activity.accountId ≠ none ∧
      entry.activity.comment = "finance-sync:holding:" ++ runtime.uuidText holding.id ∧
      entry.activity.signedQuantity = runtime.throughFloat |holding.quantity| := by
  rw [holdingEntry, mapHolding] at made
  split at made
  · cases made
  · next symbol isSymbol =>
      dsimp only at made
      split at made
      · cases made
      · split at made
        · cases made
        · cases made
          refine ⟨rfl, ?_, rfl, rfl⟩
          simp [lawful.uuidText_ne_empty]

/-- A run has one activity for each transaction. -/
theorem transactionEntry_injective (lawful : runtime.Lawful) {run : ExportRun}
    {txn other : Transaction} {entry otherEntry : Entry}
    (made : transactionEntry runtime run txn = .ok entry)
    (otherMade : transactionEntry runtime run other = .ok otherEntry)
    (same : entry.activity = otherEntry.activity) : txn.id = other.id := by
  have comments : entry.activity.comment = otherEntry.activity.comment := by rw [same]
  rw [(transactionEntry_eq_ok made).2.2.1, (transactionEntry_eq_ok otherMade).2.2.1] at comments
  have chars := congrArg String.toList comments
  simp only [String.toList_append, List.append_assoc, List.append_cancel_left_eq] at chars
  -- the id is what stands before the next colon
  have ids := congrArg (List.takeWhile (· ≠ ':')) chars
  have before : ∀ id rest, ((runtime.uuidText id).toList ++ (":".toList ++ rest)).takeWhile
      (· ≠ ':') = (runtime.uuidText id).toList := by
    intro id rest
    rw [List.takeWhile_append_of_pos]
    · simp
    · intro char isMem
      rw [decide_eq_true_eq]
      rintro rfl
      exact lawful.uuidText_no_colon id isMem
  rw [before, before, String.toList_inj] at ids
  exact lawful.uuidText_injective ids

theorem holdingEntry_injective (lawful : runtime.Lawful) {run : ExportRun}
    {holding other : Holding} {entry otherEntry : Entry}
    (made : holdingEntry runtime run holding = .ok entry)
    (otherMade : holdingEntry runtime run other = .ok otherEntry)
    (same : entry.activity = otherEntry.activity) : holding.id = other.id := by
  have comments : entry.activity.comment = otherEntry.activity.comment := by rw [same]
  rw [(holdingEntry_eq_ok lawful made).2.2.1, (holdingEntry_eq_ok lawful otherMade).2.2.1,
    String.append_right_inj] at comments
  exact lawful.uuidText_injective comments

end Import

/-! ## What a run adds -/

section Run

variable {runtime} {server} (lawful : runtime.Lawful)

/-- The entries of some rows, where all have one. -/
def entriesOf {Row : Type} (entry : Row → Except String Entry) (rows : List Row) : List Entry :=
  rows.map fun row => (entry row).toOption.getD default

theorem nodup_exported (run : ExportRun) : ((run.exported runtime).map Transaction.id).Nodup := by
  have sorted : ∀ condition : Transaction → Bool,
      ((runtime.transactionOrder.sort (run.data.transactions.filter condition)).map
        Transaction.id).Nodup := by
    intro condition
    rw [((runtime.transactionOrder.perm _).map _).nodup_iff]
    exact run.data.transactionIds.sublist (List.filter_sublist.map _)
  rw [ExportRun.exported, ExportRun.txns]
  split
  · split
    · exact sorted _
    · exact (sorted _).sublist ((List.take_sublist _ _).map _)
  · exact List.nodup_nil

theorem mem_holdings {run : ExportRun} {holding : Holding}
    (isMem : holding ∈ run.holdings runtime) : holding ∈ run.data.holdings := by
  have sorted := Lib.mem_of_firstWith _ ((Lib.mem_firsts _).mp isMem)
  exact List.mem_of_mem_filter ((Lib.OrderBy.mem_sort _).mp sorted)

theorem nodup_holdings (run : ExportRun) : ((run.holdings runtime).map Holding.id).Nodup := by
  have distinct : (run.holdings runtime).Nodup := Lib.nodup_firsts _ _
  apply distinct.map_on
  intro holding isMem other otherMem same
  exact List.inj_on_of_nodup_map run.data.holdingIds (mem_holdings isMem)
    (mem_holdings otherMem) same

/-- Rows with different activities are sent if the server does not have them. -/
theorem keepFirst_entriesOf {Row Id : Type} {entry : Row → Except String Entry} {rows : List Row}
    {idOf : Row → Id} (nodup : (rows.map idOf).Nodup)
    (made : ∀ row ∈ rows, ∃ result, entry row = .ok result)
    (injective : ∀ {row other result otherResult}, entry row = .ok result →
      entry other = .ok otherResult → result.activity = otherResult.activity → idOf row = idOf other)
    (seen : List Activity) :
    Lib.keepFirst Entry.activity seen (entriesOf entry rows) =
      (entriesOf entry rows).filter fun entry => entry.activity ∉ seen := by
  apply Lib.keepFirst_of_nodup
  rw [entriesOf, List.map_map]
  rw [List.Nodup, List.pairwise_map] at nodup ⊢
  apply nodup.imp_of_mem
  intro row other rowMem otherMem ne same
  obtain ⟨result, rowMade⟩ := made row rowMem
  obtain ⟨otherResult, otherMade⟩ := made other otherMem
  simp only [Function.comp_apply, rowMade, otherMade] at same
  exact ne (injective rowMade otherMade same)

/-- The trades that a run sends for the first time. -/
def ExportRun.tradesAdded (runtime : Runtime) (stored : List Entry) (run : ExportRun) :
    List Entry :=
  (entriesOf (transactionEntry runtime run) (run.exported runtime)).filter fun entry =>
    entry.activity ∉ stored.map Entry.activity

def ExportRun.snapshotsAdded (runtime : Runtime) (stored : List Entry) (run : ExportRun) :
    List Entry :=
  (entriesOf (holdingEntry runtime run) (run.holdings runtime)).filter fun entry =>
    entry.activity ∉ stored.map Entry.activity

theorem mapM_eq_entriesOf {Row : Type} {entry : Row → Except String Entry} {rows : List Row}
    (made : ∀ row ∈ rows, ∃ result, entry row = .ok result) :
    rows.mapM entry = .ok (entriesOf entry rows) :=
  (Lib.mapM_eq_ok default).mpr ⟨made, rfl⟩

theorem ExportRun.Representable.trades {run : ExportRun} (representable : run.Representable runtime) :
    ∀ txn ∈ run.exported runtime, ∃ entry, transactionEntry runtime run txn = .ok entry :=
  fun txn isMem => (transactionEntry_isOk_iff run txn).mpr (representable.1 txn isMem)

theorem ExportRun.Representable.snapshots {run : ExportRun}
    (representable : run.Representable runtime) :
    ∀ holding ∈ run.holdings runtime, ∃ entry, holdingEntry runtime run holding = .ok entry :=
  fun holding isMem =>
    (holdingEntry_isOk_iff run holding).mpr (representable.2 holding isMem)

include lawful in
/-- A run whose rows all have activities sends those that Ghostfolio does not have. -/
theorem runExport_of_representable (documented : server.Documented) {run : ExportRun}
    (representable : run.Representable runtime) (stored : List Entry) :
    (runExport runtime server stored run).1 =
        stored ++ run.tradesAdded runtime stored ++ run.snapshotsAdded runtime stored ∧
      ∃ report, (runExport runtime server stored run).2 = .ok report := by
  obtain ⟨afterTrades, counts, isOk⟩ := importActivities_eq documented
    (entriesOf (transactionEntry runtime run) (run.exported runtime)) stored {}
  rw [keepFirst_entriesOf (nodup_exported run) representable.trades
    (transactionEntry_injective lawful)] at afterTrades
  obtain ⟨afterSnapshots, holdingCounts, holdingsOk⟩ := importActivities_eq documented
    (entriesOf (holdingEntry runtime run) (run.holdings runtime))
    (stored ++ run.tradesAdded runtime stored) {}
  rw [keepFirst_entriesOf (nodup_holdings run) representable.snapshots
    (holdingEntry_injective lawful)] at afterSnapshots
  -- a snapshot names its account, a trade does not
  have unseen : (entriesOf (holdingEntry runtime run) (run.holdings runtime)).filter
      (fun entry => entry.activity ∉
        (stored ++ run.tradesAdded runtime stored).map Entry.activity) =
      run.snapshotsAdded runtime stored := by
    apply List.filter_congr
    intro entry isMem
    obtain ⟨holding, holdingMem, rfl⟩ := List.mem_map.mp isMem
    obtain ⟨result, made⟩ := representable.snapshots holding holdingMem
    rw [made]
    have notTrade : result.activity ∉ (run.tradesAdded runtime stored).map Entry.activity := by
      intro isTrade
      obtain ⟨trade, tradeMem, same⟩ := List.mem_map.mp isTrade
      obtain ⟨txn, txnMem, rfl⟩ := List.mem_map.mp (List.mem_of_mem_filter tradeMem)
      obtain ⟨traded, tradeMade⟩ := representable.trades txn txnMem
      rw [tradeMade] at same
      apply (holdingEntry_eq_ok lawful made).2.1
      calc result.activity.accountId = traded.activity.accountId := by rw [← same]; rfl
        _ = none := (transactionEntry_eq_ok tradeMade).2.1
    rw [List.map_append]
    apply decide_eq_decide.mpr
    apply not_congr
    rw [List.mem_append]
    exact or_iff_left notTrade
  have trades : importActivities server stored {}
      (entriesOf (transactionEntry runtime run) (run.exported runtime)) =
        (stored ++ run.tradesAdded runtime stored, .ok counts) := Prod.ext afterTrades isOk
  have snapshots : importActivities server (stored ++ run.tradesAdded runtime stored) {}
      (entriesOf (holdingEntry runtime run) (run.holdings runtime)) =
        (stored ++ run.tradesAdded runtime stored ++ run.snapshotsAdded runtime stored,
          .ok holdingCounts) := by
    rw [unseen] at afterSnapshots
    exact Prod.ext afterSnapshots holdingsOk
  rw [runExport, mapM_eq_entriesOf representable.trades]
  dsimp only
  rw [trades]
  dsimp only
  rw [mapM_eq_entriesOf representable.snapshots]
  dsimp only
  rw [snapshots]
  exact ⟨rfl, _, rfl⟩

/-- A run is completed only if all its rows have activities. -/
theorem representable_of_report {run : ExportRun} {stored : List Entry} {report : Report}
    (completed : (runExport runtime server stored run).2 = .ok report) :
    run.Representable runtime := by
  rw [runExport] at completed
  cases trades : (run.exported runtime).mapM (transactionEntry runtime run) with
  | error message =>
      rw [trades] at completed
      cases completed
  | ok activities =>
      rw [trades] at completed
      dsimp only at completed
      split at completed
      · cases completed
      · cases snapshots : (run.holdings runtime).mapM (holdingEntry runtime run) with
        | error message =>
            rw [snapshots] at completed
            cases completed
        | ok holdingActivities =>
            constructor
            · intro txn isMem
              exact (transactionEntry_isOk_iff run txn).mp
                (((Lib.mapM_eq_ok default).mp trades).1 txn isMem)
            · intro holding isMem
              exact (holdingEntry_isOk_iff run holding).mp
                (((Lib.mapM_eq_ok default).mp snapshots).1 holding isMem)

/-! ## Quantities -/

theorem netQuantity_append (position : Position) (entries others : List Entry) :
    netQuantity position (entries ++ others) =
      netQuantity position entries + netQuantity position others := by
  simp [netQuantity]

/-- The net quantity of the entries of some rows that the server does not have. -/
theorem netQuantity_unsent {Row : Type} {entry : Row → Except String Entry} {rows : List Row}
    (made : ∀ row ∈ rows, ∃ result, entry row = .ok result) (positionOf : Row → Position)
    (unitsOf : Row → ℚ)
    (describes : ∀ row result, entry row = .ok result →
      result.position = positionOf row ∧ result.activity.signedQuantity = unitsOf row)
    (stored : List Entry) (position : Position) :
    netQuantity position ((entriesOf entry rows).filter fun entry =>
        entry.activity ∉ stored.map Entry.activity) =
      (rows.map fun row =>
        if positionOf row = position ∧ ¬ IsSent stored (entry row) then unitsOf row else 0).sum := by
  induction rows with
  | nil => rfl
  | cons row rest ih =>
      have later := ih fun other isMem =>
        made other (List.mem_cons_of_mem _ isMem)
      obtain ⟨result, isMade⟩ := made row List.mem_cons_self
      obtain ⟨isPosition, isUnits⟩ := describes row result isMade
      have sentIff : IsSent stored (entry row) ↔ result.activity ∈ stored.map Entry.activity := by
        rw [IsSent, isMade, List.mem_map]
        simp [Except.toOption, eq_comm]
      rw [entriesOf, List.map_cons, isMade]
      rw [entriesOf] at later
      rw [List.filter_cons, List.map_cons, List.sum_cons, ← later]
      by_cases sent : result.activity ∈ stored.map Entry.activity
      · simp [Except.toOption, sentIff, sent]
      · simp [Except.toOption, sentIff, sent, netQuantity, isPosition, isUnits]

/-- The holding that a run selects for a security is the latest of its account. -/
theorem isLatest_of_mem_holdings {run : ExportRun} {holding : Holding}
    (isMem : holding ∈ run.holdings runtime) : IsLatest run.data.holdings holding := by
  refine ⟨mem_holdings isMem, ?_⟩
  intro other otherMem samePosition
  have sameAccount : other.accountId = holding.accountId := congrArg Prod.fst samePosition
  have sameSecurity : other.securityId = holding.securityId :=
    Option.some.inj (congrArg Prod.snd samePosition)
  have first := (Lib.mem_firsts Holding.securityId).mp isMem
  have selected := List.mem_filter.mp
    ((Lib.OrderBy.mem_sort _).mp (Lib.mem_of_firstWith Holding.securityId first))
  have otherSelected : other ∈ runtime.holdingOrder.sort (run.data.holdings.filter fun holding =>
      ofAccounts run.accountIds holding.accountId) := by
    rw [Lib.OrderBy.mem_sort, List.mem_filter, sameAccount]
    exact ⟨otherMem, selected.2⟩
  cases Lib.rel_of_firstWith Holding.securityId (runtime.holdingOrder.ascending _) first
      otherSelected sameSecurity with
  | inl same => rw [same]
  | inr later =>
      rw [holdingKey, holdingKey, Prod.Lex.toLex_le_toLex, sameSecurity] at later
      cases later with
      | inl less => exact absurd less (lt_irrefl _)
      | inr observed => exact neg_le_neg_iff.mp observed.2

/-- A position has one latest holding. -/
theorem isLatest_unique {data : TenantData} {holding other : Holding}
    (latest : IsLatest data.holdings holding) (otherLatest : IsLatest data.holdings other)
    (same : other.position = holding.position) : other = holding := by
  apply List.inj_on_of_nodup_map data.observedOnce otherLatest.1 latest.1
  have sameAccount : other.accountId = holding.accountId := congrArg Prod.fst same
  have sameSecurity : other.securityId = holding.securityId :=
    Option.some.inj (congrArg Prod.snd same)
  have sameTime := le_antisymm (latest.2 other otherLatest.1 same)
    (otherLatest.2 holding latest.1 same.symm)
  rw [sameAccount, sameSecurity, sameTime]

include lawful in
/-- What the snapshots of a run add to a position. -/
theorem netQuantity_snapshotsAdded {run : ExportRun} (representable : run.Representable runtime)
    (stored : List Entry) {holding : Holding} (latest : IsLatest run.data.holdings holding) :
    netQuantity holding.position (run.snapshotsAdded runtime stored) =
      if holding ∈ run.holdings runtime ∧ ¬ IsSent stored (holdingEntry runtime run holding) then
        runtime.throughFloat |holding.quantity|
      else 0 := by
  rw [ExportRun.snapshotsAdded, netQuantity_unsent representable.snapshots Holding.position
    (fun holding => runtime.throughFloat |holding.quantity|)
    fun holding result made => ⟨(holdingEntry_eq_ok lawful made).1,
      (holdingEntry_eq_ok lawful made).2.2.2⟩]
  have others : ∀ other, other ≠ holding → other ∈ run.holdings runtime →
      (if other.position = holding.position ∧
          ¬ IsSent stored (holdingEntry runtime run other) then
        runtime.throughFloat |other.quantity| else 0) = 0 := by
    intro other ne isMem
    rw [if_neg]
    exact fun same => ne
      (isLatest_unique latest (isLatest_of_mem_holdings isMem) same.1)
  have distinct : (run.holdings runtime).Nodup := Lib.nodup_firsts _ _
  rw [List.sum_map_eq_nsmul_single holding _ others]
  by_cases selected : holding ∈ run.holdings runtime
  · simp [List.count_eq_one_of_mem distinct selected, selected]
  · simp [List.count_eq_zero_of_not_mem selected, selected]

include lawful in
theorem positionsEqual_exportStep_iff (documented : server.Documented) (world : World)
    (run : ExportRun) :
    PositionsEqual (exportStep runtime server world run) ↔
      run.Representable runtime ∧ run.Balanced runtime world.stored := by
  by_cases representable : run.Representable runtime
  · obtain ⟨stored, report, completed⟩ :=
      runExport_of_representable lawful documented representable world.stored
    have notAborted : (exportStep runtime server world run).aborted = false := by
      rw [exportStep, completed]
      rfl
    rw [PositionsEqual, notAborted, and_iff_right rfl, and_iff_right representable]
    apply forall₂_congr
    intro holding latest
    have trades : netQuantity holding.position (run.tradesAdded runtime world.stored) =
        run.unsentTrades runtime world.stored holding.position :=
      netQuantity_unsent representable.trades (fun txn => (txn.accountId, txn.securityId))
        (Transaction.signedUnits runtime)
        (fun txn result made => ⟨(transactionEntry_eq_ok made).1,
          (transactionEntry_eq_ok made).2.2.2⟩) world.stored holding.position
    rw [exportStep, stored, netQuantity_append, netQuantity_append, trades,
      netQuantity_snapshotsAdded lawful representable world.stored latest]
    split
    · exact eq_sub_iff_add_eq.symm
    · rw [add_zero]
  · have aborted : (exportStep runtime server world run).aborted = true := by
      cases completed : (runExport runtime server world.stored run).2 with
      | ok report => exact absurd (representable_of_report completed) representable
      | error message =>
          rw [exportStep, completed]
          rfl
    simp [PositionsEqual, aborted, representable]

end Run

/-- After every one of a number of runs the export was completed and all positions are
equal exactly if each run has only rows with activities and balances what it sends
with what Ghostfolio has. -/
theorem positionsEqual_iff (lawful : runtime.Lawful) (documented : server.Documented)
    (runs : List ExportRun) :
    (∀ before after, runs = before ++ after →
        PositionsEqual (Lib.runAll (exportStep runtime server) emptyWorld before)) ↔
      Lib.Along (exportStep runtime server)
        (fun world run => run.Representable runtime ∧ run.Balanced runtime world.stored)
        emptyWorld runs := by
  have preserved : ∀ (world : World) (run : ExportRun), True → True := fun _ _ _ => trivial
  have keeps : ∀ world run, True → PositionsEqual world →
      (PositionsEqual (exportStep runtime server world run) ↔
        run.Representable runtime ∧ run.Balanced runtime world.stored) :=
    fun world run _ _ => positionsEqual_exportStep_iff lawful documented world run
  have start : PositionsEqual emptyWorld := by
    refine ⟨rfl, ?_⟩
    intro holding latest
    cases latest.1
  exact Lib.reached_iff_kept preserved keeps runs trivial start

section Runs

/-- 2026-01-02 -/
private def exportDay : Instant := Instant.days 20455

private def paddedDigits (id : Nat) : List Char :=
  List.replicate (12 - (Nat.toDigits 10 id).length) '0' ++ Nat.toDigits 10 id

private def uuidOfDigits (id : Uuid) : String :=
  "00000000-0000-0000-0000-" ++ String.ofList (paddedDigits id)

/-- The runtime on one day and on ids of one digit. -/
private def plainRuntime : Runtime where
  uuidText := uuidOfDigits
  isoformat instant := if instant = exportDay then "2026-01-02T00:00:00+00:00" else ""
  upper text := String.ofList (text.toList.map Char.toUpper)
  throughFloat number := number
  transactionOrder := Lib.OrderBy.stable transactionKey
  holdingOrder := Lib.OrderBy.stable holdingKey

private theorem uuidOfDigits_injective : Function.Injective uuidOfDigits := by
  intro first second same
  unfold uuidOfDigits at same
  have values := congrArg digitsValue (String.ofList_inj.mp ((String.append_right_inj _).mp same))
  unfold paddedDigits at values
  rwa [Decimal.digitsValue_zeros, Decimal.digitsValue_zeros, Decimal.digitsValue_toDigits,
    Decimal.digitsValue_toDigits] at values

private theorem uuidOfDigits_ne_empty (id : Uuid) : uuidOfDigits id ≠ "" := by
  intro same
  have chars := congrArg String.toList same
  unfold uuidOfDigits at chars
  rw [String.toList_append] at chars
  simp at chars

private theorem uuidOfDigits_no_colon (id : Uuid) : ':' ∉ (uuidOfDigits id).toList := by
  intro isMem
  unfold uuidOfDigits paddedDigits at isMem
  rw [String.toList_append, List.mem_append] at isMem
  cases isMem with
  | inl fixed =>
      revert fixed
      decide +kernel
  | inr padded =>
      rw [String.toList_ofList, List.mem_append] at padded
      cases padded with
      | inl zeros => exact absurd (List.eq_of_mem_replicate zeros) (by decide)
      | inr digits =>
          exact absurd (Nat.isDigit_of_mem_toDigits (by decide) (by decide) digits) (by decide)

private theorem plainRuntime_lawful : plainRuntime.Lawful :=
  ⟨uuidOfDigits_injective, uuidOfDigits_ne_empty, uuidOfDigits_no_colon⟩

private def plainServer : Server := fun stored activity =>
  if activity ∈ stored then .duplicate else .imported

private theorem plainServer_documented : plainServer.Documented := fun _ _ => rfl

private def tenShares : Holding where
  id := 3
  accountId := 1
  securityId := 2
  observedAt := exportDay
  quantity := 10
  price := some 50
  currencyCode := "EUR"

private def purchaseOfTen : Transaction where
  id := 4
  accountId := 1
  externalTransactionId := "order_1"
  transactionType := .purchase
  status := .booked
  occurredAt := exportDay
  amount := -500
  currencyCode := "EUR"
  securityId := some 2
  quantity := some 10
  unitPrice := some 50

private def dividend : Transaction where
  id := 5
  accountId := 1
  externalTransactionId := "txn_1"
  transactionType := .dividend
  status := .booked
  occurredAt := exportDay
  amount := 3
  currencyCode := "EUR"
  securityId := some 2

/-- A run over one transaction and the holding of ten shares. -/
private def shareRun (txn : Transaction) : ExportRun where
  data :=
    { transactions := [txn]
      holdings := [tenShares]
      securities := [{ id := 2, ticker := some "ASML:XAMS" }]
      transactionIds := List.nodup_singleton _
      holdingIds := List.nodup_singleton _
      observedOnce := List.nodup_singleton _ }
  since := 0

private theorem isLatest_shareRun (txn : Transaction) {holding : Holding}
    (latest : IsLatest (shareRun txn).data.holdings holding) : holding = tenShares :=
  List.mem_singleton.mp latest.1

/-- Ten shares that were bought arrive as a purchase and as a snapshot. -/
theorem purchase_and_snapshot :
    netQuantity tenShares.position
        (exportStep plainRuntime plainServer emptyWorld (shareRun purchaseOfTen)).stored = 20 ∧
      tenShares.quantity = 10 ∧
      ¬ PositionsEqual (exportStep plainRuntime plainServer emptyWorld (shareRun purchaseOfTen)) := by
  have doubled : netQuantity tenShares.position
      (exportStep plainRuntime plainServer emptyWorld (shareRun purchaseOfTen)).stored = 20 := by
    decide +kernel
  refine ⟨doubled, rfl, ?_⟩
  intro equal
  have latest : IsLatest (shareRun purchaseOfTen).data.holdings tenShares := by
    unfold IsLatest
    decide +kernel
  have ten := equal.2 tenShares latest
  rw [doubled] at ten
  revert ten
  decide +kernel

/-- A holding without trades stays equal however often it is exported. -/
theorem positionsEqual_iff_snapshot :
    PositionsEqual (Lib.runAll (exportStep plainRuntime plainServer) emptyWorld
      [shareRun dividend, shareRun dividend]) := by
  refine (positionsEqual_iff plainRuntime plainServer plainRuntime_lawful plainServer_documented
    [shareRun dividend, shareRun dividend]).mpr ?_ [shareRun dividend, shareRun dividend] [] rfl
  have representable : (shareRun dividend).Representable plainRuntime := by
    unfold ExportRun.Representable
    decide +kernel
  refine ⟨⟨representable, ?_⟩, ⟨representable, ?_⟩, trivial⟩
  · intro holding latest
    have isTen : holding = tenShares := isLatest_shareRun dividend latest
    subst isTen
    decide +kernel
  · intro holding latest
    have isTen : holding = tenShares := isLatest_shareRun dividend latest
    subst isTen
    decide +kernel

end Runs

end FinanceSync.Ghostfolio
