import FinanceSync.Lib.Fallible
import FinanceSync.Saxo.Connector
import Mathlib.Data.Fintype.EquivFin
import Mathlib.Data.List.ReduceOption

/-!
# Exports that are supplied again

The import collects the positions of all files and keeps the first transaction of
each external id.  A further copy of a file leaves it as it was exactly if no file
has positions and files with one booking agree about it.
-/

namespace FinanceSync.Saxo

variable (runtime : Runtime) (config : Config)

/-! ## The files with copies -/

/-- A list of files with further copies of some of them under other names, in any
order. -/
def Supplied (workbooks again : List Workbook) : Prop :=
  ∃ copies : List Workbook,
    (∀ copy ∈ copies, copy.name ∉ workbooks.map Workbook.name ∧
      ∃ workbook ∈ workbooks, copy.sheets = workbook.sheets) ∧
    again.Perm (workbooks ++ copies)

/-- The holdings, the transactions but for the names of the files, the net asset
value and the cash balances are the same. -/
structure SameImport (loaded again : Loaded) : Prop where
  rows : loaded.rows.Perm again.rows
  transactions :
    (loaded.transactions.map RawTransaction.booking).Perm
      (again.transactions.map RawTransaction.booking)
  netAssetValue : loaded.netAssetValue = again.netAssetValue
  cashByCurrency : loaded.cashByCurrency.Perm again.cashByCurrency

def CopiesChangeNothing (workbooks : List Workbook) (loaded : Loaded) : Prop :=
  ∀ again, Supplied workbooks again →
    ∃ loadedAgain, load runtime config again = .ok loadedAgain ∧ SameImport loaded loadedAgain

/-! ## The rows of a file -/

/-- A row of a transaction sheet. -/
structure SourceRow where
  headers : List String
  row : Row
  line : Nat

def sourceRows (workbook : Workbook) : List SourceRow :=
  (workbook.sheets.filter fun values => isTransactionSheet runtime values).flatMap fun values =>
    (numbered values).map fun (row, line) => ⟨headersOf runtime values, row, line⟩

/-- The booking of a row, if it carries one. -/
def SourceRow.booking (source : SourceRow) : Option BookedRow :=
  (identify runtime config source.headers source.row source.line).toOption.join

def providerIdColumns : List String := ["Transactie-ID", "Order-ID", "Bk Record Id", "Booking Id"]

/-- The value date, the instrument and the provider ids of a row. -/
def SourceRow.details (source : SourceRow) : Option (Option Instant) × List String :=
  ((valueDateOf runtime source.headers source.row).toOption,
    runtime.upper (textOf runtime source.headers source.row "Instrument ISIN") ::
      (["Instrumentsymbool", "Instrument"] ++ providerIdColumns).map
        (textOf runtime source.headers source.row))

/-- Bookings of one file that are merged, since they have one external id, agree in
their amounts, dates, instruments and provider ids. -/
def MergedAgree (workbooks : List Workbook) : Prop :=
  ∀ workbook ∈ workbooks, ∀ first ∈ sourceRows runtime workbook,
    ∀ second ∈ sourceRows runtime workbook,
    ∀ booked ∈ first.booking runtime config, ∀ other ∈ second.booking runtime config,
      booked.externalId runtime = other.externalId runtime →
      booked.amount.value = other.amount.value ∧ booked.occurredAt = other.occurredAt ∧
        first.details runtime = second.details runtime

/-- The transactions of a file on its own. -/
def fileBookings (workbook : Workbook) : List Booking :=
  Lib.firsts Booking.externalTransactionId
    ((parseWorkbook runtime config workbook.sheets).toOption.getD ⟨[], []⟩).bookings

/-! ## The conditions -/

/-- No row of a positions sheet is a position. -/
def WithoutPositions (workbooks : List Workbook) : Prop :=
  ∀ workbook ∈ workbooks, ∀ values ∈ workbook.sheets, isPositionSheet runtime values →
    ∀ row ∈ values.tail, ¬ isPositionRow runtime (headersOf runtime values) row

/-- Two files that both have a booking have it with the same fields. -/
def FilesAgree (workbooks : List Workbook) : Prop :=
  ∀ workbook ∈ workbooks, ∀ other ∈ workbooks,
    ∀ booking ∈ fileBookings runtime config workbook,
    ∀ same ∈ fileBookings runtime config other,
      booking.externalTransactionId = same.externalTransactionId → booking = same

/-- The ten texts of a booking determine its value date, its instrument and its
provider ids within a file, although the letter case and the id columns that are not
read leave no trace in them. -/
def TextsTellApart (workbooks : List Workbook) : Prop :=
  ∀ workbook ∈ workbooks, ∀ first ∈ sourceRows runtime workbook,
    ∀ second ∈ sourceRows runtime workbook,
    ∀ booked ∈ first.booking runtime config, ∀ other ∈ second.booking runtime config,
      booked.texts runtime = other.texts runtime → first.details runtime = second.details runtime

/-! ## What is known of the runtime -/

structure Runtime.Lawful (runtime : Runtime) : Prop where
  /-- Of ASCII characters only the capital letters are folded. -/
  casefold_ascii : ∀ text : String, (∀ char ∈ text.toList, char.toNat < 128) →
    (runtime.casefold text).toList = text.toList.map Char.toLower
  /-- Two dates are spelled differently. -/
  utcStr_injective : ∀ instant other,
    runtime.casefold (cleanText (runtime.utcStr instant)) =
      runtime.casefold (cleanText (runtime.utcStr other)) → instant = other

/-- No two bookings of a file have different texts with the same digest. -/
def NoCollision (workbooks : List Workbook) : Prop :=
  ∀ workbook ∈ workbooks, ∀ first ∈ sourceRows runtime workbook,
    ∀ second ∈ sourceRows runtime workbook,
    ∀ booked ∈ first.booking runtime config, ∀ other ∈ second.booking runtime config,
      booked.externalId runtime = other.externalId runtime → booked.texts runtime = other.texts runtime

/-! ## The texts of a booking -/

section Texts

variable {runtime}

theorem cleanText_str (decimal : Decimal) : cleanText decimal.str = decimal.str := by
  have noBlank : decimal.str.toList.map (fun char => if char = '\u00a0' then ' ' else char) =
      decimal.str.toList := by
    conv_rhs => rw [← List.map_id decimal.str.toList]
    apply List.map_congr_left
    intro char isMem
    rw [if_neg]
    · rfl
    · rintro rfl
      exact absurd (Decimal.ascii_of_mem_str isMem).1 (by decide)
  rw [cleanText, noBlank,
    Decimal.strip_of_not_space fun char isMem => (Decimal.ascii_of_mem_str isMem).2.1,
    String.ofList_toList]

theorem amount_of_folded (lawful : runtime.Lawful) {amount other : Decimal}
    (same : runtime.casefold (cleanText amount.str) = runtime.casefold (cleanText other.str)) :
    amount = other := by
  apply Decimal.eq_of_map_toLower_str
  rw [← lawful.casefold_ascii _ fun char isMem => (Decimal.ascii_of_mem_str isMem).1,
    ← lawful.casefold_ascii _ fun char isMem => (Decimal.ascii_of_mem_str isMem).1,
    ← cleanText_str amount, same, cleanText_str]

/-- Bookings with the same texts have the same amount and the same date. -/
theorem amount_date_of_texts (lawful : runtime.Lawful) {booked other : BookedRow}
    (same : booked.texts runtime = other.texts runtime) :
    booked.amount = other.amount ∧ booked.occurredAt = other.occurredAt := by
  simp only [BookedRow.texts, List.map_cons, List.cons.injEq] at same
  exact ⟨amount_of_folded lawful same.2.2.2.2.2.1, lawful.utcStr_injective _ _ same.2.2.1⟩

variable {config}

theorem mergedAgree_iff (lawful : runtime.Lawful) {workbooks : List Workbook}
    (distinct : NoCollision runtime config workbooks) :
    MergedAgree runtime config workbooks ↔ TextsTellApart runtime config workbooks := by
  constructor
  · intro agree workbook isMem first firstMem second secondMem booked isBooked other isOther
      same
    have sameId : booked.externalId runtime = other.externalId runtime := by
      rw [BookedRow.externalId, BookedRow.externalId, same]
    exact (agree workbook isMem first firstMem second secondMem booked isBooked other isOther
      sameId).2.2
  · intro apart workbook isMem first firstMem second secondMem booked isBooked other isOther
      sameId
    have same := distinct workbook isMem first firstMem second secondMem booked isBooked other
      isOther sameId
    obtain ⟨sameAmount, sameDate⟩ := amount_date_of_texts lawful same
    exact ⟨by rw [sameAmount], sameDate,
      apart workbook isMem first firstMem second secondMem booked isBooked other isOther same⟩

end Texts

/-! ## What a list of files is loaded as -/

section Load

variable {runtime} {config}

/-- What a file contributes, if it can be read. -/
def contentOf (runtime : Runtime) (config : Config) (workbook : Workbook) : Content :=
  (parseWorkbook runtime config workbook.sheets).toOption.getD ⟨[], []⟩

def positionsOf (runtime : Runtime) (config : Config) (workbooks : List Workbook) :
    List Position :=
  workbooks.flatMap fun workbook => (contentOf runtime config workbook).positions

def transactionsOf (runtime : Runtime) (config : Config) (workbooks : List Workbook) :
    List RawTransaction :=
  Lib.firsts RawTransaction.externalTransactionId
    (readTransactions (workbooks.map fun workbook => (workbook, contentOf runtime config workbook)))

def bookingsOf (runtime : Runtime) (config : Config) (workbooks : List Workbook) : List Booking :=
  workbooks.flatMap fun workbook => (contentOf runtime config workbook).bookings

def Readable (runtime : Runtime) (config : Config) (workbook : Workbook) : Prop :=
  ∃ content, parseWorkbook runtime config workbook.sheets = .ok content

/-- A list of files is accepted if each file can be read and there is a position or
a transaction. -/
theorem load_eq_ok {workbooks : List Workbook} {loaded : Loaded} :
    load runtime config workbooks = .ok loaded ↔
      (∀ workbook ∈ workbooks, Readable runtime config workbook) ∧
        ¬ (positionsOf runtime config workbooks = [] ∧
          transactionsOf runtime config workbooks = []) ∧
        loaded = loadedOf runtime (positionsOf runtime config workbooks)
          (transactionsOf runtime config workbooks) := by
  rw [load, Lib.bind_eq_ok]
  constructor
  · rintro ⟨contents, read, accepted⟩
    obtain ⟨readable, rfl⟩ := (Lib.mapM_eq_ok ⟨[], []⟩).mp read
    rw [← List.map_prod_left_eq_zip, List.flatMap_map] at accepted
    dsimp only at accepted
    split at accepted
    · cases accepted
    · next nonempty =>
        cases accepted
        exact ⟨readable, nonempty, rfl⟩
  · rintro ⟨readable, nonempty, rfl⟩
    refine ⟨_, (Lib.mapM_eq_ok ⟨[], []⟩).mpr ⟨readable, rfl⟩, ?_⟩
    rw [← List.map_prod_left_eq_zip, List.flatMap_map]
    exact if_neg nonempty

theorem map_booking_transactionsOf (workbooks : List Workbook) :
    (transactionsOf runtime config workbooks).map RawTransaction.booking =
      Lib.firsts Booking.externalTransactionId (bookingsOf runtime config workbooks) := by
  rw [transactionsOf, show RawTransaction.externalTransactionId =
    fun transaction => transaction.booking.externalTransactionId from rfl, Lib.map_firsts,
    readTransactions, List.flatMap_map, List.map_flatMap, bookingsOf]
  simp [Function.comp_def]

end Load

/-! ## Files without positions -/

section Positions

variable {runtime} {config}

theorem parsePosition_eq_none_iff {headers : List String} {row : Row} {line : Nat}
    {position : Option Position}
    (parsed : parsePosition runtime headers row line = .ok position) :
    position = none ↔ ¬ isPositionRow runtime headers row := by
  rw [parsePosition] at parsed
  by_cases carries : isPositionRow runtime headers row
  · rw [if_neg (not_not.mpr carries)] at parsed
    obtain ⟨instrumentCurrency, -, parsed⟩ := Lib.bind_eq_ok.mp parsed
    obtain ⟨quantity, -, parsed⟩ := Lib.bind_eq_ok.mp parsed
    obtain ⟨price, -, parsed⟩ := Lib.bind_eq_ok.mp parsed
    obtain ⟨marketValue, -, parsed⟩ := Lib.bind_eq_ok.mp parsed
    obtain ⟨costBasis, -, parsed⟩ := Lib.bind_eq_ok.mp parsed
    rw [← Except.ok.inj parsed]
    simp [carries]
  · rw [if_pos carries] at parsed
    simp [← Except.ok.inj parsed, carries]

theorem parsePositions_eq_nil_iff {values : List Row} {positions : List Position}
    (parsed : parsePositions runtime values = .ok positions) :
    positions = [] ↔
      ∀ row ∈ values.tail, ¬ isPositionRow runtime (headersOf runtime values) row := by
  obtain ⟨rows, parsedRows, parsed⟩ := Lib.bind_eq_ok.mp parsed
  obtain ⟨succeed, rfl⟩ := (Lib.mapM_eq_ok none).mp parsedRows
  have eachRow : ∀ entry ∈ numbered values,
      (parsePosition runtime (headersOf runtime values) entry.1 entry.2).toOption.getD none = none ↔
        ¬ isPositionRow runtime (headersOf runtime values) entry.1 := by
    intro entry isMem
    obtain ⟨position, succeeds⟩ := succeed entry isMem
    dsimp only at succeeds
    rw [succeeds]
    exact parsePosition_eq_none_iff succeeds
  have rowsOf : (numbered values).map Prod.fst = values.tail := List.zipIdx_map_fst 2 _
  rw [← Except.ok.inj parsed, List.reduceOption, List.filterMap_eq_nil_iff, ← rowsOf,
    List.forall_mem_map, List.forall_mem_map]
  exact forall₂_congr eachRow

theorem positions_eq_nil_iff {values : List Row} {content : Content}
    (parsed : parseSheet runtime config values = .ok content) :
    content.positions = [] ↔ (isPositionSheet runtime values →
      ∀ row ∈ values.tail, ¬ isPositionRow runtime (headersOf runtime values) row) := by
  rw [parseSheet] at parsed
  by_cases positionSheet : isPositionSheet runtime values
  · rw [if_pos positionSheet] at parsed
    obtain ⟨positions, parsedPositions, parsed⟩ := Lib.bind_eq_ok.mp parsed
    rw [← Except.ok.inj parsed, parsePositions_eq_nil_iff parsedPositions]
    simp [positionSheet]
  · rw [if_neg positionSheet] at parsed
    have noPositions : content.positions = [] := by
      split at parsed
      · obtain ⟨bookings, -, parsed⟩ := Lib.bind_eq_ok.mp parsed
        rw [← Except.ok.inj parsed]
      · rw [← Except.ok.inj parsed]
    simp [noPositions, positionSheet]

/-- A file that can be read has no positions exactly if no row of a positions sheet
is one. -/
theorem positions_contentOf_iff {workbook : Workbook}
    (readable : Readable runtime config workbook) :
    (contentOf runtime config workbook).positions = [] ↔
      ∀ values ∈ workbook.sheets, isPositionSheet runtime values →
        ∀ row ∈ values.tail, ¬ isPositionRow runtime (headersOf runtime values) row := by
  obtain ⟨content, parsed⟩ := readable
  obtain ⟨contents, parsedSheets, succeeds⟩ := Lib.bind_eq_ok.mp parsed
  obtain ⟨succeed, rfl⟩ := (Lib.mapM_eq_ok ⟨[], []⟩).mp parsedSheets
  rw [contentOf, parsed, ← Except.ok.inj succeeds]
  simp only [Except.toOption, Option.getD_some, List.flatMap_eq_nil_iff, List.forall_mem_map]
  apply forall₂_congr
  intro values isMem
  obtain ⟨sheet, parsedSheet⟩ := succeed values isMem
  rw [parsedSheet]
  exact positions_eq_nil_iff parsedSheet

end Positions

/-! ## Copies -/

section Copies

variable {runtime} {config} {workbooks again : List Workbook}

theorem Supplied.sheets (supplied : Supplied workbooks again) :
    ∀ workbook ∈ again, ∃ original ∈ workbooks, workbook.sheets = original.sheets := by
  obtain ⟨copies, areCopies, order⟩ := supplied
  intro workbook isMem
  rw [order.mem_iff, List.mem_append] at isMem
  cases isMem with
  | inl original => exact ⟨workbook, original, rfl⟩
  | inr copy => exact (areCopies workbook copy).2

theorem Supplied.mem (supplied : Supplied workbooks again) {workbook : Workbook}
    (isMem : workbook ∈ workbooks) : workbook ∈ again := by
  obtain ⟨copies, -, order⟩ := supplied
  exact order.mem_iff.mpr (List.mem_append_left copies isMem)

/-- Another order of the files without copies. -/
theorem Supplied.of_perm (order : again.Perm workbooks) : Supplied workbooks again :=
  ⟨[], by simp, by simpa using order⟩

theorem contentOf_congr {workbook other : Workbook} (same : workbook.sheets = other.sheets) :
    contentOf runtime config workbook = contentOf runtime config other := by
  rw [contentOf, contentOf, same]

theorem fileBookings_eq (workbook : Workbook) :
    fileBookings runtime config workbook =
      Lib.firsts Booking.externalTransactionId (contentOf runtime config workbook).bookings := rfl

theorem Supplied.readable (supplied : Supplied workbooks again)
    (readable : ∀ workbook ∈ workbooks, Readable runtime config workbook) :
    ∀ workbook ∈ again, Readable runtime config workbook := by
  intro workbook isMem
  obtain ⟨original, originalMem, same⟩ := supplied.sheets workbook isMem
  rw [Readable, same]
  exact readable original originalMem

/-- The files with copies have the bookings that the files have. -/
theorem Supplied.mem_bookings (supplied : Supplied workbooks again) (booking : Booking) :
    booking ∈ again.flatMap (fileBookings runtime config) ↔
      booking ∈ workbooks.flatMap (fileBookings runtime config) := by
  rw [List.mem_flatMap, List.mem_flatMap]
  constructor
  · rintro ⟨workbook, isMem, isBooking⟩
    obtain ⟨original, originalMem, same⟩ := supplied.sheets workbook isMem
    rw [fileBookings_eq, contentOf_congr same] at isBooking
    exact ⟨original, originalMem, isBooking⟩
  · rintro ⟨workbook, isMem, isBooking⟩
    exact ⟨workbook, supplied.mem isMem, isBooking⟩

/-- Where files agree, copies leave the transactions as they are. -/
theorem bookings_perm (agree : FilesAgree runtime config workbooks)
    (supplied : Supplied workbooks again) :
    ((transactionsOf runtime config workbooks).map RawTransaction.booking).Perm
      ((transactionsOf runtime config again).map RawTransaction.booking) := by
  have consistent : Lib.Consistent Booking.externalTransactionId
      (workbooks.flatMap (fileBookings runtime config)) := by
    intro booking isMem same sameMem sameId
    obtain ⟨workbook, workbookMem, isBooking⟩ := List.mem_flatMap.mp isMem
    obtain ⟨other, otherMem, isSame⟩ := List.mem_flatMap.mp sameMem
    exact agree workbook workbookMem other otherMem booking isBooking same isSame sameId
  rw [map_booking_transactionsOf, map_booking_transactionsOf]
  calc (Lib.firsts Booking.externalTransactionId (bookingsOf runtime config workbooks)).Perm _ :=
        Lib.firsts_flatMap_firsts ..
    List.Perm _ (Lib.firsts _ (again.flatMap (fileBookings runtime config))) :=
        Lib.firsts_perm_of_consistent consistent supplied.mem_bookings
    List.Perm _ _ := (Lib.firsts_flatMap_firsts ..).symm

/-- A booking of the first file is kept. -/
theorem mem_firsts_of_first {workbook : Workbook} {rest : List Workbook} {booking : Booking}
    (isBooking : booking ∈ fileBookings runtime config workbook) :
    booking ∈ Lib.firsts Booking.externalTransactionId
      (bookingsOf runtime config (workbook :: rest)) := by
  rw [fileBookings_eq, Lib.mem_firsts, Lib.firstWith] at isBooking
  rw [Lib.mem_firsts, bookingsOf, List.flatMap_cons, Lib.firstWith, List.find?_append, isBooking]
  rfl

variable {loaded : Loaded} (accepted : load runtime config workbooks = .ok loaded)
include accepted

theorem transactions_of_load :
    loaded.transactions = transactionsOf runtime config workbooks := by
  obtain ⟨-, -, rfl⟩ := load_eq_ok.mp accepted
  rfl

theorem rows_of_load : loaded.rows = positionsOf runtime config workbooks := by
  obtain ⟨-, -, rfl⟩ := load_eq_ok.mp accepted
  rfl

/-- Any file can be read first, so that its bookings are among those kept. -/
theorem mem_bookings_of_changeNothing
    (unchanged : CopiesChangeNothing runtime config workbooks loaded) {workbook : Workbook}
    (isMem : workbook ∈ workbooks) {booking : Booking}
    (isBooking : booking ∈ fileBookings runtime config workbook) :
    booking ∈ loaded.transactions.map RawTransaction.booking := by
  obtain ⟨before, after, rfl⟩ := List.append_of_mem isMem
  obtain ⟨loadedAgain, acceptedAgain, same⟩ :=
    unchanged (workbook :: (before ++ after)) (Supplied.of_perm List.perm_middle.symm)
  rw [same.transactions.mem_iff, transactions_of_load acceptedAgain, map_booking_transactionsOf]
  exact mem_firsts_of_first isBooking

theorem withoutPositions_of_changeNothing
    (unchanged : CopiesChangeNothing runtime config workbooks loaded) :
    WithoutPositions runtime workbooks := by
  intro workbook isMem
  obtain ⟨name, fresh⟩ := Infinite.exists_notMem_finset (workbooks.map Workbook.name).toFinset
  obtain ⟨loadedAgain, acceptedAgain, same⟩ := unchanged (workbooks ++ [⟨name, workbook.sheets⟩])
    ⟨[⟨name, workbook.sheets⟩], by simpa using ⟨by simpa using fresh, workbook, isMem, rfl⟩,
      .refl _⟩
  have sameContent : contentOf runtime config ⟨name, workbook.sheets⟩ =
      contentOf runtime config workbook := contentOf_congr rfl
  have lengths := same.rows.length_eq
  rw [rows_of_load accepted, rows_of_load acceptedAgain, positionsOf, positionsOf,
    List.flatMap_append, List.length_append, List.flatMap_singleton, sameContent] at lengths
  have none : (contentOf runtime config workbook).positions = [] :=
    List.length_eq_zero_iff.mp (by omega)
  exact (positions_contentOf_iff ((load_eq_ok.mp accepted).1 workbook isMem)).mp none

theorem filesAgree_of_changeNothing
    (unchanged : CopiesChangeNothing runtime config workbooks loaded) :
    FilesAgree runtime config workbooks := by
  intro workbook isMem other otherMem booking isBooking same isSame sameId
  have kept := mem_bookings_of_changeNothing accepted unchanged isMem isBooking
  have keptSame := mem_bookings_of_changeNothing accepted unchanged otherMem isSame
  rw [transactions_of_load accepted, map_booking_transactionsOf, Lib.mem_firsts] at kept keptSame
  rw [sameId, keptSame] at kept
  exact (Option.some.inj kept).symm

theorem changeNothing_of_agree (noPositions : WithoutPositions runtime workbooks)
    (agree : FilesAgree runtime config workbooks) :
    CopiesChangeNothing runtime config workbooks loaded := by
  obtain ⟨readable, nonempty, rfl⟩ := load_eq_ok.mp accepted
  intro again supplied
  have noneOf : ∀ workbook ∈ workbooks, (contentOf runtime config workbook).positions = [] :=
    fun workbook isMem =>
      (positions_contentOf_iff (readable workbook isMem)).mpr (noPositions workbook isMem)
  have empty : positionsOf runtime config workbooks = [] := List.flatMap_eq_nil_iff.mpr noneOf
  have emptyAgain : positionsOf runtime config again = [] := by
    apply List.flatMap_eq_nil_iff.mpr
    intro workbook isMem
    obtain ⟨original, originalMem, same⟩ := supplied.sheets workbook isMem
    rw [contentOf_congr same]
    exact noneOf original originalMem
  have bookings := bookings_perm agree supplied
  refine ⟨loadedOf runtime (positionsOf runtime config again) (transactionsOf runtime config again),
    load_eq_ok.mpr ⟨supplied.readable readable, ?_, rfl⟩, ?_⟩
  · rintro ⟨-, noTransactions⟩
    rw [noTransactions, List.map_nil, List.perm_nil, List.map_eq_nil_iff] at bookings
    exact nonempty ⟨empty, bookings⟩
  · rw [empty, emptyAgain]
    refine ⟨.nil, bookings, rfl, Lib.groupTotals_perm ?_⟩
    have entries := bookings.map fun booking : Booking =>
      (runtime.upper booking.currencyCode, booking.amount.value)
    rwa [List.map_map, List.map_map] at entries

end Copies

/-- Copies of accepted files change nothing and merged bookings agree exactly if the
files have no positions, files with one booking have it with the same fields, and
the texts of a booking determine its details. -/
theorem repeatedExports_iff (lawful : runtime.Lawful) {workbooks : List Workbook} {loaded : Loaded}
    (accepted : load runtime config workbooks = .ok loaded)
    (distinct : NoCollision runtime config workbooks) :
    CopiesChangeNothing runtime config workbooks loaded ∧
        MergedAgree runtime config workbooks ↔
      WithoutPositions runtime workbooks ∧ FilesAgree runtime config workbooks ∧
        TextsTellApart runtime config workbooks := by
  rw [mergedAgree_iff lawful distinct, ← and_assoc]
  apply and_congr_left'
  constructor
  · intro unchanged
    exact ⟨withoutPositions_of_changeNothing accepted unchanged,
      filesAgree_of_changeNothing accepted unchanged⟩
  · rintro ⟨noPositions, agree⟩
    exact changeNothing_of_agree accepted noPositions agree

section Runs

/-- 2026-01-02 00:00:00 UTC -/
def bookingDay : Instant := Instant.days 20455

/-- The digests of the two bookings below. -/
private def bookingDigests : List (String × String) :=
  [("t1\x1f\x1f2026-01-02 00:00:00+00:00\x1f\x1fopname\x1f-12.5\x1feur\x1f\x1f\x1f",
      "d0c30b581566b6a62acfe27eb3827e887008d377e0bcfc53f45a735f3c664bf8"),
    ("t2\x1f\x1f2026-01-02 00:00:00+00:00\x1f\x1fstorting\x1f20\x1feur\x1f\x1f\x1f",
      "53f9f74521dd48e58787474627fe107a30ddc41c21ff93b18ad844501a1d14fa")]

/-- The runtime on ASCII texts and on one day. -/
def dayRuntime : Runtime where
  casefold text := String.ofList (text.toList.map Char.toLower)
  upper text := String.ofList (text.toList.map Char.toUpper)
  isWord char := char.isAlphanum || char = '_'
  fromIsoFormat text := if text = "2026-01-02" then some bookingDay else none
  excelDate _ := none
  naiveStr _ := "2026-01-02 00:00:00"
  naiveRepr _ := "datetime.datetime(2026, 1, 2, 0, 0)"
  utcStr instant :=
    if instant = bookingDay then "2026-01-02 00:00:00+00:00" else (⟨instant, 0⟩ : Decimal).str
  sha256 text := (bookingDigests.lookup text).getD text

def saxoConfig : Config where
  externalAccountId := "saxo-investor-default"

private def positionsExport (name : String) : Workbook where
  name
  sheets :=
    [[["Instrument", "Valuta", "Aantal", "Actuele koers", "Huidige waarde (EUR)", "ISIN"].map
        Cell.text,
      [.text "ASML Holding", .text "EUR", .number "2", .number "500", .number "1000",
        .text "NL0010273215"]]]

private def transactionsExport : Workbook where
  name := "transacties.xlsx"
  sheets :=
    [[["Transactiedatum", "Boekingsbedrag", "Valuta", "Acties", "Transactie-ID"].map Cell.text,
      [.text "2026-01-02", .number "-12.5", .text "EUR", .text "Opname", .text "T1"],
      [.text "2026-01-02", .empty, .empty, .text "Totaal", .empty],
      [.text "2026-01-02", .number "20", .text "EUR", .text "Storting", .text "T2"]]]

private theorem folded_number (instant : Instant) :
    (dayRuntime.casefold (cleanText (⟨instant, 0⟩ : Decimal).str)).toList =
      (⟨instant, 0⟩ : Decimal).str.toList.map Char.toLower := by
  rw [cleanText_str]
  exact String.toList_ofList

/-- The text of the day has a blank, which the texts of numbers do not have. -/
private theorem folded_day_ne (instant : Instant) :
    dayRuntime.casefold (cleanText "2026-01-02 00:00:00+00:00") ≠
      dayRuntime.casefold (cleanText (⟨instant, 0⟩ : Decimal).str) := by
  intro same
  have blank : ' ' ∈
      (dayRuntime.casefold (cleanText "2026-01-02 00:00:00+00:00")).toList := by
    decide +kernel
  rw [same, folded_number] at blank
  obtain ⟨char, isMem, lower⟩ := List.mem_map.mp blank
  cases Decimal.plain_or_eq_of_mem_str isMem with
  | inl plain =>
      rw [plain.toLower] at lower
      have notSpace := plain.not_space
      rw [lower] at notSpace
      cases notSpace
  | inr letter =>
      rw [letter] at lower
      cases lower

theorem dayRuntime_lawful : dayRuntime.Lawful where
  casefold_ascii text _ := String.toList_ofList
  utcStr_injective instant other same := by
    simp only [dayRuntime] at same
    split at same
    · next isDay =>
        split at same
        · next otherDay => rw [isDay, otherDay]
        · exact absurd same (folded_day_ne other)
    · split at same
      · exact absurd same.symm (folded_day_ne instant)
      · have texts := congrArg String.toList same
        have numbers := Decimal.eq_of_map_toLower_str
          ((folded_number instant).symm.trans (texts.trans (folded_number other)))
        exact (Decimal.mk.inj numbers).1

/-- A positions export that is supplied twice counts every position twice. -/
theorem copy_doubles_positions :
    ((load dayRuntime saxoConfig [positionsExport "posities.xlsx"]).toOption.map fun loaded =>
        (loaded.rows.length, loaded.netAssetValue)) = some (1, some 1000) ∧
      ((load dayRuntime saxoConfig
          [positionsExport "posities.xlsx", positionsExport "posities (1).xlsx"]).toOption.map
        fun loaded => (loaded.rows.length, loaded.netAssetValue)) = some (2, some 2000) ∧
      ∃ loaded, load dayRuntime saxoConfig [positionsExport "posities.xlsx"] = .ok loaded ∧
        ¬ CopiesChangeNothing dayRuntime saxoConfig [positionsExport "posities.xlsx"] loaded := by
  refine ⟨by decide +kernel, by decide +kernel, ?_⟩
  obtain ⟨loaded, accepted⟩ := Lib.exists_ok_of_isSome (show
    (load dayRuntime saxoConfig [positionsExport "posities.xlsx"]).toOption.isSome = true by
      decide +kernel)
  refine ⟨loaded, accepted, ?_⟩
  intro unchanged
  have noPositions := withoutPositions_of_changeNothing accepted unchanged
  revert noPositions
  unfold WithoutPositions
  decide +kernel

/-- A file with two bookings can be supplied any number of times. -/
theorem repeatedExports_iff_transactions :
    ∃ loaded, load dayRuntime saxoConfig [transactionsExport] = .ok loaded ∧
      CopiesChangeNothing dayRuntime saxoConfig [transactionsExport] loaded ∧
      MergedAgree dayRuntime saxoConfig [transactionsExport] := by
  obtain ⟨loaded, accepted⟩ := Lib.exists_ok_of_isSome (show
    (load dayRuntime saxoConfig [transactionsExport]).toOption.isSome = true by decide +kernel)
  have distinct : NoCollision dayRuntime saxoConfig [transactionsExport] := by
    unfold NoCollision
    decide +kernel
  have conditions : WithoutPositions dayRuntime [transactionsExport] ∧
      FilesAgree dayRuntime saxoConfig [transactionsExport] ∧
      TextsTellApart dayRuntime saxoConfig [transactionsExport] := by
    unfold WithoutPositions FilesAgree TextsTellApart
    decide +kernel
  exact ⟨loaded, accepted,
    (repeatedExports_iff dayRuntime saxoConfig dayRuntime_lawful accepted distinct).mpr conditions⟩

end Runs

end FinanceSync.Saxo
