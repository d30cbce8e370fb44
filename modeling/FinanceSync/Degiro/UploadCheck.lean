import FinanceSync.Data.CsvReader
import FinanceSync.Degiro.Cells
import FinanceSync.Lib.Markers

/-!
# Formulas in uploaded exports

An upload with a cell that looks like a formula of a spreadsheet is refused.  The check
cuts the text at the more frequent of `;` and `,`, and the importer at the delimiter
that `csv.Sniffer` finds, so that they see the same cells where both settle on one
delimiter.  A number with a sign is refused too, unless it is a minus before plain digits.
-/

namespace FinanceSync.Degiro

open Csv

/-! ## The check of the upload -/

/-- `_FORMULA_PREFIXES` -/
def formulaPrefixes : List Char := ['=', '+', '@']

def lstrip (text : List Char) : List Char := text.dropWhile isSpace

/-- `-\d+(?:[.,]\d+)?` of the whole text. -/
def isPlainNegative : List Char → Bool
  | '-' :: digits =>
      digits.takeWhile Char.isDigit ≠ [] &&
        match digits.dropWhile Char.isDigit with
        | [] => true
        | mark :: fraction =>
            (mark = '.' || mark = ',') && fraction ≠ [] && fraction.all Char.isDigit
  | _ => false

/-- `_formula_like` of a text. -/
def formulaLike (text : List Char) : Bool :=
  match lstrip text with
  | [] => false
  | first :: rest =>
      first ∈ formulaPrefixes || (first = '-' && !isPlainNegative (first :: rest))

inductive UploadError
  /-- `Het bestand bevat formule-achtige inhoud en is geweigerd.` -/
  | formulaContent
  | reader (error : ReadError)

/-- `";" if sample.count(";") > sample.count(",") else ","` of the first characters. -/
def countedDelimiter (text : List Char) : Char :=
  let sample := text.take 8192
  if sample.count ',' < sample.count ';' then ';' else ','

/-- `_check_formula_injection` of a CSV file. -/
def checkFormulaInjection (text : List Char) : Except UploadError Unit :=
  let (records, failure) := reader (countedDelimiter text) (stringLines text)
  if records.any fun record => record.any formulaLike then .error .formulaContent
  else
    match failure with
    | none => .ok ()
    | some error => .error (.reader error)

/-! ## The reader of the importer -/

/-- What `csv.Sniffer().sniff(sample, delimiters=";,\t")` finds. -/
abbrev Sniffer := List Char → Option Char

def tableDelimiter (sniff : Sniffer) (text : List Char) : Char :=
  (sniff (text.take 8192)).getD (countedDelimiter text)

/-- The headers and the rows of an export. -/
structure Table where
  headers : Record
  rows : List Record

inductive TableError
  /-- `het bestand is leeg` -/
  | empty
  | reader (error : ReadError)

/-- `_clean` of a text. -/
def cleanField (field : Field) : Field := cleanChars (String.ofList field)

def headerMarkers : List String :=
  ["datum", "date", "product", "isin", "omschrijving", "description"]

variable (runtime : Runtime) (sniff : Sniffer)

/-- How much a row looks like the headers. -/
def headerScore (record : Record) : Nat :=
  let keys := (record.map fun field => runtime.key (String.ofList field)).dedup
  (keys.filter (· ∈ headerMarkers)).length * 10 + (keys.filter (· ≠ "")).length

/-- `_header_index`, the first of the best rows. -/
def headerIndex (table : List Record) : Nat :=
  let best := (table.take 25).zipIdx.foldl
    (fun (best : Option (Nat × Nat)) (record, index) =>
      let score := headerScore runtime record
      if best.all fun (_, bestScore) => bestScore < score then some (index, score) else best)
    none
  (best.map Prod.fst).getD 0

/-- The rows with a cell that is not blank. -/
def filledRecords (records : List Record) : List Record :=
  records.filter fun record => record.any fun field => cleanField field ≠ []

/-- `_read_table` of a CSV file. -/
def readTable (text : List Char) : Except TableError Table :=
  let (records, failure) := reader (tableDelimiter sniff text) (stringLines text)
  match failure with
  | some error => .error (.reader error)
  | none =>
      let table := filledRecords records
      if table = [] then .error .empty
      else
        let index := headerIndex runtime table
        .ok {
          headers := (table.getD index []).map cleanField
          rows := table.drop (index + 1) }

/-! ## What the two of them agree on -/

/-- The field starts, after blanks, with a formula. -/
def startsFormula (field : Field) : Bool :=
  (lstrip field).head?.any (· ∈ formulaPrefixes)

def Table.cells (table : Table) : List Field := table.headers ++ table.rows.flatten

/-- A text that the importer reads as a number is not refused. -/
def NumberPasses (text : String) : Prop :=
  (∃ number, decimalOfText text = .ok (some number)) → formulaLike text.toList = false

/-- No cell of the table of an accepted text starts a formula. -/
def NoFormulaGetsIn (text : List Char) : Prop :=
  checkFormulaInjection text = .ok () → ∀ table, readTable runtime sniff text = .ok table →
    ∀ field ∈ table.cells, startsFormula field = false

/-- The text has no sign, or it is a minus before plain digits. -/
def SignedPlainly (text : List Char) : Prop :=
  (lstrip text).head? ≠ some '+' ∧
    ((lstrip text).head? = some '-' → isPlainNegative (lstrip text) = true)

/-- The rows from the headers on, when the text is cut at the delimiter of the importer. -/
def tableRecords (text : List Char) : List Record :=
  let table := filledRecords (reader (tableDelimiter sniff text) (stringLines text)).1
  table.drop (headerIndex runtime table)

/-- Where the importer cuts the text elsewhere than the check did, this gives no cell
that starts a formula. -/
def CutAlike (text : List Char) : Prop :=
  tableDelimiter sniff text = countedDelimiter text ∨
    (checkFormulaInjection text = .ok () →
      (reader (tableDelimiter sniff text) (stringLines text)).2 = none →
      ∀ record ∈ tableRecords runtime sniff text, ∀ field ∈ record, startsFormula field = false)

/-! ## The first characters of a text -/

theorem isSpace_nbsp (char : Char) :
    isSpace (if char = '\u00A0' then ' ' else char) = isSpace char := by
  split
  · next isNbsp =>
      rw [isNbsp]
      decide
  · rfl

theorem lstrip_map_nbsp (text : List Char) :
    lstrip (text.map fun char => if char = '\u00A0' then ' ' else char) =
      (lstrip text).map fun char => if char = '\u00A0' then ' ' else char := by
  rw [lstrip, List.dropWhile_map]
  congr 2
  funext char
  exact isSpace_nbsp char

/-- Cleaning a text keeps its first character that is no blank. -/
theorem cleanChars_cons {text : String} {first : Char} {rest : List Char}
    (starts : lstrip text.toList = first :: rest) (notSpace : isSpace first = false) :
    ∃ tail, cleanChars text = first :: tail := by
  have notNbsp : first ≠ '\u00A0' := by
    rintro rfl
    cases notSpace
  have mapped := lstrip_map_nbsp text.toList
  rw [starts, List.map_cons, if_neg notNbsp, lstrip] at mapped
  rw [cleanChars, strip, mapped]
  exact Lib.stripEnd_cons notSpace _

theorem cleanChars_eq_nil {text : String} (blank : lstrip text.toList = []) :
    cleanChars text = [] := by
  have mapped := lstrip_map_nbsp text.toList
  rw [blank, List.map_nil, lstrip] at mapped
  rw [cleanChars, strip, mapped]
  rfl

theorem not_space_of_lstrip {text : List Char} {first : Char} {rest : List Char}
    (starts : lstrip text = first :: rest) : isSpace first = false := by
  have found : (text.dropWhile isSpace).head? = some first := by rw [← lstrip, starts]; rfl
  have kept := List.head?_dropWhile_not isSpace text
  rw [found] at kept
  exact kept

theorem startsFormula_cleanField (field : Field) :
    startsFormula (cleanField field) = startsFormula field := by
  cases starts : lstrip field with
  | nil =>
      have blank : cleanField field = [] := cleanChars_eq_nil (by rw [String.toList_ofList, starts])
      rw [startsFormula, startsFormula, blank, starts]
      rfl
  | cons first rest =>
      have notSpace := not_space_of_lstrip starts
      obtain ⟨tail, cleaned⟩ :=
        cleanChars_cons (by rw [String.toList_ofList, starts]) notSpace
      rw [startsFormula, startsFormula, starts, cleanField, cleaned, lstrip,
        List.dropWhile_cons_of_neg (by rw [notSpace]; decide)]
      rfl

/-! ## Numbers -/

theorem withoutSymbols_cons {first : Char} {rest : List Char}
    (kept : first ∉ ['€', '$', '£']) (notSpace : isSpace first = false) :
    withoutSymbols (first :: rest) = first :: withoutSymbols rest := by
  rw [withoutSymbols, List.filter_cons_of_pos]
  · rfl
  · simp [kept, notSpace]

theorem stripParentheses_cons {first : Char} (rest : List Char)
    (kept : first ≠ '(' ∧ first ≠ ')') :
    ∃ tail, stripParentheses (first :: rest) = first :: tail := by
  unfold stripParentheses
  dsimp only
  rw [List.dropWhile_cons_of_neg (by simp [kept])]
  exact @Lib.stripEnd_cons _ (fun char => decide (char = '(' ∨ char = ')')) first
    (by simp [kept]) rest

theorem normalizeSeparators_cons {first : Char} (rest : List Char)
    (kept : first ≠ ',' ∧ first ≠ '.') :
    ∃ tail, normalizeSeparators (first :: rest) = first :: tail := by
  unfold normalizeSeparators
  split
  · split
    · exact ⟨_, by simp [without, commasToPoints, kept]; rfl⟩
    · exact ⟨_, by simp [without, kept]; rfl⟩
  · split
    · exact ⟨_, by simp [without, commasToPoints, kept]; rfl⟩
    · exact ⟨rest, rfl⟩

/-- `Decimal(text)` of a formula. -/
theorem parseDecimal_eq_none {first : Char} {rest : List Char} (formula : first ∈ ['=', '@']) :
    parseDecimal (first :: rest) = none := by
  have notSpace : isSpace first = false := by
    simp only [List.mem_cons, List.not_mem_nil, or_false] at formula
    obtain rfl | rfl := formula <;> rfl
  obtain ⟨tail, stripped⟩ : ∃ tail, strip (first :: rest) = first :: tail := by
    rw [strip, List.dropWhile_cons_of_neg (by rw [notSpace]; decide)]
    exact Lib.stripEnd_cons notSpace rest
  rw [parseDecimal, stripped]
  simp only [List.mem_cons, List.not_mem_nil, or_false] at formula
  obtain rfl | rfl := formula
  · simp [parseUnsigned]
  · simp [parseUnsigned]

/-- What starts with a formula other than a plus is no number. -/
theorem decimalOfText_error {text : String} {first : Char} {rest : List Char}
    (starts : lstrip text.toList = first :: rest) (formula : first ∈ ['=', '@']) :
    decimalOfText text = .error (.invalidNumber text) := by
  have notSpace := not_space_of_lstrip starts
  obtain ⟨cleaned, isCleaned⟩ := cleanChars_cons starts notSpace
  have others : first ≠ '-' ∧ first ∉ ['€', '$', '£'] ∧ (first ≠ '(' ∧ first ≠ ')') ∧
      (first ≠ ',' ∧ first ≠ '.') := by
    simp only [List.mem_cons, List.not_mem_nil, or_false] at formula
    obtain rfl | rfl := formula <;> decide
  obtain ⟨inside, isInside⟩ := stripParentheses_cons (withoutSymbols cleaned) others.2.2.1
  obtain ⟨normal, isNormal⟩ := normalizeSeparators_cons inside others.2.2.2
  have notNumber : parseNumber (withoutSymbols (cleanChars text)) = none := by
    rw [isCleaned, withoutSymbols_cons others.2.1 notSpace, parseNumber, isInside, isNormal,
      parseDecimal_eq_none formula]
    rfl
  simp only [decimalOfText, notNumber]
  rw [isCleaned, if_neg]
  simp [others.1]

/-- Numbers pass the check exactly where their sign is written plainly. -/
theorem numberPasses_iff (text : String) :
    NumberPasses text ↔
      ((∃ number, decimalOfText text = .ok (some number)) → SignedPlainly text.toList) := by
  unfold NumberPasses
  constructor
  · intro passes isNumber
    have notFormula := passes isNumber
    unfold formulaLike at notFormula
    unfold SignedPlainly
    cases starts : lstrip text.toList with
    | nil => exact ⟨nofun, nofun⟩
    | cons first rest =>
        rw [starts] at notFormula
        simp only [Bool.or_eq_false_iff, decide_eq_false_iff_not, Bool.and_eq_false_imp,
          decide_eq_true_eq, Bool.not_eq_false'] at notFormula
        constructor
        · intro plus
          apply notFormula.1
          rw [Option.some.inj plus]
          decide
        · intro minus
          exact notFormula.2 (Option.some.inj minus)
  · intro plainly isNumber
    obtain ⟨notPlus, plainMinus⟩ := plainly isNumber
    unfold formulaLike
    cases starts : lstrip text.toList with
    | nil => rfl
    | cons first rest =>
        rw [starts] at notPlus plainMinus
        simp only [Bool.or_eq_false_iff, decide_eq_false_iff_not, Bool.and_eq_false_imp,
          decide_eq_true_eq, Bool.not_eq_false']
        constructor
        · intro formula
          have equalsOrAt : first ∈ ['=', '@'] := by
            simp only [formulaPrefixes, List.mem_cons, List.not_mem_nil, or_false] at formula ⊢
            rcases formula with equals | plus | at_
            · exact .inl equals
            · exact absurd (congrArg some plus) notPlus
            · exact .inr at_
          obtain ⟨number, read⟩ := isNumber
          rw [decimalOfText_error starts equalsOrAt] at read
          cases read
        · intro minus
          exact plainMinus (congrArg some minus)

/-! ## Cells -/

theorem formulaLike_of_startsFormula {field : Field} (starts : startsFormula field = true) :
    formulaLike field = true := by
  unfold startsFormula at starts
  unfold formulaLike
  cases opened : lstrip field with
  | nil =>
      rw [opened] at starts
      cases starts
  | cons first rest =>
      rw [opened] at starts
      simp only [Bool.or_eq_true]
      exact .inl starts

theorem checkFormulaInjection_ok {text : List Char} (accepted : checkFormulaInjection text = .ok ())
    {record : Record} (recordMem : record ∈ (reader (countedDelimiter text) (stringLines text)).1)
    {field : Field} (fieldMem : field ∈ record) : formulaLike field = false := by
  unfold checkFormulaInjection at accepted
  dsimp only at accepted
  split at accepted
  · cases accepted
  · next noneLike =>
      rw [← Bool.not_eq_true]
      intro like
      apply noneLike
      rw [List.any_eq_true]
      exact ⟨record, recordMem, List.any_eq_true.mpr ⟨field, fieldMem, like⟩⟩

theorem forall_drop_iff {holds : Field → Prop} (records : List Record) (index : Nat) :
    (∀ record ∈ records.drop index, ∀ field ∈ record, holds field) ↔
      (∀ field ∈ records.getD index [], holds field) ∧
        ∀ record ∈ records.drop (index + 1), ∀ field ∈ record, holds field := by
  induction records generalizing index with
  | nil => simp
  | cons first records ih =>
      cases index with
      | zero => simp
      | succ index => exact ih index

variable {runtime : Runtime} {sniff : Sniffer}

/-- The table of a text holds the cells of the rows from the headers on, the headers
cleaned. -/
theorem readTable_ok {text : List Char} {table : Table}
    (read : readTable runtime sniff text = .ok table) :
    (reader (tableDelimiter sniff text) (stringLines text)).2 = none ∧
      ((∀ field ∈ table.cells, startsFormula field = false) ↔
        ∀ record ∈ tableRecords runtime sniff text, ∀ field ∈ record,
          startsFormula field = false) := by
  unfold readTable at read
  unfold tableRecords
  dsimp only at read ⊢
  split at read
  · cases read
  · next complete =>
      refine ⟨complete, ?_⟩
      split at read
      · cases read
      · generalize filledRecords _ = records at *
        generalize headerIndex runtime records = index at *
        rw [← Except.ok.inj read]
        rw [forall_drop_iff]
        simp only [Table.cells, List.mem_append, List.mem_flatten, or_imp, forall_and,
          List.forall_mem_map, startsFormula_cleanField]
        refine and_congr_right fun _ => ?_
        constructor
        · intro clean record recordMem field fieldMem
          exact clean field ⟨record, recordMem, fieldMem⟩
        · rintro clean field ⟨record, recordMem, fieldMem⟩
          exact clean record recordMem field fieldMem

/-- No formula gets in exactly where the importer cuts the text as the check did, or its
own cells are clean. -/
theorem noFormulaGetsIn_iff (text : List Char) :
    NoFormulaGetsIn runtime sniff text ↔ CutAlike runtime sniff text := by
  constructor
  · intro kept
    by_cases same : tableDelimiter sniff text = countedDelimiter text
    · exact .inl same
    · refine .inr fun accepted complete => ?_
      cases read : readTable runtime sniff text with
      | ok table => exact (readTable_ok read).2.mp (kept accepted table read)
      | error error =>
          unfold readTable at read
          simp only [complete] at read
          split at read
          · next empty =>
              simp [tableRecords, empty]
          · cases read
  · intro alike accepted table read
    obtain ⟨complete, sameCells⟩ := readTable_ok read
    apply sameCells.mpr
    cases alike with
    | inr clean => exact clean accepted complete
    | inl same =>
        intro record recordMem field fieldMem
        have inReader : record ∈ (reader (countedDelimiter text) (stringLines text)).1 := by
          rw [← same]
          exact (List.mem_filter.mp (List.mem_of_mem_drop recordMem)).1
        have notLike := checkFormulaInjection_ok accepted inReader fieldMem
        rw [← Bool.not_eq_true] at notLike ⊢
        exact fun starts => notLike (formulaLike_of_startsFormula starts)

def asciiRuntime : Runtime where
  key text := String.ofList ((text.toList.filter Char.isAlphanum).map Char.toLower)
  upper := id
  casefold := id
  strptime _ _ := none

/-- An export with tabs between the cells. -/
def tabbedExport : List Char := "Datum\tSaldo\n1-1-2026\t=1+1\n".toList

end FinanceSync.Degiro
