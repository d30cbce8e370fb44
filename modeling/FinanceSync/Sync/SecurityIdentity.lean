import FinanceSync.Sync.SecurityReferences

/-!
# Resolved securities and their ISINs

A reference keeps its ISIN apart from those of other securities, and resolves to
the same security again, exactly where the identifiers it falls back to belong to
no other ISIN and a security it becomes can be found again.
-/

namespace FinanceSync.Sync

open Lib

namespace SecurityDatabase

variable {db : SecurityDatabase} {provider : Provider} {reference : SecurityReference}

/-! ## What is written -/

@[simp] theorem securities_upsertListing (db : SecurityDatabase) (reference : SecurityReference)
    (security : Security) : (db.upsertListing reference security).securities = db.securities := by
  simp only [upsertListing]
  split
  · rfl
  · rfl

@[simp] theorem unresolved_upsertListing (db : SecurityDatabase) (reference : SecurityReference)
    (security : Security) : (db.upsertListing reference security).unresolved = db.unresolved := by
  simp only [upsertListing]
  split
  · rfl
  · rfl

@[simp] theorem securities_queue (db : SecurityDatabase) (provider : Provider)
    (reference : SecurityReference) (id : Option Uuid) (method : Option String) :
    (db.queueUnresolvedSecurity provider reference id method).1.securities = db.securities := by
  rw [queueUnresolvedSecurity]
  split
  · rfl
  · split
    · rfl
    · rfl

@[simp] theorem securities_mapExternalId (db : SecurityDatabase) (provider : Provider)
    (reference : SecurityReference) (security : Security) (fallback : String) :
    (db.mapExternalId provider reference security fallback).securities = db.securities := by
  rw [mapExternalId]
  split
  · rfl
  · exact securities_queue ..

section Queue

variable {externalId : String} (id : Option Uuid) (method : Option String)

theorem queue_of_row (identified : reference.providerIdentifier = some externalId)
    {row : UnresolvedSecurity} (found : db.rowOf provider externalId = some row) :
    (db.queueUnresolvedSecurity provider reference id method).1.unresolved =
      db.unresolved.save (queueRow provider reference row.id externalId id method) := by
  simp only [queueUnresolvedSecurity, identified, found]

theorem queue_of_new (identified : reference.providerIdentifier = some externalId)
    (new : db.rowOf provider externalId = none) :
    (db.queueUnresolvedSecurity provider reference id method).1.unresolved.rows =
      db.unresolved.rows ++
        [queueRow provider reference db.unresolved.next externalId id method] := by
  simp only [queueUnresolvedSecurity, identified, new]
  rfl

theorem queue_of_unidentified (unidentified : reference.providerIdentifier = none) :
    (db.queueUnresolvedSecurity provider reference id method).1 = db := by
  simp only [queueUnresolvedSecurity, unidentified]

/-- The row of the identifier after it was queued. -/
theorem mapping_queue (db : SecurityDatabase) (provider : Provider) (id : Option Uuid)
    (method : Option String) (identified : reference.providerIdentifier = some externalId) :
    ∃ row, (db.queueUnresolvedSecurity provider reference id method).1.mapping provider reference =
      some row ∧ row.resolvedSecurityId = id ∧ row.resolutionMethod = method := by
  cases found : db.rowOf provider externalId with
  | some row =>
      refine ⟨queueRow provider reference row.id externalId id method, ?_, rfl, rfl⟩
      rw [mapping, identified, Option.bind_some, rowOf, queue_of_row id method identified found]
      exact Table.find?_save found rfl (by simp [queueRow])
  | none =>
      refine ⟨queueRow provider reference db.unresolved.next externalId id method, ?_, rfl, rfl⟩
      rw [mapping, identified, Option.bind_some, rowOf, queue_of_new id method identified found,
        List.find?_append]
      rw [rowOf] at found
      rw [found]
      simp [queueRow]

/-- Queuing touches no row but that of the identifier. -/
theorem mem_queue_of_ne {row : UnresolvedSecurity} (rowMem : row ∈ db.unresolved.rows)
    (other : db.mapping provider reference ≠ some row) :
    row ∈ (db.queueUnresolvedSecurity provider reference id method).1.unresolved.rows := by
  cases identified : reference.providerIdentifier with
  | none =>
      rw [queue_of_unidentified id method identified]
      exact rowMem
  | some externalId =>
      cases found : db.rowOf provider externalId with
      | none =>
          rw [queue_of_new id method identified found]
          exact List.mem_append_left _ rowMem
      | some stored =>
          rw [queue_of_row id method identified found]
          refine Table.mem_save_of_key_ne _ rowMem fun sameId => other ?_
          have isStored := db.unresolved.eq_of_key_eq rowMem (List.mem_of_find?_eq_some found)
            sameId
          rw [mapping, identified, Option.bind_some, found, isStored]

/-- A row after queuing was there before or is the new one. -/
theorem mem_queue {row : UnresolvedSecurity}
    (rowMem : row ∈ (db.queueUnresolvedSecurity provider reference id method).1.unresolved.rows) :
    row ∈ db.unresolved.rows ∨ row.resolvedSecurityId = id := by
  cases identified : reference.providerIdentifier with
  | none =>
      rw [queue_of_unidentified id method identified] at rowMem
      exact .inl rowMem
  | some externalId =>
      cases found : db.rowOf provider externalId with
      | none =>
          rw [queue_of_new id method identified found] at rowMem
          cases List.mem_append.mp rowMem with
          | inl old => exact .inl old
          | inr new => exact .inr (List.mem_singleton.mp new ▸ rfl)
      | some stored =>
          rw [queue_of_row id method identified found] at rowMem
          cases Table.mem_save rowMem with
          | inl new => exact .inr (new ▸ rfl)
          | inr old => exact .inl old

end Queue

/-! ## Mapped securities -/

theorem security_of_mem {security : Security} (securityMem : security ∈ db.securities.rows) :
    db.security security.id = some security := by
  cases found : db.security security.id with
  | none =>
      have missing := List.find?_eq_none.mp found security securityMem
      simp at missing
  | some other =>
      have sameId : other.id = security.id := by simpa using List.find?_some found
      rw [db.securities.eq_of_key_eq (List.mem_of_find?_eq_some found) securityMem sameId]

theorem mem_of_security {id : Uuid} {security : Security} (found : db.security id = some security) :
    security ∈ db.securities.rows ∧ security.id = id :=
  ⟨List.mem_of_find?_eq_some found, by simpa using List.find?_some found⟩

theorem mapped_some {security : Security} (isMapped : db.mapped provider reference =
      some security) :
    ∃ row, db.mapping provider reference = some row ∧
      row.resolvedSecurityId = some security.id ∧ security ∈ db.securities.rows := by
  rw [mapped, Option.bind_eq_some_iff] at isMapped
  obtain ⟨row, isRow, found⟩ := isMapped
  obtain ⟨id, isId, found⟩ := Option.bind_eq_some_iff.mp found
  obtain ⟨securityMem, sameId⟩ := mem_of_security found
  exact ⟨row, isRow, sameId ▸ isId, securityMem⟩

theorem mapped_of_mapping {security : Security} {row : UnresolvedSecurity}
    (isRow : db.mapping provider reference = some row)
    (isId : row.resolvedSecurityId = some security.id)
    (securityMem : security ∈ db.securities.rows) :
    db.mapped provider reference = some security := by
  rw [mapped, isRow, Option.bind_some, isId, Option.bind_some, security_of_mem securityMem]

/-- The queue refers to stored securities. -/
def ForeignKey (db : SecurityDatabase) : Prop :=
  ∀ row ∈ db.unresolved.rows, ∀ id, row.resolvedSecurityId = some id →
    ∃ security ∈ db.securities.rows, security.id = id

/-- An identifier without a mapped security has no row that is resolved. -/
theorem unresolved_of_unmapped (foreignKey : db.ForeignKey)
    (unmapped : db.mapped provider reference = none) {row : UnresolvedSecurity}
    (isRow : db.mapping provider reference = some row) : row.resolvedSecurityId = none := by
  cases isId : row.resolvedSecurityId with
  | none => rfl
  | some id =>
      have rowMem : row ∈ db.unresolved.rows := by
        obtain ⟨externalId, -, found⟩ := Option.bind_eq_some_iff.mp isRow
        exact List.mem_of_find?_eq_some found
      obtain ⟨security, securityMem, sameId⟩ := foreignKey row rowMem id isId
      rw [mapped_of_mapping isRow (sameId ▸ isId) securityMem] at unmapped
      cases unmapped

theorem mapping_congr {other : SecurityDatabase} (unresolved : other.unresolved = db.unresolved) :
    other.mapping provider reference = db.mapping provider reference := by
  cases db
  cases other
  cases unresolved
  rfl

theorem mapped_congr {other : SecurityDatabase} (unresolved : other.unresolved = db.unresolved)
    (securities : other.securities = db.securities) :
    other.mapped provider reference = db.mapped provider reference := by
  cases db
  cases other
  cases unresolved
  cases securities
  rfl

theorem candidates_congr {other : SecurityDatabase}
    (securities : other.securities = db.securities) :
    other.candidates reference = db.candidates reference := by
  cases db
  cases other
  cases securities
  rfl

/-- An identifier of the provider is mapped to the security. -/
theorem mapped_mapExternalId {security : Security} (securityMem : security ∈ db.securities.rows)
    (external : given reference.externalId ≠ none) (fallback : String) :
    (db.mapExternalId provider reference security fallback).mapped provider reference =
      some security := by
  rw [mapExternalId, if_neg external]
  obtain ⟨externalId, isGiven⟩ := Option.ne_none_iff_exists'.mp external
  have identified : reference.providerIdentifier = some externalId := by
    rw [SecurityReference.providerIdentifier, isGiven, Option.some_or]
  obtain ⟨row, isRow, isId, -⟩ := mapping_queue db provider _ _ identified
  exact mapped_of_mapping isRow isId (by rw [securities_queue]; exact securityMem)

/-! ## The cases of a resolution -/

section Cases

theorem resolve_of_mapped {security : Security}
    (isMapped : db.mapped provider reference = some security) :
    db.resolveSecurityReference provider reference =
      ({ db with securities :=
          db.securities.save (enrichExistingSecurity false security reference) },
        some security.id, none) := by
  simp only [resolveSecurityReference, isMapped]

variable (unmapped : db.mapped provider reference = none)

include unmapped

theorem resolve_of_only {security : Security} (only : db.candidates reference = [security]) :
    db.resolveSecurityReference provider reference =
      ((db.mapExternalId provider reference security "auto_ticker").upsertListing reference
        security, some security.id, none) := by
  simp only [resolveSecurityReference, unmapped, only]

omit unmapped in
variable (db reference) in
theorem id_createdSecurity :
    (createdSecurity reference db.securities.next).id = db.securities.next := rfl

/-- The database with the security that a reference becomes. -/
def withCreated (db : SecurityDatabase) (reference : SecurityReference) : SecurityDatabase :=
  { db with
    securities := db.securities.insert (createdSecurity reference db.securities.next)
      (id_createdSecurity db reference) }

theorem resolve_of_created (unknown : db.candidates reference = [])
    (enough : canCreate reference = true) :
    db.resolveSecurityReference provider reference =
      (((db.withCreated reference).mapExternalId provider reference
          (createdSecurity reference db.securities.next) "provider_instrument").upsertListing
        reference (createdSecurity reference db.securities.next),
        some db.securities.next, none) := by
  simp only [resolveSecurityReference, unmapped, unknown, enough, if_true]
  rfl

theorem resolve_of_queued (many : ∀ security, db.candidates reference ≠ [security])
    (unknown : db.candidates reference = [] → canCreate reference = false) :
    db.resolveSecurityReference provider reference =
      ((db.queueUnresolvedSecurity provider reference none none).1, none,
        some (db.queueUnresolvedSecurity provider reference none none).2) := by
  simp only [resolveSecurityReference, unmapped]
  split
  · next security only => exact absurd only (many security)
  · next none =>
      rw [unknown none]
      rfl
  · rfl

end Cases

/-- A resolution finds a mapped security, finds one by its identifiers, creates one,
or leaves the reference in the queue. -/
theorem resolve_cases (db : SecurityDatabase) (provider : Provider)
    (reference : SecurityReference) :
    (∃ security, db.mapped provider reference = some security) ∨
      db.mapped provider reference = none ∧
        ((∃ security, db.candidates reference = [security]) ∨
          (db.candidates reference = [] ∧ canCreate reference = true) ∨
          ((∀ security, db.candidates reference ≠ [security]) ∧
            (db.candidates reference = [] → canCreate reference = false))) := by
  cases db.mapped provider reference with
  | some security => exact .inl ⟨security, rfl⟩
  | none =>
      refine .inr ⟨rfl, ?_⟩
      match db.candidates reference with
      | [security] => exact .inl ⟨security, rfl⟩
      | [] =>
          cases canCreate reference with
          | true => exact .inr (.inl ⟨rfl, rfl⟩)
          | false => exact .inr (.inr ⟨by simp, fun _ => rfl⟩)
      | _ :: _ :: _ => exact .inr (.inr ⟨by simp, by simp⟩)

theorem preferCurrency_subset {found : List Security} {security : Security}
    (preferred : security ∈ preferCurrency reference found) : security ∈ found := by
  simp only [preferCurrency] at preferred
  split at preferred
  · exact preferred
  · split at preferred
    · exact preferred
    · exact List.mem_of_mem_filter preferred

theorem withTickerAlias_subset {security : Security}
    (found : security ∈ db.withTickerAlias reference) : security ∈ db.securities.rows := by
  rw [withTickerAlias] at found
  split at found
  · cases found
  · split at found
    · exact List.mem_of_mem_filter (preferCurrency_subset found)
    · cases found

theorem withTicker_subset {security : Security}
    (found : security ∈ db.withTicker reference) : security ∈ db.securities.rows := by
  simp only [withTicker] at found
  split at found
  · cases found
  · split at found
    · split at found
      · exact List.mem_of_mem_filter found
      · exact List.mem_of_mem_filter (List.mem_of_mem_filter found)
    · cases found

theorem mem_withIsin {security : Security} (found : security ∈ db.withIsin reference) :
    security ∈ db.securities.rows ∧ ∃ isin, given reference.isin = some isin ∧
      security.isin = some (upper isin) := by
  rw [withIsin] at found
  split at found
  · cases found
  · next isin isGiven =>
      obtain ⟨securityMem, same⟩ := List.mem_filter.mp found
      exact ⟨securityMem, isin, isGiven, by simpa using same⟩

theorem candidates_subset {security : Security} (found : security ∈ db.candidates reference) :
    security ∈ db.securities.rows := by
  rw [candidates] at found
  split at found
  · exact (mem_withIsin found).1
  · rw [withoutIsin] at found
    split at found
    · rw [withFigi] at found
      split at found
      · cases found
      · exact List.mem_of_mem_filter found
    · split at found
      · exact withTickerAlias_subset found
      · exact withTicker_subset found

/-! ## Created securities -/

section Created

theorem candidates_eq_nil_iff : db.candidates reference = [] ↔
    db.withIsin reference = [] ∧ db.withFigi reference = [] ∧
      db.withTickerAlias reference = [] ∧ db.withTicker reference = [] := by
  rw [candidates, withoutIsin]
  split_ifs with isin figi ticker
  · simp [isin]
  · simp [figi]
  · simp [ticker]
  · simp only [ne_eq, not_not] at isin figi ticker
    simp [isin, figi, ticker]

theorem rows_withCreated (db : SecurityDatabase) (reference : SecurityReference) :
    (db.withCreated reference).securities.rows =
      db.securities.rows ++ [createdSecurity reference db.securities.next] :=
  rfl

theorem withIsin_withCreated (unknown : db.withIsin reference = []) :
    (db.withCreated reference).withIsin reference =
      if given reference.isin = none then []
      else [createdSecurity reference db.securities.next] := by
  rw [withIsin] at unknown ⊢
  cases isGiven : given reference.isin with
  | none => rfl
  | some isin =>
      simp only [isGiven] at unknown
      simp only [rows_withCreated, List.filter_append, unknown]
      simp [createdSecurity, isGiven]

theorem withFigi_withCreated (unknown : db.withFigi reference = []) :
    (db.withCreated reference).withFigi reference =
      if (given reference.figi).filter (·.length ≤ 12) = none then []
      else [createdSecurity reference db.securities.next] := by
  rw [withFigi] at unknown ⊢
  cases isGiven : given reference.figi with
  | none => rfl
  | some figi =>
      simp only [isGiven] at unknown
      simp only [rows_withCreated, List.filter_append, unknown]
      by_cases short : figi.length ≤ 12
      · simp [createdSecurity, isGiven, short]
      · simp [createdSecurity, isGiven, short]

theorem preferCurrency_eq_nil_iff {found : List Security} :
    preferCurrency reference found = [] ↔ found = [] := by
  simp only [preferCurrency]
  split
  · exact Iff.rfl
  · split
    · exact Iff.rfl
    · next matching =>
        constructor
        · intro empty
          exact absurd empty matching
        · intro empty
          rw [empty]
          rfl

theorem preferCurrency_singleton (security : Security) :
    preferCurrency reference [security] = [security] := by
  simp only [preferCurrency]
  split
  · rfl
  · split
    · rfl
    · next currency _ some =>
        rw [List.filter_cons] at some ⊢
        split at some
        · next same => rw [if_pos same, List.filter_nil]
        · exact absurd rfl some

/-- Besides the created security no other has its ticker. -/
theorem withTickerAlias_withCreated (unknown : db.withTickerAlias reference = []) :
    (db.withCreated reference).withTickerAlias reference = [] ∨
      (db.withCreated reference).withTickerAlias reference =
        [createdSecurity reference db.securities.next] := by
  rw [withTickerAlias] at unknown ⊢
  cases isGiven : given reference.ticker with
  | none => exact .inl rfl
  | some ticker =>
      simp only [isGiven] at unknown ⊢
      split at unknown
      · next applies =>
          rw [if_pos applies, rows_withCreated, List.filter_append,
            preferCurrency_eq_nil_iff.mp unknown, List.nil_append, List.filter_singleton]
          cases isAliasOf ticker (createdSecurity reference db.securities.next) with
          | true => exact .inr (preferCurrency_singleton _)
          | false => exact .inl (preferCurrency_eq_nil_iff.mpr rfl)
      · next skipped =>
          rw [if_neg skipped]
          exact .inl rfl

theorem withTicker_withCreated (unknown : db.withTicker reference = [])
    {ticker : String} (isGiven : given reference.ticker = some ticker)
    (internal : reference.externalId = none) :
    (db.withCreated reference).withTicker reference =
      [createdSecurity reference db.securities.next] := by
  simp only [withTicker, isGiven, internal, if_true] at unknown ⊢
  simp only [rows_withCreated, List.filter_append]
  cases isCurrency : given reference.currencyCode with
  | none =>
      simp only [isCurrency] at unknown
      simp [unknown, createdSecurity, isGiven]
  | some currency =>
      simp only [isCurrency] at unknown
      simp [unknown, createdSecurity, isGiven, isCurrency]

/-- A security that is created for the reference is not found again: only a FIGI
identifies it, which is too long, and the ticker is not looked up. -/
def Lost (reference : SecurityReference) : Prop :=
  given reference.isin = none ∧ given reference.externalId = none ∧
    (given reference.figi).filter (·.length ≤ 12) = none ∧
    (given reference.ticker = none ∨ reference.externalId ≠ none)

instance (reference : SecurityReference) : Decidable (Lost reference) :=
  inferInstanceAs (Decidable (_ ∧ _ ∧ _ ∧ (_ ∨ _)))

theorem given_ne_empty {text : Option String} {value : String} (isGiven : given text = some value) :
    value ≠ "" := by
  simpa using (Option.filter_eq_some_iff.mp isGiven).2

theorem upper_ne_empty {text : String} (present : text ≠ "") : upper text ≠ upper "" := by
  intro same
  have chars := congrArg String.toList same
  rw [upper, upper, String.toList_ofList, String.toList_ofList] at chars
  have none := List.map_eq_nil_iff.mp chars
  exact present (String.toList_inj.mp none)

/-- The tickers of a reference whose identifier is empty are not looked up. -/
theorem tickers_of_lost (db : SecurityDatabase) (lost : Lost reference) :
    db.withTickerAlias reference = [] ∧ db.withTicker reference = [] := by
  obtain ⟨-, external, -, withoutTicker⟩ := lost
  rw [withTickerAlias, withTicker]
  cases isGiven : given reference.ticker with
  | none => exact ⟨rfl, rfl⟩
  | some ticker =>
      have present : reference.externalId ≠ none :=
        withoutTicker.resolve_left (by rw [isGiven]; exact Option.some_ne_none ticker)
      obtain ⟨externalId, isId⟩ := Option.ne_none_iff_exists'.mp present
      have empty : externalId = "" := by
        rw [isId] at external
        simpa [given] using external
      have differ : ¬some (upper "") = some (upper ticker) := by
        intro same
        exact upper_ne_empty (given_ne_empty isGiven) (Option.some.inj same).symm
      simp [isId, empty, differ]

/-- A created security is the only candidate for its reference, unless it is lost. -/
theorem candidates_withCreated (unknown : db.candidates reference = [])
    (external : given reference.externalId = none) :
    (db.withCreated reference).candidates reference =
      if Lost reference then [] else [createdSecurity reference db.securities.next] := by
  obtain ⟨noIsin, noFigi, noAlias, noTicker⟩ := candidates_eq_nil_iff.mp unknown
  rw [candidates, withoutIsin, withIsin_withCreated noIsin, withFigi_withCreated noFigi]
  by_cases isin : given reference.isin = none
  · rw [if_pos isin, if_neg (by simp)]
    by_cases figi : (given reference.figi).filter (·.length ≤ 12) = none
    · rw [if_pos figi, if_neg (by simp)]
      by_cases lost : Lost reference
      · obtain ⟨first, second⟩ := tickers_of_lost (db.withCreated reference) lost
        rw [first, second, if_pos lost, if_neg (by simp)]
      · have ticker : given reference.ticker ≠ none := by
          intro none
          exact lost ⟨isin, external, figi, .inl none⟩
        have internal : reference.externalId = none := by
          by_contra present
          exact lost ⟨isin, external, figi, .inr present⟩
        obtain ⟨text, isGiven⟩ := Option.ne_none_iff_exists'.mp ticker
        rw [if_neg lost, withTicker_withCreated noTicker isGiven internal]
        cases withTickerAlias_withCreated noAlias with
        | inl missing => rw [missing, if_neg (by simp)]
        | inr found => rw [found, if_pos (by simp)]
    · have kept : ¬Lost reference := fun lost => figi lost.2.2.1
      rw [if_neg figi, if_pos (by simp), if_neg kept]
  · have kept : ¬Lost reference := fun lost => isin lost.1
    rw [if_neg isin, if_pos (by simp), if_neg kept]

end Created

/-! ## Resolving twice -/

/-- The database after a resolution. -/
def resolved (db : SecurityDatabase) (provider : Provider) (reference : SecurityReference) :
    SecurityDatabase :=
  (db.resolveSecurityReference provider reference).1

/-- The security that a resolution returns. -/
def answer (db : SecurityDatabase) (provider : Provider) (reference : SecurityReference) :
    Option Uuid :=
  (db.resolveSecurityReference provider reference).2.1

def securityIds (db : SecurityDatabase) : List Uuid := db.securities.rows.map Security.id

/-- Manual mappings stay as they are. -/
def KeepsManual (db next : SecurityDatabase) : Prop :=
  ∀ row ∈ db.unresolved.rows, row.resolutionMethod = some "manual" →
    row.resolvedSecurityId ≠ none → row ∈ next.unresolved.rows

/-- A security that is returned has no other ISIN than the reference, unless a human
mapped it. -/
def KeepsIsin (db : SecurityDatabase) (provider : Provider) (reference : SecurityReference) :
    Prop :=
  ∀ security ∈ (db.resolved provider reference).securities.rows,
    db.answer provider reference = some security.id →
    (∀ row, db.mapping provider reference = some row →
      row.resolvedSecurityId = some security.id → row.resolutionMethod ≠ some "manual") →
    ∀ isin, given reference.isin = some isin →
      security.isin = none ∨ security.isin = some (upper isin)

/-- Resolving keeps ISINs apart, and resolving again changes neither the answer nor
the set of securities nor a manual mapping. -/
structure Sound (db : SecurityDatabase) (provider : Provider) (reference : SecurityReference) :
    Prop where
  isin : KeepsIsin db provider reference
  manual : KeepsManual db (db.resolved provider reference)
  again : (db.resolved provider reference).answer provider reference =
    db.answer provider reference
  rows : ((db.resolved provider reference).resolved provider reference).securityIds =
    (db.resolved provider reference).securityIds
  manualAgain : KeepsManual (db.resolved provider reference)
    ((db.resolved provider reference).resolved provider reference)

/-- A mapping that no human made and a match by FIGI or ticker belong to no other
ISIN, and a security that is created can be found again. -/
structure Identified (db : SecurityDatabase) (provider : Provider)
    (reference : SecurityReference) : Prop where
  mapped : ∀ row security, db.mapping provider reference = some row →
    row.resolvedSecurityId = some security.id → security ∈ db.securities.rows →
    row.resolutionMethod ≠ some "manual" → ∀ isin, given reference.isin = some isin →
      security.isin = none ∨ security.isin = some (upper isin)
  matched : db.mapped provider reference = none → db.withIsin reference = [] →
    given reference.isin ≠ none → ∀ security, db.withoutIsin reference = [security] →
      security.isin = none
  found : db.mapped provider reference = none → db.candidates reference = [] →
    canCreate reference = true → ¬Lost reference

theorem securityIds_save (security : Security) :
    ({ db with securities := db.securities.save security } : SecurityDatabase).securityIds =
      db.securityIds :=
  Table.keys_save db.securities security

/-- A mapped security is returned, whatever else is stored. -/
theorem of_mapped {security : Security}
    (isMapped : db.mapped provider reference = some security) :
    db.answer provider reference = some security.id ∧
      (db.resolved provider reference).securityIds = db.securityIds := by
  rw [answer, resolved, resolve_of_mapped isMapped]
  exact ⟨rfl, securityIds_save _⟩

theorem of_only (unmapped : db.mapped provider reference = none) {security : Security}
    (only : db.candidates reference = [security]) :
    db.answer provider reference = some security.id ∧
      (db.resolved provider reference).securities = db.securities := by
  rw [answer, resolved, resolve_of_only unmapped only]
  exact ⟨rfl, by simp⟩

theorem of_queued (unmapped : db.mapped provider reference = none)
    (many : ∀ security, db.candidates reference ≠ [security])
    (unknown : db.candidates reference = [] → canCreate reference = false) :
    db.answer provider reference = none ∧
      (db.resolved provider reference).securities = db.securities := by
  rw [answer, resolved, resolve_of_queued unmapped many unknown]
  exact ⟨rfl, by simp⟩

theorem of_created (unmapped : db.mapped provider reference = none)
    (unknown : db.candidates reference = []) (enough : canCreate reference = true) :
    db.answer provider reference = some db.securities.next ∧
      (db.resolved provider reference).securities = (db.withCreated reference).securities := by
  rw [answer, resolved, resolve_of_created unmapped unknown enough]
  exact ⟨rfl, by simp⟩

/-- The row of the identifier is the only one that is written. -/
theorem keepsManual_resolved (foreignKey : db.ForeignKey) :
    KeepsManual db (db.resolved provider reference) := by
  intro row rowMem _ isResolved
  rw [resolved]
  have other : db.mapped provider reference = none → db.mapping provider reference ≠ some row :=
    fun unmapped isRow => isResolved (unresolved_of_unmapped foreignKey unmapped isRow)
  obtain ⟨security, isMapped⟩ | ⟨unmapped, ⟨security, only⟩ | ⟨unknown, enough⟩ |
    ⟨many, lacking⟩⟩ :=
    resolve_cases db provider reference
  · rw [resolve_of_mapped isMapped]
    exact rowMem
  · rw [resolve_of_only unmapped only, unresolved_upsertListing, mapExternalId]
    split
    · exact rowMem
    · exact mem_queue_of_ne _ _ rowMem (other unmapped)
  · rw [resolve_of_created unmapped unknown enough, unresolved_upsertListing, mapExternalId]
    have sameRow : row ∈ (db.withCreated reference).unresolved.rows := rowMem
    split
    · exact sameRow
    · exact mem_queue_of_ne _ _ sameRow (other unmapped)
  · rw [resolve_of_queued unmapped many lacking]
    exact mem_queue_of_ne _ _ rowMem (other unmapped)

theorem foreignKey_queue (foreignKey : db.ForeignKey) {id : Option Uuid}
    (stored : ∀ key, id = some key → ∃ security ∈ db.securities.rows, security.id = key)
    (method : Option String) :
    (db.queueUnresolvedSecurity provider reference id method).1.ForeignKey := by
  intro row rowMem key isKey
  rw [securities_queue]
  cases mem_queue id method rowMem with
  | inl old => exact foreignKey row old key isKey
  | inr new => exact stored key (new.symm.trans isKey)

theorem foreignKey_mapExternalId (foreignKey : db.ForeignKey) {security : Security}
    (securityMem : security ∈ db.securities.rows) (fallback : String) :
    (db.mapExternalId provider reference security fallback).ForeignKey := by
  rw [mapExternalId]
  split
  · exact foreignKey
  · apply foreignKey_queue foreignKey
    intro key isKey
    exact ⟨security, securityMem, Option.some.inj isKey⟩

theorem foreignKey_upsertListing (foreignKey : db.ForeignKey) (security : Security) :
    (db.upsertListing reference security).ForeignKey := by
  intro row rowMem
  rw [securities_upsertListing]
  rw [unresolved_upsertListing] at rowMem
  exact foreignKey row rowMem

/-- The queue refers to stored securities after every resolution. -/
theorem foreignKey_resolved (foreignKey : db.ForeignKey) :
    (db.resolved provider reference).ForeignKey := by
  rw [resolved]
  obtain ⟨security, isMapped⟩ | ⟨unmapped, ⟨security, only⟩ | ⟨unknown, enough⟩ |
    ⟨many, lacking⟩⟩ :=
    resolve_cases db provider reference
  · rw [resolve_of_mapped isMapped]
    intro row rowMem key isKey
    obtain ⟨old, oldMem, sameId⟩ := foreignKey row rowMem key isKey
    have inIds : key ∈ (db.securities.save
        (enrichExistingSecurity false security reference)).rows.map Security.id := by
      rw [Table.keys_save]
      exact List.mem_map.mpr ⟨old, oldMem, sameId⟩
    exact List.mem_map.mp inIds
  · rw [resolve_of_only unmapped only]
    have securityMem : security ∈ db.securities.rows :=
      candidates_subset (only ▸ List.mem_singleton_self security)
    dsimp only
    apply foreignKey_upsertListing
    exact foreignKey_mapExternalId foreignKey securityMem "auto_ticker"
  · rw [resolve_of_created unmapped unknown enough]
    have created : (db.withCreated reference).ForeignKey := by
      intro row rowMem key isKey
      obtain ⟨old, oldMem, sameId⟩ := foreignKey row rowMem key isKey
      exact ⟨old, List.mem_append_left _ oldMem, sameId⟩
    have createdMem : createdSecurity reference db.securities.next ∈
        (db.withCreated reference).securities.rows :=
      List.mem_append_right _ (List.mem_singleton_self _)
    dsimp only
    apply foreignKey_upsertListing
    exact foreignKey_mapExternalId created createdMem "provider_instrument"
  · rw [resolve_of_queued unmapped many lacking]
    apply foreignKey_queue foreignKey
    intro key isKey
    cases isKey

/-- Without an identifier of the provider a created security is not mapped. -/
theorem unmapped_created (foreignKey : db.ForeignKey)
    (unmapped : db.mapped provider reference = none) (unknown : db.candidates reference = [])
    (enough : canCreate reference = true) (external : given reference.externalId = none) :
    (db.resolved provider reference).mapped provider reference = none := by
  rw [mapped, Option.bind_eq_none_iff]
  intro row isRow
  have sameRow : db.mapping provider reference = some row := by
    rw [← isRow]
    apply (mapping_congr _).symm
    rw [resolved, resolve_of_created unmapped unknown enough, unresolved_upsertListing,
      mapExternalId, if_pos external]
    rfl
  rw [unresolved_of_unmapped foreignKey unmapped sameRow, Option.bind_none]

/-- Resolving again gives the same answer and creates nothing, unless the security
that was created is lost. -/
theorem repeats_of_found (foreignKey : db.ForeignKey)
    (found : db.mapped provider reference = none → db.candidates reference = [] →
      canCreate reference = true → ¬Lost reference) :
    (db.resolved provider reference).answer provider reference =
        db.answer provider reference ∧
      ((db.resolved provider reference).resolved provider reference).securityIds =
        (db.resolved provider reference).securityIds := by
  obtain ⟨security, isMapped⟩ | ⟨unmapped, ⟨security, only⟩ | ⟨unknown, enough⟩ |
    ⟨many, lacking⟩⟩ :=
    resolve_cases db provider reference
  · obtain ⟨row, isRow, isId, securityMem⟩ := mapped_some isMapped
    have sameRow : (db.resolved provider reference).mapping provider reference = some row := by
      rw [resolved, resolve_of_mapped isMapped]
      exact isRow
    have stored : enrichExistingSecurity false security reference ∈
        (db.resolved provider reference).securities.rows := by
      rw [resolved, resolve_of_mapped isMapped]
      exact List.mem_of_find?_eq_some (Table.find?_save (security_of_mem securityMem) rfl
        (by simp [enrichExistingSecurity]))
    have sameId : row.resolvedSecurityId =
        some (enrichExistingSecurity false security reference).id := isId
    obtain ⟨second, rows⟩ := of_mapped (mapped_of_mapping sameRow sameId stored)
    rw [(of_mapped isMapped).1]
    exact ⟨second, rows⟩
  · have securityMem : security ∈ db.securities.rows :=
      candidates_subset (only ▸ List.mem_singleton_self security)
    obtain ⟨first, same⟩ := of_only unmapped only
    rw [first]
    by_cases external : given reference.externalId = none
    · have again : (db.resolved provider reference).mapped provider reference = none := by
        rw [← unmapped]
        apply mapped_congr _ same
        rw [resolved, resolve_of_only unmapped only, unresolved_upsertListing, mapExternalId,
          if_pos external]
      obtain ⟨second, rows⟩ := of_only again ((candidates_congr same).trans only)
      exact ⟨second, by rw [securityIds, rows, securityIds]⟩
    · have again : (db.resolved provider reference).mapped provider reference = some security := by
        rw [resolved, resolve_of_only unmapped only]
        rw [mapped_congr (unresolved_upsertListing ..) (securities_upsertListing ..)]
        exact mapped_mapExternalId securityMem external _
      exact of_mapped again
  · obtain ⟨first, rows⟩ := of_created unmapped unknown enough
    rw [first]
    by_cases external : given reference.externalId = none
    · have again := unmapped_created foreignKey unmapped unknown enough external
      have only : (db.resolved provider reference).candidates reference =
          [createdSecurity reference db.securities.next] := by
        rw [candidates_congr rows, candidates_withCreated unknown external,
          if_neg (found unmapped unknown enough)]
      obtain ⟨second, same⟩ := of_only again only
      exact ⟨second, by rw [securityIds, same, securityIds]⟩
    · have createdMem : createdSecurity reference db.securities.next ∈
          (db.withCreated reference).securities.rows :=
        List.mem_append_right _ (List.mem_singleton_self _)
      have again : (db.resolved provider reference).mapped provider reference =
          some (createdSecurity reference db.securities.next) := by
        rw [resolved, resolve_of_created unmapped unknown enough]
        rw [mapped_congr (unresolved_upsertListing ..) (securities_upsertListing ..)]
        exact mapped_mapExternalId createdMem external _
      exact of_mapped again
  · obtain ⟨first, same⟩ := of_queued unmapped many lacking
    rw [first]
    have again : (db.resolved provider reference).mapped provider reference = none := by
      rw [resolved, resolve_of_queued unmapped many lacking, mapped, Option.bind_eq_none_iff]
      intro row isRow
      cases identified : reference.providerIdentifier with
      | none =>
          rw [mapping, identified] at isRow
          cases isRow
      | some externalId =>
          obtain ⟨queued, isQueued, isId, -⟩ := mapping_queue db provider none none
            identified
          rw [isRow] at isQueued
          rw [Option.some.inj isQueued, isId, Option.bind_none]
    have sameCandidates : (db.resolved provider reference).candidates reference =
        db.candidates reference := candidates_congr same
    obtain ⟨second, rows⟩ := of_queued again (by rw [sameCandidates]; exact many)
      (by rw [sameCandidates]; exact lacking)
    exact ⟨second, by rw [securityIds, rows, securityIds]⟩

/-- The ISINs stay apart where no identifier that the resolution falls back to belongs
to another ISIN. -/
theorem keepsIsin_iff : KeepsIsin db provider reference ↔
    (∀ row security, db.mapping provider reference = some row →
      row.resolvedSecurityId = some security.id → security ∈ db.securities.rows →
      row.resolutionMethod ≠ some "manual" → ∀ isin, given reference.isin = some isin →
        security.isin = none ∨ security.isin = some (upper isin)) ∧
    (db.mapped provider reference = none → db.withIsin reference = [] →
      given reference.isin ≠ none → ∀ security, db.withoutIsin reference = [security] →
        security.isin = none) := by
  obtain ⟨security, isMapped⟩ | ⟨unmapped, rest⟩ := resolve_cases db provider reference
  · obtain ⟨row, isRow, isId, securityMem⟩ := mapped_some isMapped
    have stored : enrichExistingSecurity false security reference ∈
        (db.resolved provider reference).securities.rows := by
      rw [resolved, resolve_of_mapped isMapped]
      exact List.mem_of_find?_eq_some (Table.find?_save (security_of_mem securityMem) rfl
        (by simp [enrichExistingSecurity]))
    have isAnswer := (of_mapped isMapped).1
    have sameIsin : (enrichExistingSecurity false security reference).isin = security.isin := by
      simp [enrichExistingSecurity]
    constructor
    · intro keeps
      refine ⟨?_, fun unmapped => by rw [isMapped] at unmapped; cases unmapped⟩
      intro other found isOther otherId foundMem automatic isin isGiven
      rw [isRow] at isOther
      cases isOther
      have same := db.securities.eq_of_key_eq securityMem foundMem
        (Option.some.inj (isId.symm.trans otherId))
      rw [← same, ← sameIsin]
      apply keeps _ stored isAnswer _ isin isGiven
      intro other isOther _
      rw [isRow] at isOther
      rw [← Option.some.inj isOther]
      exact automatic
    · rintro ⟨mapped, -⟩ found foundMem answered automatic isin isGiven
      rw [isAnswer] at answered
      have same : found = enrichExistingSecurity false security reference :=
        Table.eq_of_key_eq _ foundMem stored (Option.some.inj answered).symm
      rw [same, sameIsin]
      exact mapped row security isRow isId securityMem
        (automatic row isRow (isId.trans answered)) isin isGiven
  · have vacuous : ∀ row security, db.mapping provider reference = some row →
        row.resolvedSecurityId = some security.id → security ∈ db.securities.rows → False := by
      intro row security isRow isId securityMem
      rw [mapped_of_mapping isRow isId securityMem] at unmapped
      cases unmapped
    have mapped : ∀ row security, db.mapping provider reference = some row →
        row.resolvedSecurityId = some security.id → security ∈ db.securities.rows →
        row.resolutionMethod ≠ some "manual" → ∀ isin, given reference.isin = some isin →
          security.isin = none ∨ security.isin = some (upper isin) :=
      fun row security isRow isId securityMem => (vacuous row security isRow isId securityMem).elim
    have candidatesOf : db.withIsin reference = [] →
        db.candidates reference = db.withoutIsin reference := by
      intro none
      rw [candidates, if_neg (not_not.mpr none)]
    obtain ⟨security, only⟩ | ⟨unknown, enough⟩ | ⟨many, lacking⟩ := rest
    · obtain ⟨isAnswer, same⟩ := of_only unmapped only
      have securityMem : security ∈ db.securities.rows :=
        candidates_subset (only ▸ List.mem_singleton_self security)
      constructor
      · intro keeps
        refine ⟨mapped, ?_⟩
        intro _ noIsin isinGiven other others
        rw [candidatesOf noIsin, others] at only
        rw [List.cons.inj only |>.1]
        obtain ⟨isin, isGiven⟩ := Option.ne_none_iff_exists'.mp isinGiven
        have automatic : ∀ row, db.mapping provider reference = some row →
            row.resolvedSecurityId = some security.id → row.resolutionMethod ≠ some "manual" :=
          fun row isRow isId => (vacuous row security isRow isId securityMem).elim
        cases keeps security (same ▸ securityMem) isAnswer automatic isin isGiven with
        | inl none => exact none
        | inr shared =>
            have found : security ∈ db.withIsin reference := by
              rw [withIsin, isGiven]
              exact List.mem_filter.mpr ⟨securityMem, by simpa using shared⟩
            rw [noIsin] at found
            cases found
      · rintro ⟨-, matched⟩ found foundMem answered - isin isGiven
        rw [isAnswer] at answered
        rw [same] at foundMem
        have isFound := db.securities.eq_of_key_eq foundMem securityMem
          (Option.some.inj answered).symm
        rw [isFound]
        by_cases noIsin : db.withIsin reference = []
        · left
          apply matched unmapped noIsin (by rw [isGiven]; exact Option.some_ne_none isin)
          rw [← candidatesOf noIsin, only]
        · right
          have inIsin : security ∈ db.withIsin reference := by
            rw [candidates, if_pos noIsin] at only
            rw [only]
            exact List.mem_singleton_self security
          obtain ⟨-, other, isOther, shared⟩ := mem_withIsin inIsin
          rw [isGiven] at isOther
          rw [shared, Option.some.inj isOther]
    · obtain ⟨isAnswer, rows⟩ := of_created unmapped unknown enough
      constructor
      · intro _
        refine ⟨mapped, ?_⟩
        intro _ noIsin _ other others
        rw [candidatesOf noIsin, others] at unknown
        cases unknown
      · rintro - found foundMem answered - isin isGiven
        rw [isAnswer] at answered
        rw [rows] at foundMem
        cases List.mem_append.mp foundMem with
        | inl old =>
            have earlier := db.securities.below found old
            rw [← Option.some.inj answered] at earlier
            exact absurd earlier (lt_irrefl _)
        | inr new =>
            rw [List.mem_singleton.mp new]
            right
            rw [createdSecurity, isGiven, Option.map_some]
    · obtain ⟨isAnswer, -⟩ := of_queued unmapped many lacking
      constructor
      · intro _
        refine ⟨mapped, ?_⟩
        intro _ noIsin _ other others
        exact absurd ((candidatesOf noIsin).trans others) (many other)
      · rintro - found - answered
        rw [isAnswer] at answered
        cases answered

/-- A lost security is created again. -/
theorem again_ne_of_lost (foreignKey : db.ForeignKey)
    (unmapped : db.mapped provider reference = none) (unknown : db.candidates reference = [])
    (enough : canCreate reference = true) (lost : Lost reference) :
    (db.resolved provider reference).answer provider reference ≠
      db.answer provider reference := by
  obtain ⟨first, rows⟩ := of_created unmapped unknown enough
  have again := unmapped_created foreignKey unmapped unknown enough lost.2.1
  have unknownAgain : (db.resolved provider reference).candidates reference = [] := by
    rw [candidates_congr rows, candidates_withCreated unknown lost.2.1, if_pos lost]
  obtain ⟨second, -⟩ := of_created again unknownAgain enough
  rw [first, second, rows]
  intro same
  exact absurd (Option.some.inj same) (Nat.succ_ne_self _)

def noSecurities : SecurityDatabase where
  securities := Table.empty
  unresolved := Table.empty
  listings := []

/-- A fund that trades in Amsterdam. -/
def amsterdamFund : Security where
  id := 0
  isin := some "IE00B4L5Y983"
  figi := none
  ticker := some "IWDA:XAMS"
  name := "World fund"
  securityType := .etf
  currencyCode := "EUR"

def withFund : SecurityDatabase where
  securities := Table.empty.insert amsterdamFund rfl
  unresolved := Table.empty
  listings := []

/-- An instrument with an ISIN of its own and the ticker of the fund. -/
def sameTicker : SecurityReference where
  isin := some "IE00BK5BQT80"
  ticker := some "IWDA"

/-- An identifier that is too long for a FIGI. -/
def longFigi : SecurityReference where
  figi := some "BBG000B9XRY4X"

end SecurityDatabase

end FinanceSync.Sync
