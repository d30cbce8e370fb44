import FinanceSync.Identity.Resolver

/-!
# Instruments kept apart

A run of the pipeline keeps the instruments apart where every instrument that is left over has
a row of its own in the queue, where none is resolved to a security with another ISIN than its
own, and where the audit log names securities that exist.  It does so exactly where no
instrument that is left over has a text as its identifier, since the queue then drops the
text, where what a FIGI, a ticker, a name or the gateway leads to has no other ISIN, and where
no answer of the gateway comes with an identifier of its own.
-/

namespace FinanceSync.Identity

open FinanceSync.Sync (Provider Security SecurityDatabase SecurityType UnresolvedSecurity)
open FinanceSync.Visibility (truthy)
open Lib

/-! ## The queue -/

/-- What names an instrument: the first of its identifiers, else its ticker or ISIN. -/
def externalIdOf (cleansed : Instrument) : Json :=
  if truthy cleansed.id then cleansed.id
  else if truthy cleansed.externalSecurityId then cleansed.externalSecurityId
  else if truthy cleansed.externalId then cleansed.externalId
  else .string ((orText (orText cleansed.ticker cleansed.isin) (some "unknown")).getD "unknown")

/-- The identifier in the queue; only what is no text yet is made one. -/
def queueId (cleansed : Instrument) : String :=
  match externalIdOf cleansed with
  | .null | .string _ => "unknown"
  | value => value.str

/-- The text of the identifier of an instrument itself. -/
def ownId (cleansed : Instrument) : String := (externalIdOf cleansed).str

/-- A queued row with fresh data. -/
def refreshRow (row : UnresolvedSecurity) (cleansed : Instrument) : UnresolvedSecurity :=
  { row with
    rawIsin := orText cleansed.isin row.rawIsin
    rawFigi := orText (orText cleansed.figi cleansed.FIGI) row.rawFigi
    rawTicker := orText cleansed.ticker row.rawTicker
    rawName := orText (orText cleansed.name cleansed.description) row.rawName
    rawCurrencyCode := orText cleansed.currencyCode row.rawCurrencyCode }

/-- The new row of an instrument. -/
def newRow (provider : Provider) (cleansed : Instrument) (id : Uuid) : UnresolvedSecurity where
  id := id
  tenantId := provider.tenantId
  providerKey := provider.providerKey
  externalSecurityId := queueId cleansed
  rawIsin := cleansed.isin
  rawFigi := cleansed.figi
  rawTicker := cleansed.ticker
  rawName := orText cleansed.name cleansed.description
  rawCurrencyCode := cleansed.currencyCode
  resolvedSecurityId := none
  resolutionMethod := none

/-- `_stage_4_enqueue` -/
def stage4Enqueue (provider : Provider) (db : SecurityDatabase) (cleansed : Instrument) :
    SecurityDatabase × UnresolvedSecurity :=
  match db.rowOf provider (queueId cleansed) with
  | some row =>
      let refreshed := refreshRow row cleansed
      ({ db with unresolved := db.unresolved.save refreshed }, refreshed)
  | none =>
      let added := newRow provider cleansed db.unresolved.next
      ({ db with unresolved := db.unresolved.insert added rfl }, added)

/-! ## Canonical records -/

/-- `infer_security_type` -/
def inferSecurityType (casing : Casing) (ticker : String) (figi : Option String) : SecurityType :=
  let upperFigi := (casing.upper (figi.getD "")).toList
  let upperTicker := (casing.upper ticker).toList
  let byTicker :=
    if [".AS", ".DE", ".L", ".PA"].any fun marker => marker.toList.isSuffixOf upperTicker then
      SecurityType.etf
    else .stock
  if (figi.filter (· ≠ "")).isNone then byTicker
  else if "ETF.".toList.isPrefixOf upperFigi then .etf
  else if "FUND.".toList.isPrefixOf upperFigi then .mutualFund
  else if "ADR.".toList.isPrefixOf upperFigi then .stock
  else byTicker

/-- The record of an answer. -/
def canonicalSecurity (casing : Casing) (resolved : ResolvedSecurity) (id : Uuid) :
    Security where
  id := id
  isin := resolved.isin
  figi := resolved.figi
  ticker := resolved.ticker
  name := resolved.name
  securityType := inferSecurityType casing (resolved.ticker.getD "") resolved.figi
  currencyCode := resolved.currencyCode

/-- `_upsert_canonical_security`; a second security of a FIGI is refused. -/
def upsertCanonicalSecurity (casing : Casing) (db : SecurityDatabase)
    (resolved : ResolvedSecurity) : Option SecurityDatabase :=
  if db.securities.rows.any (·.isin = resolved.isin) then some db
  else if resolved.figi.isSome ∧ db.securities.rows.any (·.figi = resolved.figi) then none
  else
    let record := canonicalSecurity casing resolved db.securities.next
    some { db with securities := db.securities.insert record rfl }

/-! ## The pipeline -/

/-- An entry of the audit log. -/
structure ResolutionAuditLog where
  tenantId : Uuid
  targetSecurityId : Uuid
  resolutionMethod : String
  confidence : String
  resolverPrincipal : String
deriving DecidableEq

structure UnitOfWork where
  db : SecurityDatabase
  resolutionAuditLog : List ResolutionAuditLog

/-- What became of an instrument. -/
inductive Outcome
  | resolved (method : String) (found : Match)
  | queued (row : UnresolvedSecurity)

/-- An instrument with what became of it. -/
structure Processed where
  cleansed : Instrument
  outcome : Outcome

/-- The service for a provider of a tenant. -/
structure IdentityResolutionService where
  gateway : EnrichmentGateway
  casing : Casing
  provider : Provider
  resolverPrincipal : String

namespace IdentityResolutionService

variable (service : IdentityResolutionService) (uow : UnitOfWork)

def resolve (db : SecurityDatabase) (cleansed : Instrument) : Option (String × Match) :=
  resolveInstrument service.gateway db service.casing cleansed

/-- An answer to a name becomes a canonical record. -/
def canonicalRecord (db : SecurityDatabase) (method : String) : Match → Option SecurityDatabase
  | .stored _ => some db
  | .answered resolved =>
      if method = "fuzzy_name" then upsertCanonicalSecurity service.casing db resolved
      else some db

/-- `_audit`; an entry whose security does not exist is refused. -/
def audit (method : String) (result : ResolvedSecurity) : Option UnitOfWork :=
  if (uow.db.security result.securityId).isSome then
    some { uow with
      resolutionAuditLog := uow.resolutionAuditLog ++
        [{ tenantId := service.provider.tenantId
           targetSecurityId := result.securityId
           resolutionMethod := method
           confidence := result.confidence
           resolverPrincipal := service.resolverPrincipal }] }
  else none

/-- One pass of the loop over the instruments; `none` where the database refuses a row. -/
def processInstrument (cleansed : Instrument) : Option (UnitOfWork × Outcome) :=
  match service.resolve uow.db cleansed with
  | some (method, found) => do
      let db ← service.canonicalRecord uow.db method found
      let uow ← service.audit { uow with db } method found.security
      pure (uow, .resolved method found)
  | none =>
      let (db, row) := stage4Enqueue service.provider uow.db cleansed
      some ({ uow with db }, .queued row)

/-- `process_incoming_securities` -/
def processIncomingSecurities (uow : UnitOfWork) :
    List Instrument → Option (UnitOfWork × List Processed)
  | [] => some (uow, [])
  | instrument :: rest => do
      let cleansed := applyAllCleansing service.casing instrument
      let (uow, outcome) ← service.processInstrument uow cleansed
      let (uow, processed) ← processIncomingSecurities uow rest
      pure (uow, ⟨cleansed, outcome⟩ :: processed)

end IdentityResolutionService

/-! ## What is to hold -/

/-- The ISIN that an instrument carries, if it is no blank one. -/
def ownIsin (casing : Casing) (cleansed : Instrument) : Option String :=
  (carriedIsin casing cleansed).filter (· ≠ "")

/-- A row of the queue is that of an identifier. -/
def IsRowOf (provider : Provider) (externalId : String) (row : UnresolvedSecurity) : Prop :=
  row.tenantId = provider.tenantId ∧ row.providerKey = provider.providerKey ∧
    row.externalSecurityId = externalId

/-- What one instrument became does not confuse it with another. -/
def Processed.Own (casing : Casing) (processed : Processed) : Prop :=
  match processed.outcome with
  | .resolved _ found =>
      ∀ isin ∈ ownIsin casing processed.cleansed, ∀ other ∈ found.security.isin, other = isin
  | .queued row => row.externalSecurityId = ownId processed.cleansed

namespace IdentityResolutionService

/-- A finished run kept the instruments apart. -/
structure Apart (service : IdentityResolutionService) (before : UnitOfWork)
    (instruments : List Instrument) (after : UnitOfWork) (processed : List Processed) :
    Prop where
  every : processed.map Processed.cleansed = instruments.map (applyAllCleansing service.casing)
  own : ∀ each ∈ processed, each.Own service.casing
  stored : ∀ each ∈ processed, ∀ row, each.outcome = .queued row →
    ∃ stored ∈ after.db.unresolved.rows, stored.id = row.id ∧
      IsRowOf service.provider (ownId each.cleansed) stored
  distinct : ∀ first ∈ processed, ∀ second ∈ processed, ∀ row other,
    first.outcome = .queued row → second.outcome = .queued other →
    ownId first.cleansed ≠ ownId second.cleansed → row.id ≠ other.id
  untouched : ∀ row ∈ before.db.unresolved.rows,
    (∀ each ∈ processed, ¬ IsRowOf service.provider (ownId each.cleansed) row) →
    row ∈ after.db.unresolved.rows
  again : ∀ last reprocessed,
    service.processIncomingSecurities after instruments = some (last, reprocessed) →
    last.db.unresolved.rows.map (·.id) = after.db.unresolved.rows.map (·.id)
  audited : ∀ entry ∈ after.resolutionAuditLog, entry ∈ before.resolutionAuditLog ∨
    ∃ row ∈ after.db.securities.rows, row.id = entry.targetSecurityId

/-- A run finishes and keeps the instruments apart. -/
def KeepsApart (service : IdentityResolutionService) (uow : UnitOfWork)
    (instruments : List Instrument) : Prop :=
  ∃ after processed,
    service.processIncomingSecurities uow instruments = some (after, processed) ∧
      service.Apart uow instruments after processed

/-- What the code asks of the identifier of an instrument that nothing matches. -/
def SurvivesQueue (cleansed : Instrument) : Prop :=
  ∀ text, externalIdOf cleansed = .string text → text = "unknown"

/-- What the code asks of an answer of the gateway: it names a row of the database, and no row
has the FIGI of an answer to a name that is to become a record. -/
def Usable (db : SecurityDatabase) (method : String) (resolved : ResolvedSecurity) : Prop :=
  let unknown := ∀ row ∈ db.securities.rows, row.isin ≠ resolved.isin
  if method = "fuzzy_name" ∧ unknown then
    (∀ figi ∈ resolved.figi, ∀ row ∈ db.securities.rows, row.figi ≠ some figi) ∧
      (resolved.securityId = db.securities.next ∨
        ∃ row ∈ db.securities.rows, row.id = resolved.securityId)
  else ∃ row ∈ db.securities.rows, row.id = resolved.securityId

/-- What the code asks of an instrument. -/
def Admits (service : IdentityResolutionService) (db : SecurityDatabase)
    (cleansed : Instrument) : Prop :=
  match service.resolve db cleansed with
  | none => SurvivesQueue cleansed
  | some (method, found) =>
      (∀ isin ∈ ownIsin service.casing cleansed, findLocalByIsin db isin = none →
        ∀ other ∈ found.security.isin, other = isin) ∧
      ∀ resolved, found = .answered resolved → Usable db method resolved

/-- The conditions on the instruments, each in the state it is processed in. -/
def AdmitsAll (service : IdentityResolutionService) (uow : UnitOfWork) :
    List Instrument → Prop
  | [] => True
  | instrument :: rest =>
      let cleansed := applyAllCleansing service.casing instrument
      service.Admits uow.db cleansed ∧
        ∀ after outcome, service.processInstrument uow cleansed = some (after, outcome) →
          service.AdmitsAll after rest

end IdentityResolutionService

/-! ## Growing databases -/

/-- A database with more securities whose queue keeps all its rows, refreshed at most. -/
structure Grows (before after : SecurityDatabase) : Prop where
  securities : ∃ added, after.securities.rows = before.securities.rows ++ added
  listings : after.listings = before.listings
  kept : ∀ row ∈ before.unresolved.rows, ∃ stored ∈ after.unresolved.rows,
    stored.id = row.id ∧ stored.tenantId = row.tenantId ∧ stored.providerKey = row.providerKey ∧
      stored.externalSecurityId = row.externalSecurityId

namespace Grows

variable {before middle after : SecurityDatabase}

theorem refl (db : SecurityDatabase) : Grows db db :=
  ⟨⟨[], (List.append_nil _).symm⟩, rfl, fun row isMem => ⟨row, isMem, rfl, rfl, rfl, rfl⟩⟩

theorem trans (first : Grows before middle) (second : Grows middle after) :
    Grows before after where
  securities := by
    obtain ⟨added, firstRows⟩ := first.securities
    obtain ⟨more, secondRows⟩ := second.securities
    exact ⟨added ++ more, by rw [secondRows, firstRows, List.append_assoc]⟩
  listings := second.listings.trans first.listings
  kept row isMem := by
    obtain ⟨stored, storedMem, id, tenant, provider, externalId⟩ := first.kept row isMem
    obtain ⟨last, lastMem, lastId, lastTenant, lastProvider, lastExternalId⟩ :=
      second.kept stored storedMem
    exact ⟨last, lastMem, lastId.trans id, lastTenant.trans tenant, lastProvider.trans provider,
      lastExternalId.trans externalId⟩

theorem find?_isSome (grows : Grows before after) (wanted : Security → Bool)
    (found : (before.securities.rows.find? wanted).isSome) :
    (after.securities.rows.find? wanted).isSome := by
  obtain ⟨added, rows⟩ := grows.securities
  rw [rows, List.find?_append, Option.isSome_or, found, Bool.true_or]

/-- A row of an identifier stays. -/
theorem rowOf_isSome (grows : Grows before after) (provider : Provider) (externalId : String)
    (found : (before.rowOf provider externalId).isSome) :
    (after.rowOf provider externalId).isSome := by
  obtain ⟨row, isMem, isRow⟩ := List.find?_isSome.mp found
  obtain ⟨stored, storedMem, _, tenant, providerKey, sameId⟩ := grows.kept row isMem
  refine List.find?_isSome.mpr ⟨stored, storedMem, ?_⟩
  rwa [tenant, providerKey, sameId]

end Grows

/-! ### What is resolved stays resolved -/

section Resolved

variable {before after : SecurityDatabase} (gateway : EnrichmentGateway) (casing : Casing)

theorem resolveByIsin_isSome (grows : Grows before after) (isin : String)
    (found : (resolveByIsin gateway before isin).isSome) :
    (resolveByIsin gateway after isin).isSome := by
  simp only [resolveByIsin, findLocalByIsin, Option.isSome_or, Option.isSome_map,
    Bool.or_eq_true] at found ⊢
  exact found.imp_left (grows.find?_isSome _)

theorem resolveByFigi_isSome (grows : Grows before after) (figi : String)
    (found : (resolveByFigi gateway before figi).isSome) :
    (resolveByFigi gateway after figi).isSome := by
  simp only [resolveByFigi, findLocalByFigi, Option.isSome_or, Option.isSome_map,
    Bool.or_eq_true] at found ⊢
  exact found.imp_left (grows.find?_isSome _)

theorem resolveByTicker_isSome (grows : Grows before after) (ticker : String)
    (found : (resolveByTicker gateway before ticker).isSome) :
    (resolveByTicker gateway after ticker).isSome := by
  simp only [resolveByTicker, findLocalByTicker, Option.isSome_or, Option.isSome_map,
    Bool.or_eq_true] at found ⊢
  exact found.imp_left (grows.find?_isSome _)

theorem findByListing_isSome (grows : Grows before after) (ticker : String)
    (found : (findByListing before ticker).isSome) : (findByListing after ticker).isSome := by
  rw [findByListing] at found ⊢
  rw [grows.listings]
  cases isListing : before.listings.find? fun listing => listing.ticker = ticker with
  | none =>
      rw [isListing] at found
      cases found
  | some listing =>
      rw [isListing] at found
      simp only [Option.bind_some, Option.isSome_map] at found ⊢
      exact grows.find?_isSome _ found

theorem stage1ExactIsin_isSome (grows : Grows before after) (cleansed : Instrument)
    (found : (stage1ExactIsin gateway before casing cleansed).isSome) :
    (stage1ExactIsin gateway after casing cleansed).isSome := by
  rw [stage1ExactIsin] at found ⊢
  cases isIsin : carriedIsin casing cleansed with
  | none =>
      rw [isIsin] at found
      cases found
  | some isin =>
      rw [isIsin] at found
      simp only [Option.bind_some, Option.isSome_or, Option.isSome_map, Bool.or_eq_true]
        at found ⊢
      exact found.imp (resolveByIsin_isSome gateway grows isin) (findByListing_isSome grows isin)

theorem stage2FigiTicker_isSome (grows : Grows before after) (cleansed : Instrument)
    (found : (stage2FigiTicker gateway before cleansed).isSome) :
    (stage2FigiTicker gateway after cleansed).isSome := by
  simp only [stage2FigiTicker, Option.isSome_or, Bool.or_eq_true] at found ⊢
  apply found.imp
  · intro byFigi
    cases isFigi : (orText cleansed.figi cleansed.FIGI).filter (· ≠ "") with
    | none =>
        rw [isFigi] at byFigi
        cases byFigi
    | some figi =>
        rw [isFigi] at byFigi
        exact resolveByFigi_isSome gateway grows figi byFigi
  · intro byTicker
    cases isTicker : cleansed.ticker with
    | none =>
        rw [isTicker] at byTicker
        cases byTicker
    | some ticker =>
        rw [isTicker] at byTicker
        simp only [Option.bind_some, Option.isSome_or, Option.isSome_map, Bool.or_eq_true]
          at byTicker ⊢
        apply byTicker.imp (resolveByTicker_isSome gateway grows ticker)
        apply Or.imp (findByListing_isSome grows ticker)
        intro direct
        split
        · next degraded =>
            rw [if_pos degraded] at direct
            cases direct
        · next degraded =>
            rw [if_neg degraded] at direct
            exact resolveByTicker_isSome gateway grows ticker direct

/-- A best score of a security that reaches a threshold. -/
def Reaches (threshold : ℚ) (best : Best) : Prop := best.2.isSome ∧ threshold ≤ best.1

theorem Reaches.better {threshold score : ℚ} {best : Best} (reaches : Reaches threshold best)
    (row : Security) : Reaches threshold (if best.1 < score then (score, some row) else best) := by
  split
  · next better => exact ⟨rfl, le_trans reaches.2 (le_of_lt better)⟩
  · exact reaches

/-- A best score only gets better. -/
theorem Reaches.scoreSecurity {threshold : ℚ} {best : Best} (reaches : Reaches threshold best)
    (name : String) (row : Security) :
    Reaches threshold (scoreSecurity casing name best row) := by
  rw [Identity.scoreSecurity]
  simp only
  split
  · exact (reaches.better row).better row
  · exact reaches.better row

theorem Reaches.foldl_scoreSecurity {threshold : ℚ} (name : String) (rows : List Security) :
    ∀ {best : Best}, Reaches threshold best →
      Reaches threshold (rows.foldl (Identity.scoreSecurity casing name) best) := by
  induction rows with
  | nil => exact id
  | cons row rest ih =>
      intro best reaches
      exact ih (reaches.scoreSecurity casing name row)

theorem stage3FuzzyName_isSome (grows : Grows before after) (cleansed : Instrument)
    (found : (stage3FuzzyName gateway before casing cleansed).isSome) :
    (stage3FuzzyName gateway after casing cleansed).isSome := by
  rw [stage3FuzzyName] at found ⊢
  cases isName : cleansed.name with
  | none =>
      rw [isName] at found
      cases found
  | some rawName =>
      rw [isName] at found
      obtain ⟨added, rows⟩ := grows.securities
      simp only [Option.bind_some, rows, List.append_eq_nil_iff, List.foldl_append] at found ⊢
      split at found
      · cases found
      · next some =>
          rw [if_neg fun none => some none.1]
          set name := (cleanseName (Option.some rawName)).getD rawName
          set best := before.securities.rows.foldl (scoreSecurity casing name) (0, none)
          cases isBest : best.2.filter fun _ => decide (fuzzyMatchThreshold ≤ best.1) with
          | some row =>
              obtain ⟨isRow, enough⟩ := Option.filter_eq_some_iff.mp isBest
              have reaches : Reaches fuzzyMatchThreshold best :=
                ⟨by rw [isRow]; rfl, of_decide_eq_true enough⟩
              obtain ⟨isSome, stillEnough⟩ := reaches.foldl_scoreSecurity casing name added
              obtain ⟨later, isLater⟩ := Option.isSome_iff_exists.mp isSome
              rw [isLater, Option.filter_some, if_pos (decide_eq_true stillEnough)]
              rfl
          | none =>
              rw [isBest] at found
              split
              · rfl
              · exact found

/-- What the pipeline resolves it resolves again later. -/
theorem resolveInstrument_isSome (grows : Grows before after) (cleansed : Instrument)
    (found : (resolveInstrument gateway before casing cleansed).isSome) :
    (resolveInstrument gateway after casing cleansed).isSome := by
  simp only [resolveInstrument, Option.isSome_or, Option.isSome_map, Bool.or_eq_true] at found ⊢
  exact found.imp (stage1ExactIsin_isSome gateway casing grows cleansed)
    (Or.imp (stage2FigiTicker_isSome gateway grows cleansed)
      (stage3FuzzyName_isSome gateway casing grows cleansed))

end Resolved

/-! ## Steps -/

theorem isRowOf_of_rowOf {db : SecurityDatabase} {provider : Provider} {externalId : String}
    {row : UnresolvedSecurity} (found : db.rowOf provider externalId = some row) :
    row ∈ db.unresolved.rows ∧ IsRowOf provider externalId row := by
  refine ⟨List.mem_of_find?_eq_some found, ?_⟩
  have isRow := List.find?_some found
  simp only [Bool.and_eq_true, decide_eq_true_eq] at isRow
  exact ⟨isRow.1.1, isRow.1.2, isRow.2⟩

/-- What the queue holds after an instrument was added to it. -/
structure Enqueued (provider : Provider) (cleansed : Instrument) (before after : SecurityDatabase)
    (row : UnresolvedSecurity) : Prop where
  grows : Grows before after
  stored : row ∈ after.unresolved.rows
  isRow : IsRowOf provider (queueId cleansed) row
  others : ∀ other ∈ before.unresolved.rows, ¬ IsRowOf provider (queueId cleansed) other →
    other ∈ after.unresolved.rows
  known : (before.rowOf provider (queueId cleansed)).isSome →
    after.unresolved.rows.map (·.id) = before.unresolved.rows.map (·.id)

theorem enqueued (provider : Provider) (db : SecurityDatabase) (cleansed : Instrument) :
    Enqueued provider cleansed db (stage4Enqueue provider db cleansed).1
      (stage4Enqueue provider db cleansed).2 := by
  rw [stage4Enqueue]
  cases isRow : db.rowOf provider (queueId cleansed) with
  | some row =>
      obtain ⟨rowMem, rowIs⟩ := isRowOf_of_rowOf isRow
      have sameId : row.id = (refreshRow row cleansed).id := rfl
      have saved (other : UnresolvedSecurity) :
          other ∈ (db.unresolved.save (refreshRow row cleansed)).rows ↔
            other = refreshRow row cleansed ∨ other ∈ db.unresolved.rows ∧ other.id ≠ row.id :=
        Table.mem_save_iff rowMem sameId
      have stored := (saved _).mpr (.inl rfl)
      exact
        { grows := ⟨⟨[], (List.append_nil _).symm⟩, rfl, fun other otherMem => by
            by_cases same : other.id = row.id
            · rw [db.unresolved.eq_of_key_eq otherMem rowMem same]
              exact ⟨_, stored, rfl, rfl, rfl, rfl⟩
            · exact ⟨other, (saved other).mpr (.inr ⟨otherMem, same⟩), rfl, rfl, rfl, rfl⟩⟩
          stored := stored
          isRow := rowIs
          others := by
            intro other otherMem otherIs
            refine (saved other).mpr (.inr ⟨otherMem, ?_⟩)
            intro same
            rw [db.unresolved.eq_of_key_eq otherMem rowMem same] at otherIs
            exact otherIs rowIs
          known := fun _ => db.unresolved.keys_save _ }
  | none =>
      exact
        { grows := ⟨⟨[], (List.append_nil _).symm⟩, rfl, fun row isMem =>
            ⟨row, List.mem_append_left _ isMem, rfl, rfl, rfl, rfl⟩⟩
          stored := List.mem_append_right _ List.mem_cons_self
          isRow := ⟨rfl, rfl, rfl⟩
          others := fun other otherMem _ => List.mem_append_left _ otherMem
          known := by
            intro found
            rw [isRow] at found
            cases found }

namespace IdentityResolutionService

variable (service : IdentityResolutionService)

theorem canonicalRecord_grows {db after : SecurityDatabase} {method : String} {found : Match}
    (recorded : service.canonicalRecord db method found = some after) :
    Grows db after ∧ after.unresolved = db.unresolved := by
  cases found with
  | stored resolved =>
      cases recorded
      exact ⟨.refl db, rfl⟩
  | answered resolved =>
      rw [canonicalRecord] at recorded
      split at recorded
      · rw [upsertCanonicalSecurity] at recorded
        split at recorded
        · cases recorded
          exact ⟨.refl db, rfl⟩
        · split at recorded
          · cases recorded
          · cases recorded
            exact ⟨⟨⟨_, rfl⟩, rfl, (Grows.refl db).kept⟩, rfl⟩
      · cases recorded
        exact ⟨.refl db, rfl⟩

/-- What a step does with an instrument that is resolved. -/
structure Resolved (uow : UnitOfWork) (method : String) (found : Match)
    (after : UnitOfWork) : Prop where
  recorded : service.canonicalRecord uow.db method found = some after.db
  exists_row : ∃ row ∈ after.db.securities.rows, row.id = found.security.securityId
  logged : ∃ entry, entry.targetSecurityId = found.security.securityId ∧
    after.resolutionAuditLog = uow.resolutionAuditLog ++ [entry]

theorem security_isSome_iff {db : SecurityDatabase} {id : Uuid} :
    (db.security id).isSome ↔ ∃ row ∈ db.securities.rows, row.id = id := by
  rw [SecurityDatabase.security, List.find?_isSome]
  simp only [decide_eq_true_eq]

/-- A step resolves an instrument or queues it. -/
theorem processInstrument_cases {uow after : UnitOfWork} {cleansed : Instrument}
    {outcome : Outcome}
    (processed : service.processInstrument uow cleansed = some (after, outcome)) :
    (∃ method found, service.resolve uow.db cleansed = some (method, found) ∧
      outcome = .resolved method found ∧ service.Resolved uow method found after) ∨
    (∃ row, service.resolve uow.db cleansed = none ∧ outcome = .queued row ∧
      Enqueued service.provider cleansed uow.db after.db row ∧
      after.resolutionAuditLog = uow.resolutionAuditLog) := by
  rw [processInstrument] at processed
  cases isFound : service.resolve uow.db cleansed with
  | none =>
      rw [isFound] at processed
      cases processed
      exact .inr ⟨_, rfl, rfl, enqueued service.provider uow.db cleansed, rfl⟩
  | some result =>
      obtain ⟨method, found⟩ := result
      rw [isFound] at processed
      obtain ⟨db, recorded, processed⟩ := Option.bind_eq_some_iff.mp processed
      obtain ⟨logged, isLogged, processed⟩ := Option.bind_eq_some_iff.mp processed
      cases processed
      rw [audit] at isLogged
      split at isLogged
      · next exists_row =>
          cases isLogged
          exact .inl ⟨method, found, rfl, rfl, recorded, security_isSome_iff.mp exists_row,
            _, rfl, rfl⟩
      · cases isLogged

theorem processInstrument_grows {uow after : UnitOfWork} {cleansed : Instrument}
    {outcome : Outcome}
    (processed : service.processInstrument uow cleansed = some (after, outcome)) :
    Grows uow.db after.db := by
  obtain ⟨method, found, _, _, resolved⟩ | ⟨row, _, _, enqueued, _⟩ :=
    service.processInstrument_cases processed
  · exact (service.canonicalRecord_grows resolved.recorded).1
  · exact enqueued.grows

/-- A run that is not over takes a step and goes on. -/
theorem processIncomingSecurities_cons {uow after : UnitOfWork} {instrument : Instrument}
    {rest : List Instrument} {processed : List Processed}
    (run : service.processIncomingSecurities uow (instrument :: rest) = some (after, processed)) :
    ∃ next outcome others,
      service.processInstrument uow (applyAllCleansing service.casing instrument) =
        some (next, outcome) ∧
      service.processIncomingSecurities next rest = some (after, others) ∧
      processed = ⟨applyAllCleansing service.casing instrument, outcome⟩ :: others := by
  rw [processIncomingSecurities] at run
  obtain ⟨⟨next, outcome⟩, step, run⟩ := Option.bind_eq_some_iff.mp run
  obtain ⟨⟨last, others⟩, steps, run⟩ := Option.bind_eq_some_iff.mp run
  cases run
  exact ⟨next, outcome, others, step, steps, rfl⟩

/-! ### Runs -/

theorem run_grows {instruments : List Instrument} :
    ∀ {uow after : UnitOfWork} {processed : List Processed},
      service.processIncomingSecurities uow instruments = some (after, processed) →
      Grows uow.db after.db := by
  induction instruments with
  | nil =>
      intro uow after processed run
      cases run
      exact .refl uow.db
  | cons instrument rest ih =>
      intro uow after processed run
      obtain ⟨next, outcome, others, step, steps, _⟩ := service.processIncomingSecurities_cons run
      exact (service.processInstrument_grows step).trans (ih steps)

theorem run_every {instruments : List Instrument} :
    ∀ {uow after : UnitOfWork} {processed : List Processed},
      service.processIncomingSecurities uow instruments = some (after, processed) →
      processed.map Processed.cleansed = instruments.map (applyAllCleansing service.casing) := by
  induction instruments with
  | nil =>
      intro uow after processed run
      cases run
      rfl
  | cons instrument rest ih =>
      intro uow after processed run
      obtain ⟨next, outcome, others, _, steps, rfl⟩ := service.processIncomingSecurities_cons run
      rw [List.map_cons, List.map_cons, ih steps]

/-- An entry of a run targets a security that exists in the end. -/
theorem run_audited {instruments : List Instrument} :
    ∀ {uow after : UnitOfWork} {processed : List Processed},
      service.processIncomingSecurities uow instruments = some (after, processed) →
      ∀ entry ∈ after.resolutionAuditLog, entry ∈ uow.resolutionAuditLog ∨
        ∃ row ∈ after.db.securities.rows, row.id = entry.targetSecurityId := by
  induction instruments with
  | nil =>
      intro uow after processed run entry isMem
      cases run
      exact .inl isMem
  | cons instrument rest ih =>
      intro uow after processed run entry isMem
      obtain ⟨next, outcome, others, step, steps, _⟩ := service.processIncomingSecurities_cons run
      obtain old | exists_row := ih steps entry isMem
      · obtain ⟨method, found, _, _, resolved⟩ | ⟨row, _, _, _, sameLog⟩ :=
          service.processInstrument_cases step
        · obtain ⟨added, target, log⟩ := resolved.logged
          rw [log, List.mem_append, List.mem_singleton] at old
          apply old.imp_right
          intro isAdded
          obtain ⟨row, rowMem, rowId⟩ := resolved.exists_row
          obtain ⟨more, rows⟩ := (service.run_grows steps).securities
          rw [rows, isAdded]
          exact ⟨row, List.mem_append_left _ rowMem, rowId.trans target.symm⟩
        · rw [sameLog] at old
          exact .inl old
      · exact .inr exists_row

/-- What is left over has a row in the end, of the identifier that the queue gives it. -/
theorem run_stored {instruments : List Instrument} :
    ∀ {uow after : UnitOfWork} {processed : List Processed},
      service.processIncomingSecurities uow instruments = some (after, processed) →
      ∀ each ∈ processed, ∀ row, each.outcome = .queued row →
        row.externalSecurityId = queueId each.cleansed ∧
        ∃ stored ∈ after.db.unresolved.rows, stored.id = row.id ∧
          IsRowOf service.provider (queueId each.cleansed) stored := by
  induction instruments with
  | nil =>
      intro uow after processed run each isMem
      cases run
      cases isMem
  | cons instrument rest ih =>
      intro uow after processed run each isMem row isQueued
      obtain ⟨next, outcome, others, step, steps, rfl⟩ :=
        service.processIncomingSecurities_cons run
      obtain rfl | old := List.mem_cons.mp isMem
      · obtain ⟨method, found, _, isResolved, _⟩ | ⟨added, _, isAdded, enqueued, _⟩ :=
          service.processInstrument_cases step
        · cases isQueued.symm.trans isResolved
        · cases isQueued.symm.trans isAdded
          obtain ⟨stored, storedMem, id, tenant, provider, externalId⟩ :=
            (service.run_grows steps).kept row enqueued.stored
          obtain ⟨isTenant, isProvider, isExternalId⟩ := enqueued.isRow
          exact ⟨isExternalId, stored, storedMem, id, tenant.trans isTenant,
            provider.trans isProvider, externalId.trans isExternalId⟩
      · exact ih steps each old row isQueued

/-- A run leaves alone the rows of other identifiers. -/
theorem run_untouched {instruments : List Instrument} :
    ∀ {uow after : UnitOfWork} {processed : List Processed},
      service.processIncomingSecurities uow instruments = some (after, processed) →
      ∀ row ∈ uow.db.unresolved.rows,
        (∀ each ∈ processed, ∀ added, each.outcome = .queued added →
          ¬ IsRowOf service.provider (queueId each.cleansed) row) →
        row ∈ after.db.unresolved.rows := by
  induction instruments with
  | nil =>
      intro uow after processed run row isMem _
      cases run
      exact isMem
  | cons instrument rest ih =>
      intro uow after processed run row isMem other
      obtain ⟨next, outcome, others, step, steps, rfl⟩ :=
        service.processIncomingSecurities_cons run
      refine ih steps row ?_ fun each eachMem =>
        other each (List.mem_cons_of_mem _ eachMem)
      obtain ⟨method, found, _, _, resolved⟩ | ⟨added, _, isAdded, enqueued, _⟩ :=
        service.processInstrument_cases step
      · rwa [(service.canonicalRecord_grows resolved.recorded).2]
      · exact enqueued.others row isMem (other _ List.mem_cons_self added isAdded)

/-- An instrument is resolved or has a row in the queue. -/
def Settled (db : SecurityDatabase) (cleansed : Instrument) : Prop :=
  (service.resolve db cleansed).isSome ∨
    (db.rowOf service.provider (queueId cleansed)).isSome

theorem Settled.grows {service : IdentityResolutionService} {before after : SecurityDatabase}
    {cleansed : Instrument} (settled : service.Settled before cleansed)
    (grows : Grows before after) : service.Settled after cleansed :=
  settled.imp (resolveInstrument_isSome service.gateway service.casing grows cleansed)
    (grows.rowOf_isSome service.provider (queueId cleansed))

theorem processInstrument_settled {uow after : UnitOfWork} {cleansed : Instrument}
    {outcome : Outcome}
    (processed : service.processInstrument uow cleansed = some (after, outcome)) :
    service.Settled after.db cleansed := by
  have grows := service.processInstrument_grows processed
  obtain ⟨method, found, isFound, _, _⟩ | ⟨row, _, _, enqueued, _⟩ :=
    service.processInstrument_cases processed
  · refine Settled.grows (.inl ?_) grows
    rw [isFound]
    rfl
  · refine .inr (List.find?_isSome.mpr ⟨row, enqueued.stored, ?_⟩)
    obtain ⟨tenant, provider, externalId⟩ := enqueued.isRow
    simp only [tenant, provider, externalId, decide_true, Bool.and_self]

theorem run_settled {instruments : List Instrument} :
    ∀ {uow after : UnitOfWork} {processed : List Processed},
      service.processIncomingSecurities uow instruments = some (after, processed) →
      ∀ instrument ∈ instruments,
        service.Settled after.db (applyAllCleansing service.casing instrument) := by
  induction instruments with
  | nil =>
      intro uow after processed _ instrument isMem
      cases isMem
  | cons first rest ih =>
      intro uow after processed run instrument isMem
      obtain ⟨next, outcome, others, step, steps, _⟩ := service.processIncomingSecurities_cons run
      obtain rfl | old := List.mem_cons.mp isMem
      · exact (service.processInstrument_settled step).grows (service.run_grows steps)
      · exact ih steps instrument old

/-- A run over settled instruments adds no row. -/
theorem run_sameRows {instruments : List Instrument} :
    ∀ {uow after : UnitOfWork} {processed : List Processed},
      service.processIncomingSecurities uow instruments = some (after, processed) →
      (∀ instrument ∈ instruments,
        service.Settled uow.db (applyAllCleansing service.casing instrument)) →
      after.db.unresolved.rows.map (·.id) = uow.db.unresolved.rows.map (·.id) := by
  induction instruments with
  | nil =>
      intro uow after processed run _
      cases run
      rfl
  | cons instrument rest ih =>
      intro uow after processed run settled
      obtain ⟨next, outcome, others, step, steps, _⟩ := service.processIncomingSecurities_cons run
      have grows := service.processInstrument_grows step
      refine (ih steps fun other otherMem =>
        (settled other (List.mem_cons_of_mem _ otherMem)).grows grows).trans ?_
      obtain ⟨method, found, _, _, resolved⟩ | ⟨row, isNone, _, enqueued, _⟩ :=
        service.processInstrument_cases step
      · rw [(service.canonicalRecord_grows resolved.recorded).2]
      · apply enqueued.known
        obtain isSome | isSome := settled instrument List.mem_cons_self
        · rw [isNone] at isSome
          cases isSome
        · exact isSome

end IdentityResolutionService

/-! ## Matches in the database -/

/-- A match by a row of the database is that of a row. -/
def Match.In (db : SecurityDatabase) : Match → Prop
  | .stored resolved => ∃ row ∈ db.securities.rows, row.id = resolved.securityId
  | .answered _ => True

section Stored

variable (gateway : EnrichmentGateway) {db : SecurityDatabase}

theorem in_of_find? {wanted : Security → Bool} {row : Security}
    (found : db.securities.rows.find? wanted = some row) (ticker : Option String)
    (confidence source : String) :
    (Match.stored (resolvedRow row ticker confidence source)).In db :=
  ⟨row, List.mem_of_find?_eq_some found, rfl⟩

theorem in_of_gateway {identifier identifierType : String} {found : Match}
    (isFound : resolveViaGateway gateway identifier identifierType = some found) :
    found.In db := by
  obtain ⟨resolved, _, rfl⟩ := Option.map_eq_some_iff.mp isFound
  trivial

theorem resolveByIsin_in {isin : String} {found : Match}
    (isFound : resolveByIsin gateway db isin = some found) : found.In db := by
  obtain isFound | ⟨_, isFound⟩ := Option.or_eq_some_iff.mp isFound
  · simp only [findLocalByIsin, Option.map_map, Option.map_eq_some_iff] at isFound
    obtain ⟨row, isRow, rfl⟩ := isFound
    exact in_of_find? isRow _ _ _
  · exact in_of_gateway gateway isFound

theorem resolveByFigi_in {figi : String} {found : Match}
    (isFound : resolveByFigi gateway db figi = some found) : found.In db := by
  obtain isFound | ⟨_, isFound⟩ := Option.or_eq_some_iff.mp isFound
  · simp only [findLocalByFigi, Option.map_map, Option.map_eq_some_iff] at isFound
    obtain ⟨row, isRow, rfl⟩ := isFound
    exact in_of_find? isRow _ _ _
  · exact in_of_gateway gateway isFound

theorem resolveByTicker_in {ticker : String} {found : Match}
    (isFound : resolveByTicker gateway db ticker = some found) : found.In db := by
  obtain isFound | ⟨_, isFound⟩ := Option.or_eq_some_iff.mp isFound
  · simp only [findLocalByTicker, Option.map_map, Option.map_eq_some_iff] at isFound
    obtain ⟨row, isRow, rfl⟩ := isFound
    exact in_of_find? isRow _ _ _
  · exact in_of_gateway gateway isFound

theorem findByListing_in {ticker : String} {listing : Sync.SecurityListing} {row : Security}
    (isFound : findByListing db ticker = some (listing, row)) (shown : Option String)
    (confidence source : String) :
    (Match.stored (resolvedRow row shown confidence source)).In db := by
  obtain ⟨_, _, isFound⟩ := Option.bind_eq_some_iff.mp isFound
  obtain ⟨_, isRow, same⟩ := Option.map_eq_some_iff.mp isFound
  cases same
  exact in_of_find? isRow _ _ _

theorem stage1ExactIsin_in {casing : Casing} {cleansed : Instrument} {found : Match}
    (isFound : stage1ExactIsin gateway db casing cleansed = some found) : found.In db := by
  obtain ⟨isin, _, isFound⟩ := Option.bind_eq_some_iff.mp isFound
  obtain isFound | ⟨_, isFound⟩ := Option.or_eq_some_iff.mp isFound
  · exact resolveByIsin_in gateway isFound
  · obtain ⟨⟨listing, row⟩, isListed, rfl⟩ := Option.map_eq_some_iff.mp isFound
    exact findByListing_in isListed _ _ _

theorem stage2FigiTicker_in {cleansed : Instrument} {found : Match}
    (isFound : stage2FigiTicker gateway db cleansed = some found) : found.In db := by
  obtain isFound | ⟨_, isFound⟩ := Option.or_eq_some_iff.mp isFound
  · obtain ⟨figi, _, isFound⟩ := Option.bind_eq_some_iff.mp isFound
    exact resolveByFigi_in gateway isFound
  · obtain ⟨ticker, _, isFound⟩ := Option.bind_eq_some_iff.mp isFound
    obtain isFound | ⟨_, isFound⟩ := Option.or_eq_some_iff.mp isFound
    · exact resolveByTicker_in gateway isFound
    · obtain isFound | ⟨_, isFound⟩ := Option.or_eq_some_iff.mp isFound
      · obtain ⟨⟨listing, row⟩, isListed, rfl⟩ := Option.map_eq_some_iff.mp isFound
        exact findByListing_in isListed _ _ _
      · split at isFound
        · cases isFound
        · exact resolveByTicker_in gateway isFound

/-- The security of a best score is one of those scored. -/
theorem mem_of_foldl_scoreSecurity (casing : Casing) (name : String) (rows : List Security) :
    ∀ best : Best, ∀ row, (rows.foldl (scoreSecurity casing name) best).2 = some row →
      best.2 = some row ∨ row ∈ rows := by
  induction rows with
  | nil => exact fun _ _ isBest => .inl isBest
  | cons scored rest ih =>
      intro best row isBest
      obtain isBest | isMem := ih _ row isBest
      · have better (current : Best) (score : ℚ)
            (isBest : (if current.1 < score then (score, some scored) else current).2 =
              some row) : current.2 = some row ∨ row ∈ scored :: rest := by
          split at isBest
          · cases isBest
            exact .inr List.mem_cons_self
          · exact .inl isBest
        rw [scoreSecurity] at isBest
        simp only at isBest
        split at isBest
        · obtain isBest | isMem := better _ _ isBest
          · exact better _ _ isBest
          · exact .inr isMem
        · exact better _ _ isBest
      · exact .inr (List.mem_cons_of_mem _ isMem)

theorem stage3FuzzyName_in {casing : Casing} {cleansed : Instrument} {found : Match}
    (isFound : stage3FuzzyName gateway db casing cleansed = some found) : found.In db := by
  obtain ⟨rawName, _, isFound⟩ := Option.bind_eq_some_iff.mp isFound
  split at isFound
  · cases isFound
  · simp only at isFound
    split at isFound
    · next row isBest =>
        cases isFound
        obtain isNone | isMem := mem_of_foldl_scoreSecurity casing _ _ _ row
          (Option.filter_eq_some_iff.mp isBest).1
        · cases isNone
        · exact ⟨row, isMem, rfl⟩
    · split at isFound
      · cases isFound
      · exact in_of_gateway gateway isFound

/-- What the pipeline finds in the database is there. -/
theorem resolveInstrument_in {casing : Casing} {cleansed : Instrument} {method : String}
    {found : Match}
    (isFound : resolveInstrument gateway db casing cleansed = some (method, found)) :
    found.In db := by
  obtain isFound | ⟨_, isFound⟩ := Option.or_eq_some_iff.mp isFound
  · obtain ⟨_, isFound, same⟩ := Option.map_eq_some_iff.mp isFound
    cases same
    exact stage1ExactIsin_in gateway isFound
  · obtain isFound | ⟨_, isFound⟩ := Option.or_eq_some_iff.mp isFound
    · obtain ⟨_, isFound, same⟩ := Option.map_eq_some_iff.mp isFound
      cases same
      exact stage2FigiTicker_in gateway isFound
    · obtain ⟨_, isFound, same⟩ := Option.map_eq_some_iff.mp isFound
      cases same
      exact stage3FuzzyName_in gateway isFound

/-- An ISIN that is in the database decides. -/
theorem resolveInstrument_of_local {casing : Casing} {cleansed : Instrument} {isin : String}
    {resolved : ResolvedSecurity} (carried : carriedIsin casing cleansed = some isin)
    (isLocal : findLocalByIsin db isin = some resolved) :
    resolveInstrument gateway db casing cleansed = some ("auto_isin", .stored resolved) ∧
      resolved.isin = some isin := by
  constructor
  · simp only [resolveInstrument, stage1ExactIsin, carried, Option.bind_some, resolveByIsin,
      isLocal, Option.map_some, Option.some_or]
  · obtain ⟨row, isRow, rfl⟩ := Option.map_eq_some_iff.mp isLocal
    have sameIsin := List.find?_some isRow
    rwa [decide_eq_true_eq] at sameIsin

end Stored

/-! ## When instruments are kept apart -/

theorem externalIdOf_ne_null (cleansed : Instrument) : externalIdOf cleansed ≠ .null := by
  have null : truthy .null = false := rfl
  intro isNull
  rw [externalIdOf] at isNull
  split at isNull
  · next isTrue => simp only [isNull, null, Bool.false_eq_true] at isTrue
  · split at isNull
    · next isTrue => simp only [isNull, null, Bool.false_eq_true] at isTrue
    · split at isNull
      · next isTrue => simp only [isNull, null, Bool.false_eq_true] at isTrue
      · cases isNull

theorem queueId_eq_ownId_iff (cleansed : Instrument) :
    queueId cleansed = ownId cleansed ↔ IdentityResolutionService.SurvivesQueue cleansed := by
  rw [queueId, ownId, IdentityResolutionService.SurvivesQueue]
  cases isId : externalIdOf cleansed with
  | null => exact absurd isId (externalIdOf_ne_null cleansed)
  | string text => simp [Json.str, eq_comm]
  | bool value => simp
  | number text => simp
  | array items => simp
  | object fields => simp

namespace IdentityResolutionService

variable (service : IdentityResolutionService)

theorem usable_iff {db : SecurityDatabase} {method : String} {resolved : ResolvedSecurity} :
    (∃ after, service.canonicalRecord db method (.answered resolved) = some after ∧
      ∃ row ∈ after.securities.rows, row.id = resolved.securityId) ↔
    Usable db method resolved := by
  have unknown : db.securities.rows.any (·.isin = resolved.isin) = false ↔
      ∀ row ∈ db.securities.rows, row.isin ≠ resolved.isin := by
    simp
  rw [canonicalRecord, Usable]
  by_cases fuzzy : method = "fuzzy_name"
  · rw [if_pos fuzzy, upsertCanonicalSecurity]
    cases known : db.securities.rows.any (·.isin = resolved.isin) with
    | true =>
        have known : ¬ ∀ row ∈ db.securities.rows, row.isin ≠ resolved.isin := by
          rw [← unknown, known]
          exact Bool.true_eq_false_eq_False.elim
        simp only [if_true, fuzzy, true_and, if_neg known, Option.some.injEq, exists_eq_left']
    | false =>
        have taken : (resolved.figi.isSome ∧
              (db.securities.rows.any (·.figi = resolved.figi)) = true) ↔
            ¬ ∀ figi ∈ resolved.figi, ∀ row ∈ db.securities.rows, row.figi ≠ some figi := by
          cases resolved.figi with
          | none => simp
          | some figi => simp
        simp only [Bool.false_eq_true, if_false, fuzzy, true_and, if_pos (unknown.mp known), taken]
        split
        · next isTaken =>
            constructor
            · rintro ⟨_, refused, _⟩
              cases refused
            · rintro ⟨free, _⟩
              exact absurd free isTaken
        · next free =>
            rw [and_iff_right (not_not.mp free)]
            simp [canonicalSecurity, or_and_right, exists_or, eq_comm, or_comm]
  · rw [if_neg fuzzy]
    simp [fuzzy]

/-- A step finishes exactly where the record of its match is stored and exists. -/
theorem processInstrument_resolved {uow : UnitOfWork} {cleansed : Instrument} {method : String}
    {found : Match} (isFound : service.resolve uow.db cleansed = some (method, found))
    (outcome : Outcome) :
    (∃ after, service.processInstrument uow cleansed = some (after, outcome)) ↔
      outcome = .resolved method found ∧
      ∃ db, service.canonicalRecord uow.db method found = some db ∧
        ∃ row ∈ db.securities.rows, row.id = found.security.securityId := by
  constructor
  · rintro ⟨after, processed⟩
    obtain ⟨_, _, again, isResolved, resolved⟩ | ⟨_, isNone, _⟩ :=
      service.processInstrument_cases processed
    · cases isFound.symm.trans again
      exact ⟨isResolved, after.db, resolved.recorded, resolved.exists_row⟩
    · cases isFound.symm.trans isNone
  · rintro ⟨isResolved, db, recorded, exists_row⟩
    rw [processInstrument, isFound, isResolved]
    exact ⟨_, Option.bind_eq_some_iff.mpr ⟨db, recorded, Option.bind_eq_some_iff.mpr
      ⟨_, if_pos (security_isSome_iff.mpr exists_row), rfl⟩⟩⟩

/-- One step finishes and does not confuse its instrument exactly under its condition. -/
theorem own_iff (uow : UnitOfWork) (cleansed : Instrument) :
    (∃ after outcome, service.processInstrument uow cleansed = some (after, outcome) ∧
      (Processed.mk cleansed outcome).Own service.casing) ↔
    service.Admits uow.db cleansed := by
  rw [Admits]
  cases isFound : service.resolve uow.db cleansed with
  | none =>
      have isRow := (enqueued service.provider uow.db cleansed).isRow.2.2
      simp only [processInstrument, isFound, Option.some.injEq, Prod.mk.injEq,
        Processed.Own, ← queueId_eq_ownId_iff]
      constructor
      · rintro ⟨_, _, ⟨_, rfl⟩, own⟩
        exact isRow.symm.trans own
      · intro same
        exact ⟨_, _, ⟨rfl, rfl⟩, isRow.trans same⟩
  | some result =>
      obtain ⟨method, found⟩ := result
      have finishes := service.processInstrument_resolved isFound
      have own : (∃ after outcome, service.processInstrument uow cleansed = some (after, outcome) ∧
            (Processed.mk cleansed outcome).Own service.casing) ↔
          (∀ isin ∈ ownIsin service.casing cleansed,
            ∀ other ∈ found.security.isin, other = isin) ∧
          ∃ db, service.canonicalRecord uow.db method found = some db ∧
            ∃ row ∈ db.securities.rows, row.id = found.security.securityId := by
        constructor
        · intro ⟨after, outcome, processed, own⟩
          obtain ⟨isResolved, exists_row⟩ := (finishes outcome).mp ⟨after, processed⟩
          rw [isResolved] at own
          exact ⟨own, exists_row⟩
        · intro ⟨own, exists_row⟩
          obtain ⟨after, processed⟩ := (finishes _).mpr ⟨rfl, exists_row⟩
          exact ⟨after, _, processed, own⟩
      rw [own]
      apply and_congr
      · apply forall₂_congr
        intro isin isOwn
        cases isLocal : findLocalByIsin uow.db isin with
        | none => simp only [forall_const]
        | some resolved =>
            obtain ⟨decided, sameIsin⟩ := resolveInstrument_of_local service.gateway
              (Option.filter_eq_some_iff.mp isOwn).1 isLocal
            cases isFound.symm.trans decided
            simp only [reduceCtorEq, false_implies, iff_true]
            intro other isOther
            exact Option.some.inj (isOther.symm.trans sameIsin)
      · cases found with
        | stored resolved =>
            obtain ⟨row, rowMem, rowId⟩ := resolveInstrument_in service.gateway isFound
            simp only [reduceCtorEq, false_implies, implies_true, iff_true]
            exact ⟨uow.db, rfl, row, rowMem, rowId⟩
        | answered resolved =>
            simp only [Match.answered.injEq, forall_eq']
            exact service.usable_iff

/-- A run finishes and confuses no instrument exactly under the conditions on all of them. -/
theorem admitsAll_iff (instruments : List Instrument) :
    ∀ uow : UnitOfWork,
      (∃ after processed,
        service.processIncomingSecurities uow instruments = some (after, processed) ∧
          ∀ each ∈ processed, each.Own service.casing) ↔
      service.AdmitsAll uow instruments := by
  induction instruments with
  | nil =>
      intro uow
      simp only [AdmitsAll, iff_true]
      exact ⟨uow, [], rfl, by simp⟩
  | cons instrument rest ih =>
      intro uow
      rw [AdmitsAll, ← own_iff]
      constructor
      · intro ⟨after, processed, run, own⟩
        obtain ⟨next, outcome, others, step, steps, rfl⟩ :=
          service.processIncomingSecurities_cons run
        refine ⟨⟨next, outcome, step, own _ List.mem_cons_self⟩, ?_⟩
        intro other last same
        cases step.symm.trans same
        exact (ih next).mp
          ⟨after, others, steps, fun each eachMem => own each (List.mem_cons_of_mem _ eachMem)⟩
      · intro ⟨⟨next, outcome, step, first⟩, admits⟩
        obtain ⟨after, others, steps, own⟩ :=
          (ih next).mpr (admits next outcome step)
        refine ⟨after, ⟨_, outcome⟩ :: others, ?_, List.forall_mem_cons.mpr ⟨first, own⟩⟩
        rw [processIncomingSecurities]
        exact Option.bind_eq_some_iff.mpr ⟨_, step, Option.bind_eq_some_iff.mpr ⟨_, steps, rfl⟩⟩

/-- A run that confuses no instrument keeps them apart. -/
theorem apart_of_own {uow after : UnitOfWork} {instruments : List Instrument}
    {processed : List Processed}
    (run : service.processIncomingSecurities uow instruments = some (after, processed))
    (own : ∀ each ∈ processed, each.Own service.casing) :
    service.Apart uow instruments after processed := by
  have queued (each : Processed) (eachMem : each ∈ processed) (row : UnresolvedSecurity)
      (isQueued : each.outcome = .queued row) : queueId each.cleansed = ownId each.cleansed := by
    have isOwn := own each eachMem
    rw [Processed.Own, isQueued] at isOwn
    exact (service.run_stored run each eachMem row isQueued).1.symm.trans isOwn
  have stored (each : Processed) (eachMem : each ∈ processed) (row : UnresolvedSecurity)
      (isQueued : each.outcome = .queued row) :
      ∃ stored ∈ after.db.unresolved.rows, stored.id = row.id ∧
        IsRowOf service.provider (ownId each.cleansed) stored := by
    rw [← queued each eachMem row isQueued]
    exact (service.run_stored run each eachMem row isQueued).2
  exact
    { every := service.run_every run
      own := own
      stored := stored
      distinct := by
        intro first firstMem second secondMem row other isRow isOther ne same
        obtain ⟨one, oneMem, oneId, _, _, oneIs⟩ := stored first firstMem row isRow
        obtain ⟨two, twoMem, twoId, _, _, twoIs⟩ := stored second secondMem other isOther
        have sameRow : one = two := after.db.unresolved.eq_of_key_eq oneMem twoMem
          (oneId.trans (same.trans twoId.symm))
        rw [← sameRow] at twoIs
        exact ne (oneIs.symm.trans twoIs)
      untouched := by
        intro row rowMem foreign
        refine service.run_untouched run row rowMem fun each eachMem added isQueued => ?_
        rw [queued each eachMem added isQueued]
        exact foreign each eachMem
      again := fun last reprocessed rerun =>
        service.run_sameRows rerun (service.run_settled run)
      audited := service.run_audited run }

end IdentityResolutionService

/-! ## Two instruments in one row -/

/-- A service without answers for an empty database. -/
def silentService : IdentityResolutionService where
  gateway := { resolveSecurity := fun _ _ => none }
  casing := ⟨id, id⟩
  provider := ⟨1, "bunq"⟩
  resolverPrincipal := "system"

def emptyUnitOfWork : UnitOfWork := ⟨⟨.empty, .empty, []⟩, []⟩

end FinanceSync.Identity
