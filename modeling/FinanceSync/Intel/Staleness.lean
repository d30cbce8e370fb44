import FinanceSync.Intel.Ingestion
import FinanceSync.Intel.RetryAfter

/-!
# Staleness

The flag of stale observations over the runs of providers, beside what each source really
served and when.  A failed run flags the rows that were fetched long ago and any other one
clears the flags of all rows of the provider, whatever the source served.
-/

namespace FinanceSync.Intel

/-! ## Flags -/

/-- `mark_stale` -/
def MarketIntelligenceItem.markStale (providerKey : String) (olderThan : Instant)
    (row : MarketIntelligenceItem) : MarketIntelligenceItem :=
  if row.provider = providerKey ∧ ¬ row.isStale ∧ row.fetchedAt < olderThan then
    { row with isStale := true, staleAfter := some olderThan }
  else row

/-- `clear_stale` -/
def MarketIntelligenceItem.clearStale (providerKey : String) (row : MarketIntelligenceItem) :
    MarketIntelligenceItem :=
  if row.provider = providerKey ∧ row.isStale then
    { row with isStale := false, staleAfter := none }
  else row

/-! ## Runs -/

/-- A page of items and the time since the page before it. -/
structure Page where
  wait : Nat
  items : List IntelItem

/-- The fetches of a run. -/
structure Fetches where
  pages : List Page
  /-- The time from the last page to the end of the run. -/
  ending : Nat
  /-- The number of capabilities that failed; `none` where the run is interrupted. -/
  failures : Option Nat
  capabilities : Nat

/-- A run of a provider that is recorded. -/
structure ProviderRun where
  providerKey : String
  maxAge : Nat
  /-- The time since the run before it. -/
  wait : Nat
  /-- `none` where there are no capabilities. -/
  fetches : Option Fetches

/-- The source of an item: a provider and its id for the item. -/
abbrev Source := String × String

/-- When each source last served its item. -/
abbrev Served := Source → Option Instant

/-- The later of two records. -/
def Served.after (later earlier : Served) : Served := fun source => later source <|> earlier source

/-- An item as the adapter of a provider fetches it. -/
def IntelItem.fetchedBy (item : IntelItem) (providerKey : String) (fetchedAt : Instant) :
    IntelItem :=
  { item with provider := providerKey, fetchedAt }

/-- What a page of items records. -/
def servedBy (providerKey : String) (time : Instant) (items : List IntelItem) : Served :=
  fun source =>
    if source.1 = providerKey ∧
        items.any fun item => (applyLicensingPolicy item).isSome && item.sourceId = source.2 then
      some time
    else none

/-- The store within a run, the clock, and what the run was served. -/
structure Progress where
  store : Store
  clock : Instant
  served : Served
  /-- A page could not be stored, so the run is interrupted. -/
  aborted : Bool := false

/-- A page is fetched and ingested. -/
def Progress.page (resolver : SecurityResolver) (providerKey : String) (progress : Progress)
    (page : Page) : Progress :=
  if progress.aborted then progress
  else
    let time := progress.clock + page.wait
    let items := page.items.map fun item => item.fetchedBy providerKey time
    let served := (servedBy providerKey time items).after progress.served
    match progress.store.ingestItems resolver providerKey true items with
    | some (store, _) => ⟨store, time, served, false⟩
    | none => ⟨progress.store, time, served, true⟩

/-- The store and the clock, what each source last served, and what it last served in a run
that was `ok`. -/
structure Observations where
  store : Store
  clock : Instant
  served : Served
  confirmed : Served

/-- No source served anything yet. -/
def Observations.start (clock : Instant) : Observations :=
  ⟨Store.empty, clock, fun _ => none, fun _ => none⟩

/-- How a run with fetches ends. -/
def Fetches.status (fetches : Fetches) (progress : Progress) : RunStatus :=
  statusOf fetches.capabilities (if progress.aborted then none else fetches.failures)

/-- The pages of a run. -/
def Observations.progress (resolver : SecurityResolver) (observations : Observations)
    (run : ProviderRun) (fetches : Fetches) : Progress :=
  fetches.pages.foldl (Progress.page resolver run.providerKey)
    ⟨observations.store, observations.clock + run.wait, fun _ => none, false⟩

/-- The end of a run: the rows before the flags are refreshed, the status and whether the
flags are refreshed at all, the clock, and what was served. -/
structure Closing where
  store : Store
  status : RunStatus
  refreshes : Bool
  clock : Instant
  served : Served

/-- A run up to the refresh of the flags. -/
def Observations.close (resolver : SecurityResolver) (observations : Observations)
    (run : ProviderRun) : Closing :=
  match run.fetches with
  | none =>
      ⟨observations.store, .unavailable, false, observations.clock + run.wait, fun _ => none⟩
  | some fetches =>
      let progress := observations.progress resolver run fetches
      ⟨progress.store, fetches.status progress, true, progress.clock + fetches.ending,
        progress.served⟩

/-- `_refresh_stale_flags` on a row. -/
def Closing.refresh (closing : Closing) (run : ProviderRun) (row : MarketIntelligenceItem) :
    MarketIntelligenceItem :=
  if closing.refreshes then
    match closing.status with
    | .unavailable => row.markStale run.providerKey (closing.clock - run.maxAge)
    | _ => row.clearStale run.providerKey
  else row

theorem Closing.refresh_id (closing : Closing) (run : ProviderRun)
    (row : MarketIntelligenceItem) : (closing.refresh run row).id = row.id := by
  rw [refresh]
  split
  · split
    · rw [MarketIntelligenceItem.markStale]
      split <;> rfl
    · rw [MarketIntelligenceItem.clearStale]
      split <;> rfl
  · rfl

/-- A whole run. -/
def Observations.run (resolver : SecurityResolver) (observations : Observations)
    (run : ProviderRun) : Observations :=
  let closing := observations.close resolver run
  { store := { closing.store with
      items := closing.store.items.update (closing.refresh run) (closing.refresh_id run) }
    clock := closing.clock
    served := closing.served.after observations.served
    confirmed :=
      if closing.status = .ok then closing.served.after observations.confirmed
      else observations.confirmed }

/-! ## What is to hold -/

/-- The source of a row. -/
def MarketIntelligenceItem.source (row : MarketIntelligenceItem) : Source :=
  (row.provider, row.sourceId)

/-- A source served its item since an instant. -/
def Served.Since (served : Served) (source : Source) (instant : Instant) : Prop :=
  ∃ time ∈ served source, instant ≤ time

instance (served : Served) (source : Source) (instant : Instant) :
    Decidable (served.Since source instant) :=
  inferInstanceAs (Decidable (∃ _ ∈ _, _))

/-- After a run, a row of its provider that is not flagged was served within the age, and a
row that is newly flagged was last served in an earlier run that was `ok` at least the age
before. -/
structure Observations.Truthful (resolver : SecurityResolver) (observations : Observations)
    (run : ProviderRun) : Prop where
  fresh : ∀ row ∈ (observations.run resolver run).store.items.rows,
    row.provider = run.providerKey → ¬ row.isStale →
      (observations.run resolver run).served.Since row.source
        ((observations.run resolver run).clock - run.maxAge)
  confirmed : ∀ row ∈ (observations.close resolver run).store.items.rows,
    row.provider = run.providerKey → ¬ row.isStale →
      ((observations.close resolver run).refresh run row).isStale →
      ∀ time ∈ observations.confirmed row.source,
        time + run.maxAge ≤ (observations.run resolver run).clock

/-- The condition on a run.  If it flags rows, one that was fetched before the age was not
served later in an `ok` run within the age.  If it clears the flags, all rows of the provider
were served within the age, and if it leaves the flags, all rows without one were. -/
def Observations.Admits (resolver : SecurityResolver) (observations : Observations)
    (run : ProviderRun) : Prop :=
  let closing := observations.close resolver run
  let freshSince := closing.clock - run.maxAge
  ∀ row ∈ closing.store.items.rows, row.provider = run.providerKey →
    if closing.refreshes ∧ closing.status = .unavailable then
      ¬ row.isStale → row.fetchedAt < freshSince →
        ∀ time ∈ observations.confirmed row.source, time ≤ freshSince
    else closing.refreshes ∨ ¬ row.isStale →
      (closing.served.after observations.served).Since row.source freshSince

/-! ## What was served -/

theorem Served.after_after (latest later earlier : Served) :
    (latest.after later).after earlier = latest.after (later.after earlier) := by
  funext source
  simp only [after]
  cases latest source <;> rfl

theorem Served.mem_after {later earlier : Served} {source : Source} {time : Instant}
    (recorded : time ∈ later source) : time ∈ later.after earlier source := by
  rw [after, recorded]
  rfl

/-- A record that is not earlier takes nothing away. -/
theorem Served.Since.after {earlier later : Served} {source : Source} {instant : Instant}
    (since : earlier.Since source instant)
    (newer : ∀ time ∈ later source, instant ≤ time) :
    (later.after earlier).Since source instant := by
  rw [Served.Since, Served.after]
  cases recorded : later source with
  | none => exact since
  | some time => exact ⟨time, rfl, newer time recorded⟩

/-- The row of an item was fetched no later than its source served it, and nothing is served
later than now. -/
structure Recorded (store : Store) (served : Served) (clock : Instant) : Prop where
  rows : ∀ row ∈ store.items.rows, served.Since row.source row.fetchedAt
  times : ∀ source, ∀ time ∈ served source, time ≤ clock

/-- A row after an item is one from before or has the item's source and time. -/
theorem Store.mem_ingestItem {resolver : SecurityResolver} {providerKey : String}
    {resolveIdentities : Bool} {store next : Store} {item : IntelItem} {handled : Handled}
    (ingested : store.ingestItem resolver providerKey resolveIdentities item =
      some (next, handled)) :
    ∀ row ∈ next.items.rows, row ∈ store.items.rows ∨
      ∃ policyItem ∈ applyLicensingPolicy item, row.fetchedAt = policyItem.fetchedAt ∧
        row.sourceId = policyItem.sourceId ∧
        (row.provider = providerKey ∨ row.provider = policyItem.provider) := by
  rw [ingestItem] at ingested
  split at ingested
  · cases ingested
    exact fun row isMem => .inl isMem
  · next policyItem applied =>
      split at ingested
      · next existing found =>
          obtain ⟨_, provider, sourceId⟩ := of_findBySource found
          split at ingested
          · cases ingested
            exact fun row isMem => .inl isMem
          · obtain ⟨flushed, isFlushed, same⟩ := Option.map_eq_some_iff.mp ingested
            cases same
            obtain ⟨_, rfl⟩ := of_flush isFlushed
            intro row isMem
            obtain rfl | old := Lib.Table.mem_save isMem
            · exact .inr ⟨policyItem, applied, rfl, sourceId, .inl provider⟩
            · exact .inl old
      · split at ingested
        · cases ingested
          exact fun row isMem => .inl isMem
        · obtain ⟨_, leaves⟩ := store.insertItem_spec resolver resolveIdentities policyItem
          obtain ⟨rows, _⟩ := leaves _ ingested
          intro row isMem
          rw [rows, List.mem_append, List.mem_singleton] at isMem
          obtain old | rfl := isMem
          · exact .inl old
          · exact .inr ⟨policyItem, applied, rfl, rfl, .inr rfl⟩

theorem Store.mem_ingestItems {resolver : SecurityResolver} {providerKey : String}
    {resolveIdentities : Bool} (items : List IntelItem) :
    ∀ {store : Store} {result : Store × Summary},
      store.ingestItems resolver providerKey resolveIdentities items = some result →
      ∀ row ∈ result.1.items.rows, row ∈ store.items.rows ∨
        ∃ item ∈ items, ∃ policyItem ∈ applyLicensingPolicy item,
          row.fetchedAt = policyItem.fetchedAt ∧ row.sourceId = policyItem.sourceId ∧
            (row.provider = providerKey ∨ row.provider = policyItem.provider) := by
  induction items with
  | nil =>
      intro store result ingested
      cases ingested
      exact fun row isMem => .inl isMem
  | cons item rest ih =>
      intro store result ingested
      rw [ingestItems] at ingested
      obtain ⟨⟨next, handled⟩, first, ingested⟩ := Option.bind_eq_some_iff.mp ingested
      obtain ⟨⟨last, summary⟩, others, same⟩ := Option.bind_eq_some_iff.mp ingested
      cases same
      intro row isMem
      obtain old | ⟨other, otherMem, fromOther⟩ := ih others row isMem
      · obtain old | fromItem := mem_ingestItem first row old
        · exact .inl old
        · exact .inr ⟨item, List.mem_cons_self, fromItem⟩
      · exact .inr ⟨other, List.mem_cons_of_mem _ otherMem, fromOther⟩

/-- The policy leaves the source and the time of an item. -/
theorem applyLicensingPolicy_fetchedAt {item policyItem : IntelItem}
    (applied : applyLicensingPolicy item = some policyItem) :
    policyItem.fetchedAt = item.fetchedAt := by
  rw [applyLicensingPolicy] at applied
  simp only at applied
  split at applied
  · cases applied
  · cases applied
    rfl

theorem eq_of_servedBy {providerKey : String} {now : Instant} {items : List IntelItem}
    {source : Source} {time : Instant} (served : time ∈ servedBy providerKey now items source) :
    time = now := by
  rw [servedBy] at served
  split at served
  · exact (Option.some.inj served).symm
  · cases served

/-- Serving items later keeps the record of all rows. -/
theorem Recorded.serve {store : Store} {served : Served} {clock now : Instant}
    (recorded : Recorded store served clock) (later : clock ≤ now) (providerKey : String)
    (items : List IntelItem) :
    Recorded store ((servedBy providerKey now items).after served) now where
  rows row isMem := by
    obtain ⟨before, isBefore, fetched⟩ := recorded.rows row isMem
    apply (recorded.rows row isMem).after
    intro time isTime
    rw [eq_of_servedBy isTime]
    exact (fetched.trans (recorded.times _ before isBefore)).trans later
  times source time isTime := by
    rw [Served.after] at isTime
    cases isServed : servedBy providerKey now items source with
    | none =>
        rw [isServed] at isTime
        exact (recorded.times source time isTime).trans later
    | some latest =>
        rw [isServed] at isTime
        cases isTime
        exact (eq_of_servedBy isServed).le

/-- The clock alone goes on. -/
theorem Recorded.later {store : Store} {served : Served} {clock now : Instant}
    (recorded : Recorded store served clock) (isLater : clock ≤ now) :
    Recorded store served now :=
  ⟨recorded.rows, fun source time isTime => (recorded.times source time isTime).trans isLater⟩

section Runs

variable (resolver : SecurityResolver)

/-- A page records what it brings. -/
theorem Progress.page_recorded (providerKey : String) {progress : Progress} {earlier : Served}
    (recorded : Recorded progress.store (progress.served.after earlier) progress.clock)
    (page : Page) :
    Recorded (progress.page resolver providerKey page).store
      ((progress.page resolver providerKey page).served.after earlier)
      (progress.page resolver providerKey page).clock := by
  have served := recorded.serve (le_add_of_nonneg_right (Int.natCast_nonneg page.wait))
    providerKey (page.items.map fun item =>
      item.fetchedBy providerKey (progress.clock + page.wait))
  rw [← Served.after_after] at served
  rw [Progress.page]
  split
  · exact recorded
  · simp only
    split
    · next store summary ingested =>
        refine ⟨?_, served.times⟩
        intro row isMem
        obtain old | ⟨item, itemMem, policyItem, applied, fetchedAt, sourceId, provider⟩ :=
          Store.mem_ingestItems _ ingested row isMem
        · exact served.rows row old
        · obtain ⟨served, servedMem, rfl⟩ := List.mem_map.mp itemMem
          obtain ⟨sameProvider, sameSource, _⟩ := applyLicensingPolicy_spec applied
          have isProvider : row.provider = providerKey :=
            provider.elim id fun isItem => isItem.trans sameProvider
          have isSource : row.sourceId = served.sourceId := sourceId.trans sameSource
          refine ⟨progress.clock + page.wait, ?_, ?_⟩
          · apply Served.mem_after
            apply Served.mem_after
            rw [servedBy, if_pos]
            · rfl
            · refine ⟨isProvider, List.any_eq_true.mpr ⟨_, itemMem, ?_⟩⟩
              rw [applied]
              simp [MarketIntelligenceItem.source, isSource, IntelItem.fetchedBy]
          · rw [fetchedAt, applyLicensingPolicy_fetchedAt applied]
            exact le_refl _
    · exact served

/-- The pages of a run record what they bring. -/
theorem Progress.pages_recorded (providerKey : String) (earlier : Served) (pages : List Page) :
    ∀ progress : Progress,
      Recorded progress.store (progress.served.after earlier) progress.clock →
      let last := pages.foldl (Progress.page resolver providerKey) progress
      Recorded last.store (last.served.after earlier) last.clock := by
  induction pages with
  | nil => exact fun _ recorded => recorded
  | cons page rest ih =>
      intro progress recorded
      exact ih _ (Progress.page_recorded resolver providerKey recorded page)

/-- Everything is recorded when the flags are refreshed. -/
theorem Observations.close_recorded {observations : Observations}
    (recorded : Recorded observations.store observations.served observations.clock)
    (run : ProviderRun) :
    Recorded (observations.close resolver run).store
      ((observations.close resolver run).served.after observations.served)
      (observations.close resolver run).clock := by
  have waited := recorded.later (le_add_of_nonneg_right (Int.natCast_nonneg run.wait))
  rw [close]
  split
  · exact waited
  · next fetches _ =>
      have last := Progress.pages_recorded resolver run.providerKey observations.served
        fetches.pages ⟨observations.store, observations.clock + run.wait, fun _ => none, false⟩
        waited
      exact last.later (le_add_of_nonneg_right (Int.natCast_nonneg _))

theorem Closing.refresh_spec (closing : Closing) (run : ProviderRun)
    (row : MarketIntelligenceItem) :
    (closing.refresh run row).source = row.source ∧
      (closing.refresh run row).fetchedAt = row.fetchedAt := by
  rw [refresh]
  split
  · split
    · rw [MarketIntelligenceItem.markStale]
      split <;> exact ⟨rfl, rfl⟩
    · rw [MarketIntelligenceItem.clearStale]
      split <;> exact ⟨rfl, rfl⟩
  · exact ⟨rfl, rfl⟩

/-- One step: a run leaves everything recorded. -/
theorem Observations.run_recorded {observations : Observations}
    (recorded : Recorded observations.store observations.served observations.clock)
    (run : ProviderRun) :
    Recorded (observations.run resolver run).store (observations.run resolver run).served
      (observations.run resolver run).clock := by
  have closed := observations.close_recorded resolver recorded run
  refine ⟨?_, closed.times⟩
  intro row isMem
  obtain ⟨before, beforeMem, rfl⟩ := List.mem_map.mp isMem
  obtain ⟨source, fetchedAt⟩ := (observations.close resolver run).refresh_spec run before
  rw [source, fetchedAt]
  exact closed.rows before beforeMem

end Runs

/-- One row: what is to hold of it after the refresh is the condition on it. -/
theorem Closing.row_truthful_iff (closing : Closing) (run : ProviderRun) {served : Served}
    {row : MarketIntelligenceItem} (provider : row.provider = run.providerKey)
    (recorded : served.Since row.source row.fetchedAt) (confirmed : Option Instant) :
    (¬ (closing.refresh run row).isStale →
        served.Since row.source (closing.clock - run.maxAge)) ∧
      (¬ row.isStale → (closing.refresh run row).isStale →
        ∀ time ∈ confirmed, time + run.maxAge ≤ closing.clock) ↔
    if closing.refreshes ∧ closing.status = .unavailable then
      ¬ row.isStale → row.fetchedAt < closing.clock - run.maxAge →
        ∀ time ∈ confirmed, time ≤ closing.clock - run.maxAge
    else closing.refreshes ∨ ¬ row.isStale →
      served.Since row.source (closing.clock - run.maxAge) := by
  have age (time : Instant) :
      time + run.maxAge ≤ closing.clock ↔ time ≤ closing.clock - run.maxAge :=
    le_sub_iff_add_le.symm
  simp only [age]
  rw [refresh]
  cases refreshes : closing.refreshes with
  | false => by_cases stale : row.isStale <;> simp [stale]
  | true =>
      cases status : closing.status with
      | unavailable =>
          by_cases stale : row.isStale
          · simp [MarketIntelligenceItem.markStale, stale]
          · by_cases old : row.fetchedAt < closing.clock - run.maxAge
            · simp [MarketIntelligenceItem.markStale, stale, old, provider]
            · obtain ⟨time, isTime, fetched⟩ := recorded
              have since : served.Since row.source (closing.clock - run.maxAge) :=
                ⟨time, isTime, (not_lt.mp old).trans fetched⟩
              simp [MarketIntelligenceItem.markStale, stale, old, since]
      | ok =>
          by_cases stale : row.isStale <;>
            simp [MarketIntelligenceItem.clearStale, stale, provider]
      | degraded =>
          by_cases stale : row.isStale <;>
            simp [MarketIntelligenceItem.clearStale, stale, provider]

section Truth

variable (resolver : SecurityResolver)

/-- One run is truthful exactly under its condition. -/
theorem Observations.truthful_iff {observations : Observations}
    (recorded : Recorded observations.store observations.served observations.clock)
    (run : ProviderRun) :
    observations.Truthful resolver run ↔ observations.Admits resolver run := by
  have closed := observations.close_recorded resolver recorded run
  have each (row : MarketIntelligenceItem)
      (isMem : row ∈ (observations.close resolver run).store.items.rows)
      (provider : row.provider = run.providerKey) :=
    (observations.close resolver run).row_truthful_iff run provider (closed.rows row isMem)
      (observations.confirmed row.source)
  constructor
  · intro truthful row isMem provider
    refine (each row isMem provider).mp ⟨?_, truthful.confirmed row isMem provider⟩
    intro unflagged
    have after := (observations.close resolver run).refresh_spec run row
    have fresh := truthful.fresh _ (List.mem_map.mpr ⟨row, isMem, rfl⟩)
      ((congrArg Prod.fst after.1).trans provider) unflagged
    rwa [after.1] at fresh
  · intro admits
    refine ⟨?_, ?_⟩
    · intro row isMem provider unflagged
      obtain ⟨before, beforeMem, rfl⟩ := List.mem_map.mp isMem
      have after := (observations.close resolver run).refresh_spec run before
      have sameProvider : before.provider = run.providerKey :=
        (congrArg Prod.fst after.1).symm.trans provider
      rw [after.1]
      exact ((each before beforeMem sameProvider).mpr
        (admits before beforeMem sameProvider)).1 unflagged
    · intro row isMem provider
      exact ((each row isMem provider).mpr (admits row isMem provider)).2

end Truth

/-- A story that the source serves once. -/
def passingStory : IntelItem where
  provider := "sec"
  sourceId := "filing-1"
  licenseClass := .publicDomain
  contentHash := "filing"

/-- A run that is `ok`, with some items. -/
def okRun (wait : Nat) (items : List IntelItem) : ProviderRun where
  providerKey := "sec"
  maxAge := 6 * 3600 * 1000000
  wait := wait
  fetches := some ⟨[⟨0, items⟩], 0, some 0, 1⟩

end FinanceSync.Intel
