import FinanceSync.Intel.Ingestion

/-!
# Identities of observations

What pages of any providers and the decisions of an operator leave in the store, one after
the other.  A row that is updated keeps the link that it was stored with, and its new
content is not looked up elsewhere; all other steps keep the keys and the links.
-/

namespace FinanceSync.Intel

/-! ## The review of an operator -/

/-- Link an observation to a chosen security. -/
def MarketIntelligenceItem.link (row : MarketIntelligenceItem) (securityId : Uuid) :
    MarketIntelligenceItem :=
  { row with
    securityId := some securityId
    resolutionStatus := .resolved
    reviewRequired := false }

def ReviewEntry.choose (entry : ReviewEntry) (securityId : Uuid) : ReviewEntry :=
  { entry with resolutionStatus := .resolved, resolvedSecurityId := some securityId }

def ReviewEntry.dismiss (entry : ReviewEntry) : ReviewEntry :=
  { entry with resolutionStatus := .dismissed, resolvedSecurityId := none }

/-- The observation of an entry is read and written, if it is there. -/
def Store.writeItem (store : Store) (itemId : Uuid)
    (write : MarketIntelligenceItem → MarketIntelligenceItem) : Items :=
  match store.items.rows.find? fun row => row.id = itemId with
  | some row => store.items.save (write row)
  | none => store.items

/-- `IntelReviewService.resolve_entry` -/
def Store.resolveEntry (securities : Uuid → Bool) (store : Store) (entryId securityId : Uuid) :
    Store :=
  match store.queue.rows.find? fun entry => entry.id = entryId with
  | none => store
  | some entry =>
      if securities securityId then
        { items := store.writeItem entry.itemId fun row => row.link securityId
          queue := store.queue.save (entry.choose securityId) }
      else store

/-- `IntelReviewService.dismiss_entry` -/
def Store.dismissEntry (store : Store) (entryId : Uuid) : Store :=
  match store.queue.rows.find? fun entry => entry.id = entryId with
  | none => store
  | some entry =>
      { items := store.writeItem entry.itemId fun row => { row with reviewRequired := false }
        queue := store.queue.save entry.dismiss }

/-- What happens to the store of a tenant. -/
inductive Event
  /-- A page of a provider is ingested. -/
  | page (providerKey : String) (items : List IntelItem) (resolveIdentities : Bool)
  | resolveEntry (entryId securityId : Uuid)
  | dismissEntry (entryId : Uuid)

/-- The store after an event; a page with an error is rolled back. -/
def Store.step (resolver : SecurityResolver) (securities : Uuid → Bool) (store : Store) :
    Event → Store
  | .page providerKey items resolveIdentities =>
      ((store.ingestItems resolver providerKey resolveIdentities items).map Prod.fst).getD store
  | .resolveEntry entryId securityId => store.resolveEntry securities entryId securityId
  | .dismissEntry entryId => store.dismissEntry entryId

/-! ## What is to hold -/

/-- The stored texts are permitted by the stored licence class. -/
def Licensed (row : MarketIntelligenceItem) : Prop :=
  (row.body.isSome → row.licenseClass.allowsFullContent) ∧
    (row.summary.isSome → row.licenseClass.allowsSnippet)

/-- An entry of the queue says that an operator chose the security for the item. -/
def ReviewEntry.Chooses (entry : ReviewEntry) (row : MarketIntelligenceItem) : Prop :=
  entry.itemId = row.id ∧ entry.resolutionStatus = .resolved ∧
    entry.resolvedSecurityId = row.securityId

instance (entry : ReviewEntry) (row : MarketIntelligenceItem) : Decidable (entry.Chooses row) :=
  inferInstanceAs (Decidable (_ ∧ _ ∧ _))

/-- The security of a row, as far as it has one, is an operator's choice or the resolution of
identifiers. -/
def Justified (resolver : SecurityResolver) (queue : List ReviewEntry)
    (row : MarketIntelligenceItem) (identifiers : Identifiers) : Prop :=
  row.securityId = none ∨ (∃ entry ∈ queue, entry.Chooses row) ∨
    (resolve resolver identifiers).securityId = row.securityId

instance (resolver : SecurityResolver) (queue : List ReviewEntry) (row : MarketIntelligenceItem)
    (identifiers : Identifiers) : Decidable (Justified resolver queue row identifiers) :=
  inferInstanceAs (Decidable (_ ∨ _ ∨ _))

/-- The keys are unique, and each row is permitted and justified. -/
structure Store.Sound (resolver : SecurityResolver) (store : Store) : Prop where
  unique : UniqueKeys store.items.rows
  licensed : ∀ row ∈ store.items.rows, Licensed row
  justified : ∀ row ∈ store.items.rows,
    Justified resolver store.queue.rows row row.identifiers

/-- The rows of the source of an item are justified by the identifiers that it has. -/
def Store.FitsItem (resolver : SecurityResolver) (providerKey : String) (store : Store)
    (item : IntelItem) : Prop :=
  ∀ row ∈ store.items.rows, row.provider = providerKey → row.sourceId = item.sourceId →
    Justified resolver store.queue.rows row item.identifiers

/-! ## One item -/

/-- More entries in the queue justify as much. -/
theorem Justified.mono {resolver : SecurityResolver} {queue larger : List ReviewEntry}
    (subset : queue ⊆ larger) {row : MarketIntelligenceItem} {identifiers : Identifiers}
    (justified : Justified resolver queue row identifiers) :
    Justified resolver larger row identifiers := by
  obtain unlinked | ⟨entry, isMem, chooses⟩ | resolved := justified
  · exact .inl unlinked
  · exact .inr (.inl ⟨entry, subset isMem, chooses⟩)
  · exact .inr (.inr resolved)

/-- An updated row is justified as the one before it. -/
theorem justified_updateRow {resolver : SecurityResolver} {queue : List ReviewEntry}
    {existing : MarketIntelligenceItem} {item : IntelItem} {identifiers : Identifiers} :
    Justified resolver queue (updateRow existing item) identifiers ↔
      Justified resolver queue existing identifiers := Iff.rfl

section Items

variable (resolver : SecurityResolver) (providerKey : String) (resolveIdentities : Bool)

/-- What an item is to leave: it is stored without a violated key, and the row of its source
is justified by its identifiers. -/
def Store.KeepsItem (store : Store) (item : IntelItem) : Prop :=
  (store.ingestItem resolver providerKey resolveIdentities item).isSome ∧
    (store.afterItem resolver providerKey resolveIdentities item).FitsItem resolver providerKey item

/-- The keys that an item brings are free. -/
def Store.KeysFree (store : Store) (policyItem : IntelItem) : Prop :=
  match store.findBySource providerKey policyItem.sourceId with
  | some existing => isUnchanged existing policyItem ∨ ∀ other ∈ store.items.rows,
      other.contentHash = policyItem.contentHash → other.id = existing.id
  | none => (store.findByHash policyItem.contentHash).isSome ∨ ∀ other ∈ store.items.rows,
      (other.provider, other.sourceId) ≠ (policyItem.provider, policyItem.sourceId)

/-- The condition on an item: its identifiers justify the link of its row, its new content is
not stored under another source, and a new row has a key of its own. -/
def Store.AdmitsItem (store : Store) (item : IntelItem) : Prop :=
  store.FitsItem resolver providerKey item ∧
    ∀ policyItem ∈ applyLicensingPolicy item, store.KeysFree providerKey policyItem

/-- Saving an updated row keeps the keys unique exactly if its hash is free. -/
theorem uniqueKeys_save_iff {items : Items} (unique : UniqueKeys items.rows)
    {existing : MarketIntelligenceItem} (stored : existing ∈ items.rows) (item : IntelItem) :
    UniqueKeys (items.save (updateRow existing item)).rows ↔
      ∀ other ∈ items.rows, other.contentHash = item.contentHash → other.id = existing.id := by
  have sameKey : existing.id = (updateRow existing item).id := rfl
  have sources := (Lib.Table.nodup_map_save_iff stored sameKey unique.source).mpr
    fun other otherMem same =>
      have isExisting : other = existing :=
        List.inj_on_of_nodup_map unique.source otherMem stored same
      show other.id = existing.id from congrArg MarketIntelligenceItem.id isExisting
  have hashes := Lib.Table.nodup_map_save_iff stored sameKey unique.contentHash
  exact ⟨fun saved => hashes.mp saved.contentHash, fun free => ⟨sources, hashes.mpr free⟩⟩

/-- A new row keeps the keys unique exactly if both are free. -/
theorem uniqueKeys_insert_iff {items : Items} (unique : UniqueKeys items.rows)
    {row : MarketIntelligenceItem} (fresh : row.id = items.next)
    (hashFree : ∀ other ∈ items.rows, other.contentHash ≠ row.contentHash) :
    UniqueKeys (items.insert row fresh).rows ↔
      ∀ other ∈ items.rows, (other.provider, other.sourceId) ≠ (row.provider, row.sourceId) := by
  have sources := Lib.Table.nodup_map_insert_iff fresh unique.source
  have hashes := Lib.Table.nodup_map_insert_iff fresh unique.contentHash
  exact ⟨fun inserted => sources.mp inserted.source,
    fun free => ⟨sources.mpr free, hashes.mpr hashFree⟩⟩

/-- An item that changes nothing. -/
theorem Store.unchanged_keeps_iff {store : Store} (sound : store.Sound resolver)
    {item : IntelItem} {handled : Handled}
    (same : store.ingestItem resolver providerKey resolveIdentities item = some (store, handled))
    (free : ∀ policyItem ∈ applyLicensingPolicy item, store.KeysFree providerKey policyItem) :
    (store.afterItem resolver providerKey resolveIdentities item).Sound resolver ∧
        store.KeepsItem resolver providerKey resolveIdentities item ↔
      store.AdmitsItem resolver providerKey item := by
  rw [KeepsItem, AdmitsItem, afterItem, same]
  simp only [Option.isSome_some, Option.map_some, Option.getD_some, true_and]
  exact ⟨fun kept => ⟨kept.2, free⟩, fun admitted => ⟨sound, admitted.1⟩⟩

/-- An update of a row. -/
theorem Store.update_keeps_iff {store : Store} (sound : store.Sound resolver)
    {item policyItem : IntelItem} (applied : applyLicensingPolicy item = some policyItem)
    {existing : MarketIntelligenceItem}
    (found : store.findBySource providerKey policyItem.sourceId = some existing)
    (changed : ¬ isUnchanged existing policyItem) :
    (store.afterItem resolver providerKey resolveIdentities item).Sound resolver ∧
        store.KeepsItem resolver providerKey resolveIdentities item ↔
      store.AdmitsItem resolver providerKey item := by
  obtain ⟨stored, sameProvider, sameSource⟩ := of_findBySource found
  obtain ⟨_, sourceId, identifiers, bodyLicensed, summaryLicensed⟩ :=
    applyLicensingPolicy_spec applied
  have only : ∀ row ∈ store.items.rows, row.provider = providerKey →
      row.sourceId = item.sourceId → row = existing := by
    intro row rowMem provider source
    apply List.inj_on_of_nodup_map sound.unique.source rowMem stored
    rw [provider, source, sameProvider, sameSource, sourceId]
  have fits : store.FitsItem resolver providerKey item ↔
      Justified resolver store.queue.rows existing item.identifiers := by
    constructor
    · intro fitting
      exact fitting existing stored sameProvider (sameSource.trans sourceId)
    · intro justified row rowMem provider source
      rw [only row rowMem provider source]
      exact justified
  have free := uniqueKeys_save_iff sound.unique stored policyItem
  rw [KeepsItem, AdmitsItem, afterItem, ingestItem, applied]
  simp only [found, changed, Option.mem_some_iff, forall_eq', KeysFree, false_or, Option.isSome_map,
    flush_isSome, fits, ← free, Bool.false_eq_true, if_false]
  constructor
  · rintro ⟨kept, isUnique, _⟩
    rw [flush, if_pos isUnique] at kept
    refine ⟨?_, isUnique⟩
    have updated := kept.justified (updateRow existing policyItem)
      (List.mem_map.mpr ⟨existing, stored, if_pos rfl⟩)
    rw [justified_updateRow] at updated
    rw [← identifiers]
    exact updated
  · rintro ⟨justified, isUnique⟩
    rw [flush, if_pos isUnique]
    simp only [Option.map_some, Option.getD_some]
    rw [← identifiers] at justified
    refine ⟨⟨isUnique, ?_, ?_⟩, isUnique, ?_⟩
    · exact Lib.Table.forall_save sound.licensed ⟨bodyLicensed, summaryLicensed⟩
    · exact Lib.Table.forall_save sound.justified (justified_updateRow.mpr justified)
    · intro row rowMem provider source
      rw [← identifiers]
      obtain rfl | old := Lib.Table.mem_save rowMem
      · exact justified_updateRow.mpr justified
      · rw [only row old provider source]
        exact justified

/-- A new row is justified by the identifiers that it is resolved from. -/
theorem justified_buildRow (queue : List ReviewEntry) (id : Uuid) (item : IntelItem) :
    Justified resolver queue (buildRow id item (item.resolution resolver resolveIdentities))
      item.identifiers := by
  rw [Justified, buildRow, IntelItem.resolution]
  split
  · split
    · exact .inl rfl
    · exact .inr (.inr rfl)
  · exact .inl rfl

/-- A new row. -/
theorem Store.insert_keeps_iff {store : Store} (sound : store.Sound resolver)
    {item policyItem : IntelItem} (applied : applyLicensingPolicy item = some policyItem)
    (missing : store.findBySource providerKey policyItem.sourceId = none)
    (newHash : store.findByHash policyItem.contentHash = none) :
    (store.afterItem resolver providerKey resolveIdentities item).Sound resolver ∧
        store.KeepsItem resolver providerKey resolveIdentities item ↔
      store.AdmitsItem resolver providerKey item := by
  obtain ⟨_, sourceId, identifiers, bodyLicensed, summaryLicensed⟩ :=
    applyLicensingPolicy_spec applied
  have absent := of_findBySource_none missing
  have fits : store.FitsItem resolver providerKey item := by
    intro row rowMem provider source
    exact absurd (source.trans sourceId.symm) (absent row rowMem provider)
  have hashFree : ∀ other ∈ store.items.rows, other.contentHash ≠ policyItem.contentHash := by
    intro other otherMem
    simpa using List.find?_eq_none.mp newHash other otherMem
  obtain ⟨isSome, leaves⟩ := store.insertItem_spec resolver resolveIdentities policyItem
  have fresh : (buildRow store.items.next policyItem
      (policyItem.resolution resolver resolveIdentities)).id = store.items.next := buildRow_id _ _ _
  have free := uniqueKeys_insert_iff sound.unique fresh hashFree
  rw [free] at isSome
  rw [KeepsItem, AdmitsItem, afterItem, ingestItem, applied]
  simp only [missing, newHash, Option.mem_some_iff, forall_eq', KeysFree, Option.isSome_none,
    Bool.false_eq_true, false_or, and_iff_right fits]
  constructor
  · intro kept
    exact isSome.mp kept.2.1
  · intro isFree
    obtain ⟨stored, inserted⟩ := Option.isSome_iff_exists.mp (isSome.mpr isFree)
    obtain ⟨rows, queue⟩ := leaves stored inserted
    have justified := justified_buildRow resolver resolveIdentities stored.1.queue.rows
      store.items.next policyItem
    rw [inserted]
    simp only [Option.map_some, Option.getD_some, Option.isSome_some, true_and]
    refine ⟨⟨?_, ?_, ?_⟩, ?_⟩
    · rw [rows]
      exact free.mpr isFree
    · intro row rowMem
      rw [rows, List.mem_append, List.mem_singleton] at rowMem
      obtain old | rfl := rowMem
      · exact sound.licensed row old
      · exact ⟨bodyLicensed, summaryLicensed⟩
    · intro row rowMem
      rw [rows, List.mem_append, List.mem_singleton] at rowMem
      obtain old | rfl := rowMem
      · exact (sound.justified row old).mono queue
      · exact justified
    · intro row rowMem provider source
      rw [rows, List.mem_append, List.mem_singleton] at rowMem
      obtain old | rfl := rowMem
      · exact absurd (source.trans sourceId.symm) (absent row old provider)
      · rw [← identifiers]
        exact justified

/-- One item: the store stays sound and the item is kept exactly under its condition. -/
theorem Store.item_keeps_iff {store : Store} (sound : store.Sound resolver) (item : IntelItem) :
    (store.afterItem resolver providerKey resolveIdentities item).Sound resolver ∧
        store.KeepsItem resolver providerKey resolveIdentities item ↔
      store.AdmitsItem resolver providerKey item := by
  cases applied : applyLicensingPolicy item with
  | none =>
      have same : store.ingestItem resolver providerKey resolveIdentities item =
          some (store, .error) := by
        rw [ingestItem, applied]
      apply store.unchanged_keeps_iff resolver providerKey resolveIdentities sound same
      simp [applied]
  | some policyItem =>
      cases found : store.findBySource providerKey policyItem.sourceId with
      | some existing =>
          by_cases unchanged : isUnchanged existing policyItem
          · have same : store.ingestItem resolver providerKey resolveIdentities item =
                some (store, .duplicate) := by
              rw [ingestItem, applied]
              simp only [found, unchanged, if_true]
            apply store.unchanged_keeps_iff resolver providerKey resolveIdentities sound same
            simp [applied, KeysFree, found, unchanged]
          · exact store.update_keeps_iff resolver providerKey resolveIdentities sound applied found
              unchanged
      | none =>
          cases syndicated : store.findByHash policyItem.contentHash with
          | some other =>
              have same : store.ingestItem resolver providerKey resolveIdentities item =
                  some (store, .duplicate) := by
                rw [ingestItem, applied]
                simp only [found, syndicated]
              apply store.unchanged_keeps_iff resolver providerKey resolveIdentities sound same
              simp [applied, KeysFree, found, syndicated]
          | none =>
              exact store.insert_keeps_iff resolver providerKey resolveIdentities sound applied
                found syndicated

/-- A page of items, each of which leaves the store sound and is kept. -/
theorem Store.page_keeps_iff {store : Store} (sound : store.Sound resolver)
    (items : List IntelItem) :
    ((∀ before after, items = before ++ after →
        (Lib.runAll (Store.afterItem resolver providerKey resolveIdentities) store before).Sound
          resolver) ∧
      Lib.Along (Store.afterItem resolver providerKey resolveIdentities)
        (Store.KeepsItem resolver providerKey resolveIdentities) store items) ↔
      Lib.Along (Store.afterItem resolver providerKey resolveIdentities)
        (Store.AdmitsItem resolver providerKey) store items := by
  have keeps (store : Store) (item : IntelItem) (isSound : store.Sound resolver) :=
    store.item_keeps_iff resolver providerKey resolveIdentities isSound item
  exact Lib.reached_and_along_iff keeps items sound

end Items

/-! ## The decisions of an operator -/

/-- The security of a row is justified without an entry of the queue. -/
def Store.JustifiedWithout (resolver : SecurityResolver) (store : Store) (entryId : Uuid)
    (row : MarketIntelligenceItem) : Prop :=
  Justified resolver (store.queue.rows.filter fun entry => entry.id ≠ entryId) row row.identifiers

/-- Saving an entry justifies what it chooses and what the other entries do. -/
theorem justified_save_iff {resolver : SecurityResolver}
    {queue : Lib.Table ReviewEntry ReviewEntry.id} {entry saved : ReviewEntry}
    (stored : entry ∈ queue.rows) (same : entry.id = saved.id) (row : MarketIntelligenceItem)
    (identifiers : Identifiers) :
    Justified resolver (queue.save saved).rows row identifiers ↔
      saved.Chooses row ∨
        Justified resolver (queue.rows.filter fun other => other.id ≠ saved.id) row
          identifiers := by
  rw [Justified, Justified]
  simp only [Lib.Table.mem_save_iff stored same, List.mem_filter, decide_eq_true_eq]
  constructor
  · rintro (unlinked | ⟨other, rfl | kept, chooses⟩ | resolved)
    · exact .inr (.inl unlinked)
    · exact .inl chooses
    · exact .inr (.inr (.inl ⟨other, kept, chooses⟩))
    · exact .inr (.inr (.inr resolved))
  · rintro (chooses | unlinked | ⟨other, kept, chooses⟩ | resolved)
    · exact .inr (.inl ⟨saved, .inl rfl, chooses⟩)
    · exact .inl unlinked
    · exact .inr (.inl ⟨other, .inr kept, chooses⟩)
    · exact .inr (.inr resolved)

/-- A row that an entry is not about is justified without it. -/
theorem justified_filter {resolver : SecurityResolver}
    {queue : Lib.Table ReviewEntry ReviewEntry.id} {entry : ReviewEntry}
    (stored : entry ∈ queue.rows) {row : MarketIntelligenceItem} (other : row.id ≠ entry.itemId)
    {identifiers : Identifiers} (justified : Justified resolver queue.rows row identifiers) :
    Justified resolver (queue.rows.filter fun kept => kept.id ≠ entry.id) row identifiers := by
  obtain unlinked | ⟨chooser, chooserMem, chooses⟩ | resolved := justified
  · exact .inl unlinked
  · refine .inr (.inl ⟨chooser, List.mem_filter.mpr ⟨chooserMem, ?_⟩, chooses⟩)
    rw [decide_eq_true_eq]
    intro sameEntry
    rw [queue.eq_of_key_eq chooserMem stored sameEntry] at chooses
    exact other chooses.1.symm
  · exact .inr (.inr resolved)

/-- A write that leaves the keys and the texts of a row. -/
structure KeepsContent (write : MarketIntelligenceItem → MarketIntelligenceItem) : Prop where
  id : ∀ row, (write row).id = row.id
  source : ∀ row, ((write row).provider, (write row).sourceId) = (row.provider, row.sourceId)
  contentHash : ∀ row, (write row).contentHash = row.contentHash
  licensed : ∀ row, Licensed row → Licensed (write row)

/-- Such a write to the observation of an entry keeps the keys unique and the texts
permitted, and changes one row. -/
theorem Store.writeItem_spec {resolver : SecurityResolver} {store : Store}
    (sound : store.Sound resolver) (itemId : Uuid)
    {write : MarketIntelligenceItem → MarketIntelligenceItem} (keeps : KeepsContent write) :
    UniqueKeys (store.writeItem itemId write).rows ∧
      (∀ row ∈ (store.writeItem itemId write).rows, Licensed row) ∧
      ∀ row, row ∈ (store.writeItem itemId write).rows ↔
        (∃ before ∈ store.items.rows, before.id = itemId ∧ row = write before) ∨
          row ∈ store.items.rows ∧ row.id ≠ itemId := by
  rw [writeItem]
  split
  · next row found =>
      have stored := List.mem_of_find?_eq_some found
      have rowId : row.id = itemId := by simpa using List.find?_some found
      have sameId := (keeps.id row).symm
      refine ⟨⟨?_, ?_⟩, ?_, ?_⟩
      · apply (Lib.Table.nodup_map_save_iff stored sameId sound.unique.source).mpr
        intro other otherMem same
        have isRow : other = row := List.inj_on_of_nodup_map sound.unique.source otherMem stored
          (same.trans (keeps.source row))
        rw [isRow, sameId]
      · apply (Lib.Table.nodup_map_save_iff stored sameId sound.unique.contentHash).mpr
        intro other otherMem same
        have isRow : other = row := List.inj_on_of_nodup_map sound.unique.contentHash otherMem
          stored (same.trans (keeps.contentHash row))
        rw [isRow, sameId]
      · exact Lib.Table.forall_save sound.licensed (keeps.licensed row (sound.licensed row stored))
      · intro other
        rw [Lib.Table.mem_save_iff stored sameId, ← sameId, rowId]
        have only (before : MarketIntelligenceItem) (beforeMem : before ∈ store.items.rows)
            (isItem : before.id = itemId) : before = row :=
          store.items.eq_of_key_eq beforeMem stored (isItem.trans rowId.symm)
        constructor
        · rintro (rfl | old)
          · exact .inl ⟨row, stored, rowId, rfl⟩
          · exact .inr old
        · rintro (⟨before, beforeMem, isItem, rfl⟩ | old)
          · rw [only before beforeMem isItem]
            exact .inl rfl
          · exact .inr old
  · next missing =>
      have absent : ∀ row ∈ store.items.rows, row.id ≠ itemId := by
        intro row rowMem
        simpa using List.find?_eq_none.mp missing row rowMem
      refine ⟨sound.unique, sound.licensed, ?_⟩
      intro row
      constructor
      · exact fun rowMem => .inr ⟨rowMem, absent row rowMem⟩
      · rintro (⟨before, beforeMem, isItem, _⟩ | old)
        · exact absurd isItem (absent before beforeMem)
        · exact old.1

/-- The choice of an operator keeps the store sound. -/
theorem Store.resolveEntry_sound {resolver : SecurityResolver} {store : Store}
    (sound : store.Sound resolver) (securities : Uuid → Bool) (entryId securityId : Uuid) :
    (store.resolveEntry securities entryId securityId).Sound resolver := by
  rw [resolveEntry]
  split
  · exact sound
  · next entry found =>
      have stored := List.mem_of_find?_eq_some found
      have keeps : KeepsContent fun row => row.link securityId :=
        ⟨fun _ => rfl, fun _ => rfl, fun _ => rfl, fun _ licensed => licensed⟩
      have sameId : entry.id = (entry.choose securityId).id := rfl
      obtain ⟨unique, licensed, isMem⟩ := writeItem_spec sound entry.itemId keeps
      split
      · refine ⟨unique, licensed, ?_⟩
        intro row rowMem
        rw [justified_save_iff stored sameId]
        obtain ⟨before, _, isItem, rfl⟩ | ⟨old, other⟩ := (isMem row).mp rowMem
        · exact .inl ⟨isItem.symm, rfl, rfl⟩
        · exact .inr (justified_filter stored other (sound.justified row old))
      · exact sound

/-- The condition on a dismissal: the link of the observation does not rest on the entry. -/
def Store.AdmitsDismissal (resolver : SecurityResolver) (store : Store) (entryId : Uuid) : Prop :=
  ∀ entry ∈ store.queue.rows, entry.id = entryId → ∀ row ∈ store.items.rows,
    row.id = entry.itemId → store.JustifiedWithout resolver entryId row

/-- A dismissal keeps the store sound exactly under its condition. -/
theorem Store.dismissEntry_sound_iff {resolver : SecurityResolver} {store : Store}
    (sound : store.Sound resolver) (entryId : Uuid) :
    (store.dismissEntry entryId).Sound resolver ↔ store.AdmitsDismissal resolver entryId := by
  rw [dismissEntry, AdmitsDismissal]
  split
  · next missing =>
      apply iff_of_true sound
      intro entry entryMem isEntry
      simpa [isEntry] using List.find?_eq_none.mp missing entry entryMem
  · next entry found =>
      have stored := List.mem_of_find?_eq_some found
      have isEntry : entry.id = entryId := by simpa using List.find?_some found
      have only : ∀ other ∈ store.queue.rows, other.id = entryId → other = entry :=
        fun other otherMem same => store.queue.eq_of_key_eq otherMem stored
          (same.trans isEntry.symm)
      have keeps : KeepsContent fun row => { row with reviewRequired := false } :=
        ⟨fun _ => rfl, fun _ => rfl, fun _ => rfl, fun _ licensed => licensed⟩
      have sameId : entry.id = entry.dismiss.id := rfl
      obtain ⟨unique, licensed, isMem⟩ := writeItem_spec sound entry.itemId keeps
      have chooses (row : MarketIntelligenceItem) : ¬ entry.dismiss.Chooses row := by
        intro chosen
        cases chosen.2.1
      constructor
      · intro after other otherMem isOther row rowMem isItem
        rw [only other otherMem isOther] at isItem
        have written := after.justified _
          ((isMem _).mpr (.inl ⟨row, rowMem, isItem, rfl⟩))
        rw [justified_save_iff stored sameId, or_iff_right (chooses _)] at written
        rw [JustifiedWithout, ← isEntry]
        exact written
      · intro without
        refine ⟨unique, licensed, ?_⟩
        intro row rowMem
        rw [justified_save_iff stored sameId, or_iff_right (chooses _)]
        obtain ⟨before, beforeMem, isItem, rfl⟩ | ⟨old, other⟩ := (isMem row).mp rowMem
        · have justified := without entry stored isEntry before beforeMem isItem
          rw [JustifiedWithout, ← isEntry] at justified
          exact justified
        · exact justified_filter stored other (sound.justified row old)

/-! ## Runs -/

section Runs

variable (resolver : SecurityResolver) (securities : Uuid → Bool)

/-- What an event is to leave: each item of a page leaves the store sound and is kept. -/
def Store.Keeps (store : Store) : Event → Prop
  | .page providerKey items resolveIdentities =>
      (∀ before after, items = before ++ after →
        (Lib.runAll (Store.afterItem resolver providerKey resolveIdentities) store before).Sound
          resolver) ∧
      Lib.Along (Store.afterItem resolver providerKey resolveIdentities)
        (Store.KeepsItem resolver providerKey resolveIdentities) store items
  | _ => True

/-- The condition on an event. -/
def Store.Admits (store : Store) : Event → Prop
  | .page providerKey items resolveIdentities =>
      Lib.Along (Store.afterItem resolver providerKey resolveIdentities)
        (Store.AdmitsItem resolver providerKey) store items
  | .resolveEntry _ _ => True
  | .dismissEntry entryId => store.AdmitsDismissal resolver entryId

/-- The market intelligence of a tenant keeps its identities over a run: every state is
sound, and every item is stored without a violated key and fits the row of its source. -/
def KeepsIdentities (events : List Event) : Prop :=
  (∀ before after, events = before ++ after →
    (Lib.runAll (Store.step resolver securities) Store.empty before).Sound resolver) ∧
  Lib.Along (Store.step resolver securities) (Store.Keeps resolver) Store.empty events

/-- One event: the store stays sound and the event is kept exactly under its condition. -/
theorem Store.step_keeps_iff {store : Store} (sound : store.Sound resolver) (event : Event) :
    (store.step resolver securities event).Sound resolver ∧ store.Keeps resolver event ↔
      store.Admits resolver event := by
  cases event with
  | page providerKey items resolveIdentities =>
      rw [Keeps, Admits, page_keeps_iff resolver providerKey resolveIdentities sound items]
      apply and_iff_right_of_imp
      intro admits
      obtain ⟨reached, kept⟩ :=
        (page_keeps_iff resolver providerKey resolveIdentities sound items).mpr admits
      obtain ⟨isSome, same⟩ := ingestItems_eq resolver providerKey resolveIdentities items store
      obtain ⟨result, ingested⟩ := Option.isSome_iff_exists.mp
        (isSome.mpr (Lib.along_imp (fun _ _ keeps => keeps.1) items kept))
      rw [step, ingested, Option.map_some, Option.getD_some, same result ingested]
      exact reached items [] (List.append_nil items).symm
  | resolveEntry entryId securityId =>
      exact iff_of_true ⟨resolveEntry_sound sound securities entryId securityId, trivial⟩ trivial
  | dismissEntry entryId =>
      rw [Admits, step, dismissEntry_sound_iff sound]
      exact and_iff_left trivial

/-- Over every run of pages and decisions, the identities are kept exactly if each item
brings free keys and identifiers that justify the link of its row, and no link rests on an
entry that is dismissed. -/
theorem keepsIdentities_iff (events : List Event) :
    KeepsIdentities resolver securities events ↔
      Lib.Along (Store.step resolver securities) (Store.Admits resolver) Store.empty events := by
  have keeps (store : Store) (event : Event) (isSound : store.Sound resolver) :=
    store.step_keeps_iff resolver securities isSound event
  apply Lib.reached_and_along_iff keeps events
  exact ⟨⟨List.nodup_nil, List.nodup_nil⟩, by simp [Store.empty], by simp [Store.empty]⟩

end Runs

/-- The pipeline knows two ISINs. -/
def twoSecurities : SecurityResolver := fun identifierType identifier =>
  if identifierType ≠ "isin" then none
  else if identifier = "US0378331005" then some { securityId := 1 }
  else if identifier = "US5949181045" then some { securityId := 2 }
  else none

/-- A story about a security in a version of its text. -/
def story (contentHash isin : String) : IntelItem where
  provider := "openbb"
  sourceId := "story-1"
  licenseClass := .freeAccess
  contentHash := contentHash
  identifiers := [("isin", isin)]

/-- The story is stored about the first security, and then it is about the second. -/
theorem changedStory_not_keepsIdentities :
    ¬ KeepsIdentities twoSecurities (fun _ => true)
      [.page "openbb" [story "first" "US0378331005"] true,
        .page "openbb" [story "second" "US5949181045"] true] := by
  intro keeps
  have justified := (keeps.1 _ [] (List.append_nil _).symm).justified
  revert justified
  decide +kernel

end FinanceSync.Intel
