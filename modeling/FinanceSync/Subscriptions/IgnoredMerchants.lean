import FinanceSync.Lib.Run
import FinanceSync.Subscriptions.Detector

/-!
# Ignored merchants

A merchant should have one record at most that is not ignored, and no detection
should add a record for a merchant with an ignored one.  The detection looks for
active, paused and unknown records only, so this holds along a run exactly if no
detection finds a merchant that has other records alone, and no record is taken up
again next to another one.
-/

namespace FinanceSync.Subscriptions

open Lib

variable (tenantId : Uuid)

/-- A record of the tenant that is not ignored. -/
def IsLive (row : DetectedSubscription) : Prop :=
  row.tenantId = tenantId ∧ row.status ≠ "ignored"

/-- At most one record per merchant is not ignored. -/
def AtMostOne (table : SubscriptionTable) : Prop :=
  ∀ first ∈ table.rows, ∀ second ∈ table.rows, IsLive tenantId first → IsLive tenantId second →
    first.merchantName = second.merchantName → first = second

/-- A detection adds no record for a merchant that has an ignored one. -/
def StaysIgnored (table : SubscriptionTable) : Call → Prop
  | .detect results =>
      ∀ created ∈ (detect tenantId table results).rows, created ∉ table.rows →
        ∀ row ∈ table.rows, row.tenantId = tenantId → row.status = "ignored" →
          row.merchantName ≠ created.merchantName
  | _ => True

/-- The merchant has a record that a detection looks for, or none at all. -/
def IsRecognised (table : SubscriptionTable) (merchant : String) : Prop :=
  (∃ row ∈ table.rows, row.tenantId = tenantId ∧ row.merchantName = merchant ∧
      row.status ∈ existingStatuses) ∨
    ∀ row ∈ table.rows, row.tenantId = tenantId → row.merchantName ≠ merchant

/-- The record with the id, if it is ignored and taken up again, is the only one of
its merchant that is not ignored. -/
def MayBeTakenUp (table : SubscriptionTable) (id : Uuid) : Prop :=
  ∀ sub ∈ table.rows, sub.id = id → sub.tenantId = tenantId → sub.status = "ignored" →
    ∀ row ∈ table.rows, IsLive tenantId row → row.merchantName ≠ sub.merchantName

/-- The call leaves every merchant with one record that is not ignored at most, and
ignored merchants alone. -/
def IsSafe (table : SubscriptionTable) : Call → Prop
  | .detect results =>
      ∀ result ∈ results, IsRecognised tenantId table result.merchantName
  | .confirm id _ => MayBeTakenUp tenantId table id
  | .update id status _ _ =>
      (∃ text ∈ status, text ≠ "ignored") → MayBeTakenUp tenantId table id
  | .ignore _ _ => True
  | .delete _ => True

/-! ## Adding records -/

section Adding

variable {tenantId} {table : SubscriptionTable}

theorem mem_existingMerchants {merchant : String} :
    merchant ∈ existingMerchants tenantId table ↔ ∃ row ∈ table.rows,
      row.tenantId = tenantId ∧ row.merchantName = merchant ∧ row.status ∈ existingStatuses := by
  simp only [existingMerchants, List.mem_map, List.mem_filter, decide_eq_true_eq]
  constructor
  · rintro ⟨row, ⟨isMem, own, known⟩, same⟩
    exact ⟨row, isMem, own, same, known⟩
  · rintro ⟨row, isMem, own, same, known⟩
    exact ⟨row, ⟨isMem, own, known⟩, same⟩

/-- A record can be added exactly if the merchant has none that is not ignored. -/
theorem atMostOne_addSubscription_iff (atMostOne : AtMostOne tenantId table)
    (data : DetectionResult) :
    AtMostOne tenantId (addSubscription tenantId table data) ↔
      ∀ row ∈ table.rows, IsLive tenantId row → row.merchantName ≠ data.merchantName := by
  have added : ∃ sub : DetectedSubscription, sub.id = table.next ∧ IsLive tenantId sub ∧
      sub.merchantName = data.merchantName ∧
      (addSubscription tenantId table data).rows = table.rows ++ [sub] :=
    ⟨_, rfl, ⟨rfl, show "active" ≠ "ignored" by decide⟩, rfl, rfl⟩
  obtain ⟨sub, isNew, isLive, merchant, rows⟩ := added
  rw [AtMostOne, rows]
  constructor
  · intro unique row isMem rowLive same
    have isSub := unique row (List.mem_append_left _ isMem) sub (by simp) rowLive isLive
      (same.trans merchant.symm)
    have below := table.below row isMem
    rw [isSub, isNew] at below
    exact lt_irrefl _ below
  · intro free first firstMem second secondMem firstLive secondLive same
    rw [List.mem_append, List.mem_singleton] at firstMem secondMem
    cases firstMem with
    | inl firstOld =>
        cases secondMem with
        | inl secondOld => exact atMostOne first firstOld second secondOld firstLive secondLive same
        | inr secondNew =>
            subst secondNew
            exact absurd (same.trans merchant) (free first firstOld firstLive)
    | inr firstNew =>
        subst firstNew
        cases secondMem with
        | inl secondOld =>
            exact absurd (same.symm.trans merchant) (free second secondOld secondLive)
        | inr secondNew => exact secondNew.symm

variable (tenantId table) in
theorem rows_addSubscription (data : DetectionResult) :
    ∃ sub : DetectedSubscription, sub.id = table.next ∧ sub.merchantName = data.merchantName ∧
      (addSubscription tenantId table data).rows = table.rows ++ [sub] :=
  ⟨_, rfl, rfl, rfl⟩

theorem mem_addMissing_of_mem (existing : List String) (detected : List DetectionResult) :
    ∀ {table : SubscriptionTable}, ∀ row ∈ table.rows,
      row ∈ (addMissing tenantId existing table detected).rows := by
  induction detected with
  | nil => intro table row isMem; exact isMem
  | cons data rest ih =>
      intro table row isMem
      rw [addMissing]
      split
      · exact ih row isMem
      · apply ih
        exact List.mem_append_left _ isMem

/-- The records that are added are of the merchants that have not been found. -/
theorem mem_addMissing (existing : List String) (detected : List DetectionResult) :
    ∀ {table : SubscriptionTable} {row : DetectedSubscription},
      row ∈ (addMissing tenantId existing table detected).rows →
        row ∈ table.rows ∨ table.next ≤ row.id ∧ ∃ data ∈ detected,
          data.merchantName ∉ existing ∧ row.merchantName = data.merchantName := by
  induction detected with
  | nil => intro table row isMem; exact .inl isMem
  | cons data rest ih =>
      intro table row isMem
      rw [addMissing] at isMem
      split at isMem
      · cases ih isMem with
        | inl old => exact .inl old
        | inr new =>
            obtain ⟨fresh, other, otherMem, missing, same⟩ := new
            exact .inr ⟨fresh, other, List.mem_cons_of_mem _ otherMem, missing, same⟩
      · next missing =>
          obtain ⟨sub, isNew, merchant, rows⟩ := rows_addSubscription tenantId table data
          cases ih isMem with
          | inl old =>
              rw [rows, List.mem_append, List.mem_singleton] at old
              cases old with
              | inl old => exact .inl old
              | inr isSub =>
                  subst isSub
                  exact .inr ⟨isNew.ge, data, by simp, missing, merchant⟩
          | inr new =>
              obtain ⟨fresh, other, otherMem, missing, same⟩ := new
              exact .inr ⟨(Nat.le_succ _).trans fresh, other, List.mem_cons_of_mem _ otherMem,
                missing, same⟩

variable (tenantId) in
/-- Every merchant that has not been found gets a new record. -/
theorem exists_mem_addMissing (existing : List String) {data : DetectionResult}
    (missing : data.merchantName ∉ existing) (detected : List DetectionResult) :
    ∀ table : SubscriptionTable, data ∈ detected →
      ∃ row ∈ (addMissing tenantId existing table detected).rows,
        table.next ≤ row.id ∧ row.merchantName = data.merchantName := by
  induction detected with
  | nil => intro table isMem; simp at isMem
  | cons first rest ih =>
      intro table isMem
      rw [addMissing]
      cases List.mem_cons.mp isMem with
      | inl isFirst =>
          subst isFirst
          rw [if_neg missing]
          obtain ⟨sub, isNew, merchant, rows⟩ := rows_addSubscription tenantId table data
          refine ⟨sub, mem_addMissing_of_mem existing rest sub ?_, isNew.ge, merchant⟩
          rw [rows]
          exact List.mem_append_right _ (List.mem_singleton_self sub)
      | inr later =>
          split
          · exact ih table later
          · obtain ⟨row, added, fresh, same⟩ :=
              ih (addSubscription tenantId table first) later
            exact ⟨row, added, (Nat.le_succ _).trans fresh, same⟩

/-- Of distinct merchants, each needs to be free of records that are not ignored. -/
theorem atMostOne_addMissing_iff (existing : List String) (detected : List DetectionResult) :
    ∀ {table : SubscriptionTable}, (detected.map DetectionResult.merchantName).Nodup →
      AtMostOne tenantId table →
      (AtMostOne tenantId (addMissing tenantId existing table detected) ↔
        ∀ data ∈ detected, data.merchantName ∉ existing →
          ∀ row ∈ table.rows, IsLive tenantId row → row.merchantName ≠ data.merchantName) := by
  induction detected with
  | nil => intro table _ atMostOne; simpa [addMissing] using atMostOne
  | cons data rest ih =>
      intro table distinct atMostOne
      rw [List.map_cons, List.nodup_cons] at distinct
      rw [addMissing, List.forall_mem_cons]
      split
      · next found =>
          rw [ih distinct.2 atMostOne]
          exact ⟨fun free => ⟨fun missing => absurd found missing, free⟩, And.right⟩
      · next missing =>
          obtain ⟨sub, -, merchant, rows⟩ := rows_addSubscription tenantId table data
          constructor
          · intro unique
            have here : AtMostOne tenantId (addSubscription tenantId table data) := by
              intro first firstMem second secondMem
              exact unique first (mem_addMissing_of_mem existing rest first firstMem)
                second (mem_addMissing_of_mem existing rest second secondMem)
            refine ⟨fun _ => (atMostOne_addSubscription_iff atMostOne data).mp here, ?_⟩
            intro other otherMem otherMissing row rowMem
            apply (ih distinct.2 here).mp unique other otherMem otherMissing
            rw [rows]
            exact List.mem_append_left _ rowMem
          · rintro ⟨free, others⟩
            have here := (atMostOne_addSubscription_iff atMostOne data).mpr (free missing)
            rw [ih distinct.2 here, rows]
            intro other otherMem otherMissing row rowMem rowLive
            cases List.mem_append.mp rowMem with
            | inl old => exact others other otherMem otherMissing row old rowLive
            | inr new =>
                rw [List.mem_singleton.mp new, merchant]
                intro same
                exact distinct.1 (List.mem_map.mpr ⟨other, otherMem, same.symm⟩)

end Adding

/-! ## Calls -/

section Calls

variable {tenantId} {table : SubscriptionTable}

/-- The merchants of a detection that have not been found, before duplicates go. -/
theorem forall_missing_iff {results : List DetectionResult} (property : String → Prop) :
    (∀ data ∈ deduplicateResults results,
        data.merchantName ∉ existingMerchants tenantId table → property data.merchantName) ↔
      ∀ result ∈ results,
        result.merchantName ∉ existingMerchants tenantId table → property result.merchantName := by
  have merchants : ∀ {list : List DetectionResult}, (∀ data ∈ list,
      data.merchantName ∉ existingMerchants tenantId table → property data.merchantName) ↔
      ∀ merchant ∈ list.map DetectionResult.merchantName,
        merchant ∉ existingMerchants tenantId table → property merchant := by
    intro list
    rw [List.forall_mem_map]
  rw [merchants, merchants]
  simp only [mem_merchants_deduplicateResults]

theorem atMostOne_detect_iff (atMostOne : AtMostOne tenantId table)
    (results : List DetectionResult) :
    AtMostOne tenantId (detect tenantId table results) ↔
      ∀ result ∈ results, result.merchantName ∉ existingMerchants tenantId table →
        ∀ row ∈ table.rows, IsLive tenantId row → row.merchantName ≠ result.merchantName := by
  rw [detect, persistSubscriptions,
    atMostOne_addMissing_iff _ _ (nodup_merchants_deduplicateResults results) atMostOne]
  exact forall_missing_iff fun merchant =>
    ∀ row ∈ table.rows, IsLive tenantId row → row.merchantName ≠ merchant

theorem staysIgnored_detect_iff (results : List DetectionResult) :
    StaysIgnored tenantId table (.detect results) ↔
      ∀ result ∈ results, result.merchantName ∉ existingMerchants tenantId table →
        ∀ row ∈ table.rows, row.tenantId = tenantId → row.status = "ignored" →
          row.merchantName ≠ result.merchantName := by
  rw [← forall_missing_iff fun merchant => ∀ row ∈ table.rows, row.tenantId = tenantId →
    row.status = "ignored" → row.merchantName ≠ merchant, StaysIgnored, detect,
    persistSubscriptions]
  constructor
  · intro stays data dataMem missing row rowMem own ignored same
    obtain ⟨created, createdMem, fresh, merchant⟩ :=
      exists_mem_addMissing tenantId _ missing _ table dataMem
    have isNew : created ∉ table.rows :=
      fun old => absurd (table.below created old) (not_lt.mpr fresh)
    exact stays created createdMem isNew row rowMem own ignored (same.trans merchant.symm)
  · intro free created createdMem isNew row rowMem own ignored
    cases mem_addMissing _ _ createdMem with
    | inl old => exact absurd old isNew
    | inr new =>
        obtain ⟨-, data, dataMem, missing, merchant⟩ := new
        rw [merchant]
        exact free data dataMem missing row rowMem own ignored

/-- A detection is safe exactly if it adds nothing for a merchant with records. -/
theorem isSafe_detect_iff (results : List DetectionResult) :
    IsSafe tenantId table (.detect results) ↔
      (∀ result ∈ results, result.merchantName ∉ existingMerchants tenantId table →
        ∀ row ∈ table.rows, IsLive tenantId row → row.merchantName ≠ result.merchantName) ∧
      ∀ result ∈ results, result.merchantName ∉ existingMerchants tenantId table →
        ∀ row ∈ table.rows, row.tenantId = tenantId → row.status = "ignored" →
          row.merchantName ≠ result.merchantName := by
  simp only [IsSafe, IsRecognised, ← mem_existingMerchants, or_iff_not_imp_left]
  constructor
  · intro safe
    exact ⟨fun result isMem missing row rowMem live =>
        safe result isMem missing row rowMem live.1,
      fun result isMem missing row rowMem own _ =>
        safe result isMem missing row rowMem own⟩
  · rintro ⟨live, ignored⟩ result isMem missing row rowMem own
    by_cases isIgnored : row.status = "ignored"
    · exact ignored result isMem missing row rowMem own isIgnored
    · exact live result isMem missing row rowMem ⟨own, isIgnored⟩

theorem mem_of_ownSubscription {id : Uuid} {sub : DetectedSubscription}
    (found : ownSubscription tenantId table id = some sub) :
    sub ∈ table.rows ∧ sub.id = id ∧ sub.tenantId = tenantId := by
  have named := List.find?_some found
  rw [decide_eq_true_iff] at named
  exact ⟨List.mem_of_find?_eq_some found, named⟩

/-- A change of one record that keeps its tenant and its merchant. -/
theorem atMostOne_save_iff (atMostOne : AtMostOne tenantId table)
    {sub changed : DetectedSubscription} (stored : sub ∈ table.rows) (own : sub.tenantId = tenantId)
    (sameId : changed.id = sub.id) (sameTenant : changed.tenantId = sub.tenantId)
    (sameMerchant : changed.merchantName = sub.merchantName) :
    AtMostOne tenantId (table.save changed) ↔
      (changed.status ≠ "ignored" → sub.status = "ignored" →
        ∀ row ∈ table.rows, IsLive tenantId row → row.merchantName ≠ sub.merchantName) := by
  have written : changed ∈ (table.save changed).rows :=
    List.mem_map.mpr ⟨sub, stored, if_pos sameId.symm⟩
  constructor
  · intro unique isLive wasIgnored row rowMem rowLive same
    have other : row.id ≠ changed.id := by
      intro sameRow
      have isSub := table.eq_of_key_eq rowMem stored (sameRow.trans sameId)
      exact rowLive.2 (isSub ▸ wasIgnored)
    have isChanged := unique row (table.mem_save_of_key_ne rowMem other) changed written rowLive
      ⟨sameTenant.trans own, isLive⟩ (same.trans sameMerchant.symm)
    exact other (congrArg DetectedSubscription.id isChanged)
  · intro free
    have alone : ∀ row ∈ table.rows, row.id ≠ changed.id → IsLive tenantId row →
        IsLive tenantId changed → row.merchantName ≠ changed.merchantName := by
      intro row rowMem other rowLive changedLive
      rw [sameMerchant]
      by_cases wasIgnored : sub.status = "ignored"
      · exact free changedLive.2 wasIgnored row rowMem rowLive
      · intro same
        have isSub := atMostOne row rowMem sub stored rowLive ⟨own, wasIgnored⟩ same
        exact other ((congrArg DetectedSubscription.id isSub).trans sameId.symm)
    have kept : ∀ row ∈ (table.save changed).rows,
        row = changed ∨ row ∈ table.rows ∧ row.id ≠ changed.id := by
      intro row isMem
      by_cases sameRow : row.id = changed.id
      · exact .inl ((table.save changed).eq_of_key_eq isMem written sameRow)
      · cases Table.mem_save isMem with
        | inl new => exact .inl new
        | inr old => exact .inr ⟨old, sameRow⟩
    intro first firstMem second secondMem firstLive secondLive same
    cases kept first firstMem with
    | inl firstNew =>
        subst firstNew
        cases kept second secondMem with
        | inl secondNew => exact secondNew.symm
        | inr secondOld =>
            exact absurd same.symm (alone second secondOld.1 secondOld.2 secondLive firstLive)
    | inr firstOld =>
        cases kept second secondMem with
        | inl secondNew =>
            subst secondNew
            exact absurd same (alone first firstOld.1 firstOld.2 firstLive secondLive)
        | inr secondOld =>
            exact atMostOne first firstOld.1 second secondOld.1 firstLive secondLive same

/-- A change that keeps the tenant and the merchant of the record with the id. -/
theorem atMostOne_change_iff (atMostOne : AtMostOne tenantId table) (id : Uuid)
    {write : DetectedSubscription → DetectedSubscription}
    (same : ∀ sub, (write sub).id = sub.id ∧ (write sub).tenantId = sub.tenantId ∧
      (write sub).merchantName = sub.merchantName) :
    AtMostOne tenantId (change tenantId table id write) ↔
      ∀ sub ∈ table.rows, sub.id = id → sub.tenantId = tenantId →
        (write sub).status ≠ "ignored" → sub.status = "ignored" →
          ∀ row ∈ table.rows, IsLive tenantId row → row.merchantName ≠ sub.merchantName := by
  rw [change]
  cases found : ownSubscription tenantId table id with
  | none =>
      have noSub := List.find?_eq_none.mp found
      constructor
      · intro _ sub isMem named own
        exact absurd (decide_eq_true ⟨named, own⟩) (noSub sub isMem)
      · intro _
        exact atMostOne
  | some sub =>
      obtain ⟨stored, named, own⟩ := mem_of_ownSubscription found
      obtain ⟨sameId, sameTenant, sameMerchant⟩ := same sub
      dsimp only
      rw [atMostOne_save_iff atMostOne stored own sameId sameTenant sameMerchant]
      constructor
      · intro free other isMem otherNamed _
        rw [table.eq_of_key_eq isMem stored (otherNamed.trans named.symm)]
        exact free
      · intro free
        exact free sub stored named own

/-- What one call keeps of the invariant, and whether it leaves ignored merchants
alone. -/
theorem serve_iff_isSafe (atMostOne : AtMostOne tenantId table) (call : Call) :
    AtMostOne tenantId (serve tenantId table call) ∧ StaysIgnored tenantId table call ↔
      IsSafe tenantId table call := by
  cases call with
  | detect results =>
      rw [serve, atMostOne_detect_iff atMostOne, staysIgnored_detect_iff, isSafe_detect_iff]
  | confirm id userNotes =>
      rw [and_iff_left (show StaysIgnored tenantId table (.confirm id userNotes) from trivial),
        serve, confirmSubscription, atMostOne_change_iff atMostOne id, IsSafe, MayBeTakenUp]
      · have active : "active" ≠ "ignored" := by decide
        simp [withNote, active]
      · exact fun sub => ⟨rfl, rfl, rfl⟩
  | ignore id reason =>
      rw [and_iff_left (show StaysIgnored tenantId table (.ignore id reason) from trivial),
        serve, ignoreSubscription, atMostOne_change_iff atMostOne id, IsSafe]
      · simp [withNote]
      · exact fun sub => ⟨rfl, rfl, rfl⟩
  | update id status category userNotes =>
      rw [and_iff_left
          (show StaysIgnored tenantId table (.update id status category userNotes) from trivial),
        serve, updateSubscription, atMostOne_change_iff atMostOne id, IsSafe, MayBeTakenUp]
      · cases status with
        | none =>
            constructor
            · rintro _ ⟨text, isText, -⟩
              cases isText
            · intro _ sub _ _ _ taken ignored
              exact absurd ignored taken
        | some text =>
            constructor
            · rintro free ⟨given, isText, taken⟩ sub isMem named own
              cases isText
              exact free sub isMem named own taken
            · intro free sub isMem named own taken
              exact free ⟨text, rfl, taken⟩ sub isMem named own
      · exact fun sub => ⟨rfl, rfl, rfl⟩
  | delete id =>
      rw [and_iff_left (show StaysIgnored tenantId table (.delete id) from trivial), IsSafe,
        iff_true, serve]
      intro first firstMem second secondMem
      exact atMostOne first (List.mem_filter.mp firstMem).1 second (List.mem_filter.mp secondMem).1

end Calls

/-! ## Runs -/

/-- Along every run of calls, merchants keep one record that is not ignored at most
and ignored merchants stay ignored, exactly if every call is safe. -/
theorem ignoredStays_iff (table : SubscriptionTable) (atMostOne : AtMostOne tenantId table)
    (calls : List Call) :
    ((∀ before after, calls = before ++ after →
        AtMostOne tenantId (runAll (serve tenantId) table before)) ∧
      ∀ before call after, calls = before ++ call :: after →
        StaysIgnored tenantId (runAll (serve tenantId) table before) call) ↔
      Along (serve tenantId) (IsSafe tenantId) table calls := by
  rw [← along_iff_forall]
  apply reached_and_along_iff _ calls atMostOne
  intro table call holds
  exact serve_iff_isSafe holds call

/-! ## A streaming subscription -/

/-- What a detection finds about a streaming service. -/
def streaming : DetectionResult where
  merchantName := "streaming"
  amount := -10
  category := some "streaming"
  detectionScore := 9 / 10

theorem atMostOne_empty : AtMostOne tenantId .empty := by
  intro first firstMem
  simp at firstMem

/-- An ignored record that is deleted may be detected anew. -/
theorem ignoredStays_iff_streaming :
    (∀ before after, [Call.detect [streaming], .ignore 0 none, .delete 0, .detect [streaming]] =
        before ++ after → AtMostOne 1 (runAll (serve 1) .empty before)) ∧
      ∀ before call after,
        [Call.detect [streaming], .ignore 0 none, .delete 0, .detect [streaming]] =
          before ++ call :: after → StaysIgnored 1 (runAll (serve 1) .empty before) call := by
  apply (ignoredStays_iff 1 .empty (atMostOne_empty 1) _).mpr
  refine ⟨?_, trivial, trivial, ?_, trivial⟩
  · intro result isMem
    exact .inr (by simp)
  · intro result isMem
    have gone : (runAll (serve 1) .empty
        [Call.detect [streaming], .ignore 0 none, .delete 0]).rows = [] := by decide +kernel
    refine .inr fun row rowMem => ?_
    exact absurd (gone ▸ rowMem : row ∈ []) List.not_mem_nil

/-- An ignored subscription comes back with the next detection. -/
theorem streaming_comesBack :
    ¬ ∀ (tenantId : Uuid) (calls : List Call),
      (∀ before after, calls = before ++ after →
          AtMostOne tenantId (runAll (serve tenantId) .empty before)) ∧
        ∀ before call after, calls = before ++ call :: after →
          StaysIgnored tenantId (runAll (serve tenantId) .empty before) call := by
  intro claim
  have stays := (claim 1 [.detect [streaming], .ignore 0 none, .detect [streaming]]).2
    [.detect [streaming], .ignore 0 none] (.detect [streaming]) [] rfl
  revert stays
  unfold StaysIgnored
  decide +kernel

end FinanceSync.Subscriptions
