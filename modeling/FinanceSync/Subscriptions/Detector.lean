import FinanceSync.Data.Values
import FinanceSync.Lib.FirstByKey
import FinanceSync.Lib.Table
import Mathlib.Data.Prod.Lex

/-!
# Subscription detector

The records of detected subscriptions, what a detection run adds to them and what
the user does with them.
-/

namespace FinanceSync.Subscriptions

open Lib

/-! ## Records -/

/-- A recurring transaction pattern identified as a subscription.  An update writes
any text as its status. -/
structure DetectedSubscription where
  id : Uuid
  tenantId : Uuid
  merchantName : String
  amount : ℚ
  status : String
  category : Option String := none
  sector : Option String := none
  detectionScore : ℚ
  userNotes : Option String := none
deriving DecidableEq

abbrev SubscriptionTable := Table DetectedSubscription DetectedSubscription.id

/-- What the analysers report about a merchant, always as an active subscription. -/
structure DetectionResult where
  merchantName : String
  amount : ℚ
  category : Option String := none
  sector : Option String := none
  detectionScore : ℚ

/-! ## Detection -/

/-- The higher score wins, ties are broken by the presence of sector data. -/
def DetectionResult.entryKey (result : DetectionResult) : ℚ ×ₗ Nat :=
  toLex (result.detectionScore, if (result.sector.filter (· ≠ "")).isSome then 1 else 0)

def better (best result : DetectionResult) : DetectionResult :=
  if best.entryKey < result.entryKey then result else best

/-- Deduplicate detection results by merchant name. -/
def deduplicateResults (results : List DetectionResult) : List DetectionResult :=
  (firsts DetectionResult.merchantName results).map fun first =>
    (results.filter fun result => result.merchantName = first.merchantName).foldl better first

/-- The statuses of the records that a detection looks for. -/
def existingStatuses : List String := ["active", "paused", "unknown"]

variable (tenantId : Uuid)

def existingMerchants (table : SubscriptionTable) : List String :=
  (table.rows.filter fun row => row.tenantId = tenantId ∧ row.status ∈ existingStatuses).map
    DetectedSubscription.merchantName

def addSubscription (table : SubscriptionTable) (data : DetectionResult) : SubscriptionTable :=
  table.insert
    { id := table.next, tenantId, merchantName := data.merchantName, amount := data.amount,
      status := "active", category := data.category, sector := data.sector,
      detectionScore := data.detectionScore } rfl

/-- The loop over the detected subscriptions. -/
def addMissing (existing : List String) (table : SubscriptionTable) :
    List DetectionResult → SubscriptionTable
  | [] => table
  | data :: rest =>
      if data.merchantName ∈ existing then addMissing existing table rest
      else addMissing existing (addSubscription tenantId table data) rest

/-- Persist detected subscriptions to the database. -/
def persistSubscriptions (table : SubscriptionTable) (detected : List DetectionResult) :
    SubscriptionTable :=
  addMissing tenantId (existingMerchants tenantId table) table detected

/-- A detection run over transactions in which the analysers find some results. -/
def detect (table : SubscriptionTable) (results : List DetectionResult) : SubscriptionTable :=
  persistSubscriptions tenantId table (deduplicateResults results)

/-! ## What the user does -/

/-- The record of the tenant with an id. -/
def ownSubscription (table : SubscriptionTable) (id : Uuid) : Option DetectedSubscription :=
  table.rows.find? fun row => row.id = id ∧ row.tenantId = tenantId

def change (table : SubscriptionTable) (id : Uuid)
    (write : DetectedSubscription → DetectedSubscription) : SubscriptionTable :=
  match ownSubscription tenantId table id with
  | some sub => table.save (write sub)
  | none => table

/-- Append to the existing notes rather than overwriting. -/
def appendNote (notes : Option String) (note : String) : String :=
  match notes.filter (· ≠ "") with
  | some existing => existing ++ "\n" ++ note
  | none => note

def withNote (mark : String) (note : Option String) (sub : DetectedSubscription) :
    DetectedSubscription :=
  { sub with
    userNotes := (note.map fun note => appendNote sub.userNotes (mark ++ note)).or sub.userNotes }

def updateSubscription (table : SubscriptionTable) (id : Uuid)
    (status category userNotes : Option String) : SubscriptionTable :=
  change tenantId table id fun sub =>
    { sub with
      status := status.getD sub.status
      category := category.or sub.category
      userNotes := userNotes.or sub.userNotes }

def confirmSubscription (table : SubscriptionTable) (id : Uuid) (userNotes : Option String) :
    SubscriptionTable :=
  change tenantId table id fun sub => withNote "[Confirmed] " userNotes { sub with status := "active" }

def ignoreSubscription (table : SubscriptionTable) (id : Uuid) (reason : Option String) :
    SubscriptionTable :=
  change tenantId table id fun sub => withNote "[Ignored] " reason { sub with status := "ignored" }

def deleteSubscription (table : SubscriptionTable) (id : Uuid) : SubscriptionTable :=
  table.keep fun row => !(row.id = id && row.tenantId = tenantId)

/-! ## Calls -/

inductive Call
  | detect (results : List DetectionResult)
  | confirm (id : Uuid) (userNotes : Option String)
  | ignore (id : Uuid) (reason : Option String)
  | update (id : Uuid) (status category userNotes : Option String)
  | delete (id : Uuid)

def serve (table : SubscriptionTable) : Call → SubscriptionTable
  | .detect results => detect tenantId table results
  | .confirm id userNotes => confirmSubscription tenantId table id userNotes
  | .ignore id reason => ignoreSubscription tenantId table id reason
  | .update id status category userNotes =>
      updateSubscription tenantId table id status category userNotes
  | .delete id => deleteSubscription tenantId table id

/-! ## Results by merchant -/

theorem merchantName_foldl_better {merchant : String} (results : List DetectionResult) :
    ∀ {best : DetectionResult}, best.merchantName = merchant →
      ((results.filter fun result => result.merchantName = merchant).foldl better
        best).merchantName = merchant := by
  induction results with
  | nil => intro best isMerchant; exact isMerchant
  | cons result rest ih =>
      intro best isMerchant
      by_cases same : result.merchantName = merchant
      · rw [List.filter_cons_of_pos (by simpa using same), List.foldl_cons]
        apply ih
        rw [better]
        split
        · exact same
        · exact isMerchant
      · rw [List.filter_cons_of_neg (by simpa using same)]
        exact ih isMerchant

/-- Every merchant of the results is kept once. -/
theorem merchants_deduplicateResults (results : List DetectionResult) :
    (deduplicateResults results).map DetectionResult.merchantName =
      (firsts DetectionResult.merchantName results).map DetectionResult.merchantName := by
  rw [deduplicateResults, List.map_map]
  apply List.map_congr_left
  intro first isMem
  exact merchantName_foldl_better results rfl

theorem nodup_merchants_deduplicateResults (results : List DetectionResult) :
    ((deduplicateResults results).map DetectionResult.merchantName).Nodup := by
  rw [merchants_deduplicateResults]
  exact nodup_keys_firsts _ results

theorem mem_merchants_deduplicateResults {results : List DetectionResult} {merchant : String} :
    merchant ∈ (deduplicateResults results).map DetectionResult.merchantName ↔
      merchant ∈ results.map DetectionResult.merchantName := by
  rw [merchants_deduplicateResults]
  exact mem_keys_firsts DetectionResult.merchantName

end FinanceSync.Subscriptions
