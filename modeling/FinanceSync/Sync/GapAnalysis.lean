import FinanceSync.Lib.Grouping
import FinanceSync.Persistence.Canonical
import Mathlib.Algebra.Order.BigOperators.Group.List

/-!
# Gap analysis of two data sets

`detect_missing` compares two lists of canonical transactions by a key.  It
reports the transactions whose key the other side does not have at all, and
counts the others as matched as far as they can be paired; the surplus copies of
a key that both sides have are in neither.
-/

namespace FinanceSync.Sync

open Lib

/-- A canonical transaction with the account it belongs to. -/
structure AccountTransaction extends Persistence.CanonicalTransactionData where
  externalAccountId : String

/-- A transaction that exists in one data set but is absent from another. -/
structure MissingTransaction where
  externalTransactionId : String
  providerKey : String
  accountId : Option String := none
  amount : Decimal
  currencyCode : String := "EUR"
  occurredAt : Option Persistence.AwareDatetime := none
  description : Option String := none
  transactionType : Option String := none
  status : Option String := none
  source : Option String := none

/-- Build a `MissingTransaction` from a canonical data model. -/
def MissingTransaction.fromCanonical (source : String) (txn : AccountTransaction) :
    MissingTransaction where
  externalTransactionId := txn.externalTransactionId
  providerKey := txn.providerKey
  accountId := some txn.externalAccountId
  amount := txn.amount
  currencyCode := txn.currencyCode
  occurredAt := some txn.occurredAt
  description := txn.description
  transactionType := some txn.transactionType
  status := some txn.status
  source := some source

/-- Summary of a cross-connector gap analysis. -/
structure MissingResult where
  inANotB : List MissingTransaction := []
  inBNotA : List MissingTransaction := []
  matchedCount : Nat := 0
  totalA : Nat := 0
  totalB : Nat := 0

/-- The order in which a set is read. -/
structure SetOrder (Key : Type) where
  read : List Key → List Key
  perm : ∀ keys, (read keys).Perm keys

section Detect

variable {Key : Type} [DecidableEq Key] (key : AccountTransaction → Key)

/-- The keys of `map_a` or `map_b`, as a set. -/
def keysOf (rows : List AccountTransaction) : List Key := (rows.map key).eraseDups

/-- The transactions under a key of `map_a` or `map_b`. -/
def withKey (rows : List AccountTransaction) (wanted : Key) : List AccountTransaction :=
  rows.filter fun txn => key txn = wanted

/-- The transactions of one side whose keys the other side does not have. -/
def missingFrom (order : SetOrder Key) (source : String)
    (rows others : List AccountTransaction) : List MissingTransaction :=
  (order.read ((keysOf key rows).filter (· ∉ keysOf key others))).flatMap fun wanted =>
    (withKey key rows wanted).map (.fromCanonical source)

/-- Find transactions present in one data set but missing from the other. -/
def detectMissing (order : SetOrder Key) (connectorA connectorB : List AccountTransaction) :
    MissingResult :=
  if connectorA.isEmpty && connectorB.isEmpty then {}
  else
    let commonKeys := order.read ((keysOf key connectorA).filter (· ∈ keysOf key connectorB))
    { inANotB := missingFrom key order "a" connectorA connectorB
      inBNotA := missingFrom key order "b" connectorB connectorA
      matchedCount := (commonKeys.map fun wanted =>
        min (withKey key connectorA wanted).length (withKey key connectorB wanted).length).sum
      totalA := connectorA.length
      totalB := connectorB.length }

end Detect

/-- The finding as the other side would report it. -/
def MissingTransaction.onSide (source : String) (missing : MissingTransaction) :
    MissingTransaction :=
  { missing with source := some source }

/-- What a gap analysis promises: it accounts for every transaction of both sides
once, and with the sides swapped it finds the same on the other side. -/
structure LosesNothing {Key : Type} [DecidableEq Key] (key : AccountTransaction → Key)
    (order : SetOrder Key) (connectorA connectorB : List AccountTransaction) : Prop where
  sideA : (detectMissing key order connectorA connectorB).matchedCount +
      (detectMissing key order connectorA connectorB).inANotB.length =
    (detectMissing key order connectorA connectorB).totalA
  sideB : (detectMissing key order connectorA connectorB).matchedCount +
      (detectMissing key order connectorA connectorB).inBNotA.length =
    (detectMissing key order connectorA connectorB).totalB
  totals : (detectMissing key order connectorA connectorB).totalA = connectorA.length ∧
    (detectMissing key order connectorA connectorB).totalB = connectorB.length
  swapped : ∀ again : SetOrder Key,
    ((detectMissing key again connectorB connectorA).inANotB.map (.onSide "b")).Perm
        (detectMissing key order connectorA connectorB).inBNotA ∧
      ((detectMissing key again connectorB connectorA).inBNotA.map (.onSide "a")).Perm
        (detectMissing key order connectorA connectorB).inANotB

section Counts

variable {Key : Type} [DecidableEq Key] {key : AccountTransaction → Key}

theorem mem_keysOf {rows : List AccountTransaction} {wanted : Key} :
    wanted ∈ keysOf key rows ↔ wanted ∈ rows.map key :=
  List.mem_eraseDups

theorem nodup_keysOf (rows : List AccountTransaction) : (keysOf key rows).Nodup :=
  nodup_eraseDups _

theorem length_withKey (rows : List AccountTransaction) (wanted : Key) :
    (withKey key rows wanted).length = (rows.map key).count wanted := by
  rw [withKey, List.count, List.countP_map, List.countP_eq_length_filter]
  rfl

/-- The transactions of a side, counted by key. -/
theorem sum_withKey (rows : List AccountTransaction) :
    ((keysOf key rows).map fun wanted => (withKey key rows wanted).length).sum =
      rows.length := by
  have regrouped := (flatMap_filter_perm key rows).length_eq
  rw [List.length_flatMap] at regrouped
  exact regrouped

/-- What is paired is at most what there is, and all of it only if each key has enough
partners. -/
theorem sum_min_eq_iff {Index : Type} (indices : List Index) (own other : Index → Nat) :
    (indices.map fun index => min (own index) (other index)).sum ≤ (indices.map own).sum ∧
      ((indices.map fun index => min (own index) (other index)).sum = (indices.map own).sum ↔
        ∀ index ∈ indices, own index ≤ other index) := by
  induction indices with
  | nil => simp
  | cons index rest ih =>
      obtain ⟨bound, exactly⟩ := ih
      simp only [List.map_cons, List.sum_cons, List.forall_mem_cons, ← exactly]
      omega

theorem length_missingFrom (order : SetOrder Key) (source : String)
    (rows others : List AccountTransaction) :
    (missingFrom key order source rows others).length =
      (((keysOf key rows).filter (· ∉ keysOf key others)).map fun wanted =>
        (withKey key rows wanted).length).sum := by
  rw [missingFrom, List.length_flatMap]
  simp only [List.length_map]
  exact ((order.perm _).map _).sum_eq

/-- A side is accounted for once exactly if every key of both sides has a partner for each
of its copies. -/
theorem side_iff (key : AccountTransaction → Key) (order : SetOrder Key) (source : String)
    (rows others : List AccountTransaction) :
    (((keysOf key rows).filter (· ∈ keysOf key others)).map fun wanted =>
        min (withKey key rows wanted).length (withKey key others wanted).length).sum +
      (missingFrom key order source rows others).length = rows.length ↔
    ∀ wanted, wanted ∈ rows.map key → wanted ∈ others.map key →
      (rows.map key).count wanted ≤ (others.map key).count wanted := by
  have parts := (List.filter_append_perm (fun wanted => decide (wanted ∈ keysOf key others))
    (keysOf key rows)).map fun wanted => (withKey key rows wanted).length
  have whole := parts.sum_eq
  rw [List.map_append, List.sum_append, sum_withKey] at whole
  have paired := (sum_min_eq_iff ((keysOf key rows).filter (· ∈ keysOf key others))
    (fun wanted => (withKey key rows wanted).length)
    fun wanted => (withKey key others wanted).length).2
  rw [length_missingFrom, ← whole]
  simp only [decide_not, Nat.add_right_cancel_iff]
  rw [paired]
  simp only [List.mem_filter, decide_eq_true_eq, mem_keysOf, length_withKey, and_imp]

/-! ## The two sides -/

theorem onSide_fromCanonical (source other : String) (txn : AccountTransaction) :
    (MissingTransaction.fromCanonical other txn).onSide source = .fromCanonical source txn :=
  rfl

theorem missingFrom_onSide (order again : SetOrder Key) (source other : String)
    (rows others : List AccountTransaction) :
    ((missingFrom key again other rows others).map (.onSide source)).Perm
      (missingFrom key order source rows others) := by
  simp only [missingFrom, List.map_flatMap, List.map_map, Function.comp_def, onSide_fromCanonical]
  exact ((again.perm _).trans (order.perm _).symm).flatMap_right _

theorem missingFrom_nil (order : SetOrder Key) (source : String)
    (others : List AccountTransaction) : missingFrom key order source [] others = [] := by
  have nothing : order.read [] = [] := (order.perm []).eq_nil
  simp [missingFrom, keysOf, nothing]

/-- Two empty data sets are no special case. -/
theorem detectMissing_eq (key : AccountTransaction → Key) (order : SetOrder Key)
    (connectorA connectorB : List AccountTransaction) :
    (detectMissing key order connectorA connectorB).inANotB =
        missingFrom key order "a" connectorA connectorB ∧
      (detectMissing key order connectorA connectorB).inBNotA =
        missingFrom key order "b" connectorB connectorA ∧
      (detectMissing key order connectorA connectorB).matchedCount =
        (((keysOf key connectorA).filter (· ∈ keysOf key connectorB)).map fun wanted =>
          min (withKey key connectorA wanted).length
            (withKey key connectorB wanted).length).sum ∧
      (detectMissing key order connectorA connectorB).totalA = connectorA.length ∧
      (detectMissing key order connectorA connectorB).totalB = connectorB.length := by
  unfold detectMissing
  split
  · next empty =>
      rw [Bool.and_eq_true, List.isEmpty_iff, List.isEmpty_iff] at empty
      rw [empty.1, empty.2]
      refine ⟨?_, ?_, rfl, rfl, rfl⟩
      · exact (missingFrom_nil order "a" []).symm
      · exact (missingFrom_nil order "b" []).symm
  · exact ⟨rfl, rfl, ((order.perm _).map _).sum_eq, rfl, rfl⟩

/-- The pairs are the same from either side. -/
theorem matched_swap (rows others : List AccountTransaction) :
    (((keysOf key rows).filter (· ∈ keysOf key others)).map fun wanted =>
        min (withKey key rows wanted).length (withKey key others wanted).length).sum =
      (((keysOf key others).filter (· ∈ keysOf key rows)).map fun wanted =>
        min (withKey key others wanted).length (withKey key rows wanted).length).sum := by
  have sameKeys : ((keysOf key rows).filter (· ∈ keysOf key others)).Perm
      ((keysOf key others).filter (· ∈ keysOf key rows)) := by
    rw [List.perm_ext_iff_of_nodup ((nodup_keysOf rows).filter _) ((nodup_keysOf others).filter _)]
    intro wanted
    simp [and_comm]
  simp only [min_comm]
  exact (sameKeys.map _).sum_eq

end Counts

/-- A set that is read in the order in which it was filled. -/
def SetOrder.filled (Key : Type) : SetOrder Key where
  read := id
  perm := fun _ => .refl _

def payment (externalTransactionId : String) : AccountTransaction where
  providerKey := "bunq"
  externalTransactionId := externalTransactionId
  externalAccountId := "main"
  amount := ⟨-5, 0⟩
  occurredAt := ⟨0, 0⟩
  transactionType := "payment"

end FinanceSync.Sync
