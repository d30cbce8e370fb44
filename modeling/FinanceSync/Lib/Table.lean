import Mathlib.Algebra.BigOperators.Group.List.Basic
import Mathlib.Data.List.Find
import Mathlib.Data.List.Nodup
import Mathlib.Data.List.Sort
import Mathlib.Tactic.Abel

/-!
# Tables of rows with surrogate keys

A table is the list of its rows in insertion order.  Every row carries a
surrogate key, keys are never reused, and the table knows a bound above all
keys handed out so far.  Both facts travel with the rows, so a table with two
rows of one key cannot be built.

Sums over the rows are the measures of later conservation arguments; this
module says how they change when rows are inserted or saved.
-/

namespace Lib

universe u v

/-- Rows with pairwise distinct keys, all below the next key to hand out. -/
structure Table (Row : Type u) (key : Row → Nat) where
  rows : List Row
  next : Nat
  nodup : (rows.map key).Nodup
  below : ∀ row ∈ rows, key row < next

namespace Table

variable {Row : Type u} {key : Row → Nat}

/-- The table without rows. -/
def empty : Table Row key where
  rows := []
  next := 0
  nodup := List.nodup_nil
  below := by simp

/-- Change every row without changing its key. -/
def update (table : Table Row key) (change : Row → Row)
    (sameKey : ∀ row, key (change row) = key row) : Table Row key where
  rows := table.rows.map change
  next := table.next
  nodup := by
    have sameKeys : (table.rows.map change).map key = table.rows.map key := by
      rw [List.map_map]
      exact List.map_congr_left fun row _ => sameKey row
    rw [sameKeys]
    exact table.nodup
  below := by
    intro row isMem
    obtain ⟨stored, storedMem, rfl⟩ := List.mem_map.mp isMem
    rw [sameKey]
    exact table.below stored storedMem

/-- Append a row that was built with the next key. -/
def insert (table : Table Row key) (row : Row) (fresh : key row = table.next) :
    Table Row key where
  rows := table.rows ++ [row]
  next := table.next + 1
  nodup := by
    rw [List.map_append, List.nodup_append]
    refine ⟨table.nodup, List.nodup_singleton _, ?_⟩
    intro stored storedMem inserted insertedMem same
    obtain ⟨old, oldMem, rfl⟩ := List.mem_map.mp storedMem
    have keyInserted : inserted = key row := by simpa using insertedMem
    have := table.below old oldMem
    omega
  below := by
    intro stored isMem
    rcases List.mem_append.mp isMem with old | new
    · have := table.below stored old
      omega
    · have : stored = row := by simpa using new
      subst this
      omega

/-- Write a row over the stored row with its key.  A row whose key is not in
the table is not written. -/
def save (table : Table Row key) (row : Row) : Table Row key where
  rows := table.rows.map fun stored => if key stored = key row then row else stored
  next := table.next
  nodup := by
    have sameKeys :
        (table.rows.map fun stored => if key stored = key row then row else stored).map key =
          table.rows.map key := by
      rw [List.map_map]
      refine List.map_congr_left fun stored _ => ?_
      by_cases same : key stored = key row <;> simp [same]
    rw [sameKeys]
    exact table.nodup
  below := by
    intro stored isMem
    obtain ⟨old, oldMem, rfl⟩ := List.mem_map.mp isMem
    have := table.below old oldMem
    by_cases same : key old = key row
    · simp only [same, if_true]
      omega
    · simpa only [same, if_false] using this

/-- Save several rows one after the other. -/
def saveAll (table : Table Row key) (rows : List Row) : Table Row key :=
  rows.foldl save table

/-- Remove every row that does not meet the condition. -/
def keep (table : Table Row key) (condition : Row → Bool) : Table Row key where
  rows := table.rows.filter condition
  next := table.next
  nodup := (List.filter_sublist.map key).nodup table.nodup
  below := fun row isMem => table.below row (List.mem_filter.mp isMem).1

@[simp] theorem rows_empty : (empty : Table Row key).rows = [] := rfl

@[simp] theorem rows_insert (table : Table Row key) (row : Row)
    (fresh : key row = table.next) :
    (table.insert row fresh).rows = table.rows ++ [row] := rfl

@[simp] theorem saveAll_nil (table : Table Row key) : table.saveAll [] = table := rfl

@[simp] theorem saveAll_cons (table : Table Row key) (row : Row) (rows : List Row) :
    table.saveAll (row :: rows) = (table.save row).saveAll rows := rfl

/-! ## Membership -/

/-- Two stored rows with one key are the same row. -/
theorem eq_of_key_eq (table : Table Row key) {first second : Row}
    (firstMem : first ∈ table.rows) (secondMem : second ∈ table.rows)
    (same : key first = key second) : first = second :=
  List.inj_on_of_nodup_map table.nodup firstMem secondMem same

/-- Exactly one row has the key of a stored one. -/
theorem length_filter_key_ne {rows : List Row} (nodup : (rows.map key).Nodup) {row : Row}
    (stored : row ∈ rows) : (rows.filter fun other => key other ≠ key row).length + 1 =
      rows.length := by
  have once : rows.countP (fun other => key other = key row) = 1 := by
    have counted := List.count_eq_one_of_mem nodup (List.mem_map_of_mem (f := key) stored)
    rw [List.count, List.countP_map] at counted
    exact counted
  have others : (rows.filter fun other => key other ≠ key row).length =
      rows.countP fun other => ¬ decide (key other = key row) = true := by
    rw [List.countP_eq_length_filter]
    simp only [decide_eq_true_eq]
  rw [others, Nat.add_comm, ← once]
  exact (List.length_eq_countP_add_countP _).symm

theorem mem_save_of_key_ne (table : Table Row key) {row stored : Row}
    (isMem : stored ∈ table.rows) (ne : key stored ≠ key row) :
    stored ∈ (table.save row).rows :=
  List.mem_map.mpr ⟨stored, isMem, if_neg ne⟩

/-- A stored row is a saved row or was there before under another key. -/
theorem mem_save {table : Table Row key} {row stored : Row}
    (isMem : stored ∈ (table.save row).rows) :
    stored = row ∨ stored ∈ table.rows := by
  obtain ⟨old, oldMem, rfl⟩ := List.mem_map.mp isMem
  by_cases same : key old = key row
  · exact Or.inl (if_pos same)
  · right
    simpa only [same, if_false] using oldMem

/-- The rows after a save of a stored key are the saved row and those of the other keys. -/
theorem mem_save_iff {table : Table Row key} {old row : Row} (stored : old ∈ table.rows)
    (same : key old = key row) {other : Row} :
    other ∈ (table.save row).rows ↔ other = row ∨ other ∈ table.rows ∧ key other ≠ key row := by
  rw [save, List.mem_map]
  constructor
  · rintro ⟨before, beforeMem, rfl⟩
    split
    · exact .inl rfl
    · next ne => exact .inr ⟨beforeMem, ne⟩
  · rintro (rfl | ⟨isMem, ne⟩)
    · exact ⟨old, stored, if_pos same⟩
    · exact ⟨other, isMem, if_neg ne⟩

theorem keys_save (table : Table Row key) (row : Row) :
    (table.save row).rows.map key = table.rows.map key := by
  rw [save, List.map_map]
  refine List.map_congr_left fun stored _ => ?_
  by_cases same : key stored = key row <;> simp [same]

/-- Saving a row as it is stored changes nothing. -/
theorem save_of_mem {table : Table Row key} {row : Row} (stored : row ∈ table.rows) :
    table.save row = table := by
  have sameRows : (table.rows.map fun other => if key other = key row then row else other) =
      table.rows := by
    conv_rhs => rw [← List.map_id table.rows]
    apply List.map_congr_left
    intro other otherMem
    split
    · next same => exact (table.eq_of_key_eq otherMem stored same).symm
    · rfl
  cases table
  simpa only [save, mk.injEq, and_true] using sameRows

/-- A row that is found under a condition is found again after a new version of it
was saved that meets the condition. -/
theorem find?_save {table : Table Row key} {row stored : Row} {condition : Row → Bool}
    (found : table.rows.find? condition = some stored) (same : key stored = key row)
    (meets : condition row = true) : (table.save row).rows.find? condition = some row := by
  have agrees : ∀ other ∈ table.rows,
      (condition ∘ fun other => if key other = key row then row else other) other =
        condition other := by
    intro other otherMem
    by_cases sameKey : key other = key row
    · have isStored := table.eq_of_key_eq otherMem (List.mem_of_find?_eq_some found)
        (sameKey.trans same.symm)
      rw [Function.comp_apply, if_pos sameKey, meets, isStored, List.find?_some found]
    · rw [Function.comp_apply, if_neg sameKey]
  rw [save, List.find?_map, List.find?_congr agrees, found, Option.map_some, if_pos same]

/-- Saving a new version of a row keeps a second key unique exactly if no other row has the
new value of it. -/
theorem nodup_map_save_iff {Other : Type v} {table : Table Row key} {old row : Row}
    (stored : old ∈ table.rows) (same : key old = key row) {other : Row → Other}
    (nodup : (table.rows.map other).Nodup) :
    ((table.save row).rows.map other).Nodup ↔
      ∀ second ∈ table.rows, other second = other row → key second = key row := by
  rw [save, List.map_map, List.nodup_map_iff_inj_on (List.Nodup.of_map _ nodup)]
  simp only [Function.comp_apply]
  constructor
  · intro injective second secondMem clash
    by_contra ne
    have sameRow := injective second secondMem old stored
    rw [if_neg ne, if_pos same] at sameRow
    exact ne (sameRow clash ▸ same)
  · intro free first firstMem second secondMem clash
    split at clash
    · next firstKey =>
        split at clash
        · next secondKey =>
            exact table.eq_of_key_eq firstMem secondMem (firstKey.trans secondKey.symm)
        · next secondKey => exact absurd (free second secondMem clash.symm) secondKey
    · next firstKey =>
        split at clash
        · exact absurd (free first firstMem clash) firstKey
        · exact List.inj_on_of_nodup_map nodup firstMem secondMem clash

theorem mem_saveAll_of_key_ne (rows : List Row) :
    ∀ {table : Table Row key} {stored : Row}, stored ∈ table.rows →
      (∀ row ∈ rows, key stored ≠ key row) → stored ∈ (table.saveAll rows).rows := by
  induction rows with
  | nil =>
      intro table stored isMem _
      exact isMem
  | cons row rest ih =>
      intro table stored isMem ne
      apply ih
      · exact mem_save_of_key_ne table isMem (ne row List.mem_cons_self)
      · exact fun other otherMem => ne other (List.mem_cons_of_mem _ otherMem)

/-- New versions of different stored rows are all there after they were saved. -/
theorem mem_saveAll (rows : List Row) :
    ∀ {table : Table Row key}, (rows.map key).Nodup →
      (∀ row ∈ rows, key row ∈ table.rows.map key) →
      ∀ row ∈ rows, row ∈ (table.saveAll rows).rows := by
  induction rows with
  | nil =>
      intro table _ _ row isMem
      exact absurd isMem List.not_mem_nil
  | cons first rest ih =>
      intro table nodup stored row isMem
      rw [List.map_cons, List.nodup_cons] at nodup
      rcases List.mem_cons.mp isMem with rfl | later
      · obtain ⟨old, oldMem, same⟩ := List.mem_map.mp (stored row List.mem_cons_self)
        rw [saveAll_cons]
        apply mem_saveAll_of_key_ne rest
        · exact (mem_save_iff oldMem same).mpr (.inl rfl)
        · intro other otherMem clash
          exact nodup.1 (clash ▸ List.mem_map_of_mem otherMem)
      · apply ih nodup.2 _ row later
        intro other otherMem
        rw [keys_save]
        exact stored other (List.mem_cons_of_mem _ otherMem)

theorem forall_save {table : Table Row key} {row : Row} {property : Row → Prop}
    (old : ∀ stored ∈ table.rows, property stored) (new : property row) :
    ∀ stored ∈ (table.save row).rows, property stored := by
  intro stored isMem
  rcases mem_save isMem with rfl | isMem
  · exact new
  · exact old stored isMem

/-- What all stored rows and all saved rows have in common still holds of every
row after saving them. -/
theorem forall_saveAll {property : Row → Prop} (rows : List Row) :
    ∀ {table : Table Row key}, (∀ stored ∈ table.rows, property stored) →
      (∀ row ∈ rows, property row) →
      ∀ stored ∈ (table.saveAll rows).rows, property stored := by
  induction rows with
  | nil =>
      intro table old _
      exact old
  | cons row rest ih =>
      intro table old new
      exact ih
        (forall_save old (new row List.mem_cons_self))
        (fun saved savedMem => new saved (List.mem_cons_of_mem _ savedMem))

/-- Appending a row keeps a second key unique exactly if no row has its value of it. -/
theorem nodup_map_insert_iff {Other : Type v} {table : Table Row key} {row : Row}
    (fresh : key row = table.next) {other : Row → Other}
    (nodup : (table.rows.map other).Nodup) :
    ((table.insert row fresh).rows.map other).Nodup ↔
      ∀ stored ∈ table.rows, other stored ≠ other row := by
  rw [rows_insert, List.map_append, List.nodup_append, and_iff_right nodup]
  simp

theorem forall_insert {table : Table Row key} {row : Row} {property : Row → Prop}
    (fresh : key row = table.next) (old : ∀ stored ∈ table.rows, property stored)
    (new : property row) :
    ∀ stored ∈ (table.insert row fresh).rows, property stored := by
  intro stored isMem
  rcases List.mem_append.mp isMem with isMem | isMem
  · exact old stored isMem
  · have : stored = row := by simpa using isMem
    exact this ▸ new

/-! ## Sums over the rows -/

variable {M : Type v} [AddCommGroup M]

/-- The sum of a measure over all rows. -/
def sum (table : Table Row key) (measure : Row → M) : M :=
  (table.rows.map measure).sum

@[simp] theorem sum_empty (measure : Row → M) :
    (empty : Table Row key).sum measure = 0 := rfl

theorem sum_insert (table : Table Row key) (row : Row) (fresh : key row = table.next)
    (measure : Row → M) :
    (table.insert row fresh).sum measure = table.sum measure + measure row := by
  simp [sum]

private theorem sum_map_replace (rows : List Row) (nodup : (rows.map key).Nodup)
    {old row : Row} (oldMem : old ∈ rows) (same : key row = key old)
    (measure : Row → M) :
    ((rows.map fun stored => if key stored = key row then row else stored).map measure).sum =
      (rows.map measure).sum + (measure row - measure old) := by
  induction rows with
  | nil => simp at oldMem
  | cons head rest ih =>
      rw [List.map_cons, List.nodup_cons] at nodup
      by_cases atHead : key head = key row
      · have headIsOld : old = head := by
          rcases List.mem_cons.mp oldMem with here | inRest
          · exact here
          · have inKeys : key old ∈ rest.map key := List.mem_map_of_mem inRest
            rw [← same, ← atHead] at inKeys
            exact absurd inKeys nodup.1
        have restUnchanged :
            (rest.map fun stored => if key stored = key row then row else stored) = rest := by
          conv_rhs => rw [← List.map_id rest]
          refine List.map_congr_left fun stored storedMem => if_neg fun clash => ?_
          exact nodup.1 (by rw [atHead, ← clash]; exact List.mem_map_of_mem storedMem)
        subst headIsOld
        simp only [List.map_cons, atHead, if_true, restUnchanged, List.sum_cons]
        abel
      · have oldInRest : old ∈ rest := by
          rcases List.mem_cons.mp oldMem with here | inRest
          · exact absurd (here ▸ same.symm) atHead
          · exact inRest
        simp only [List.map_cons, atHead, if_false, List.sum_cons,
          ih nodup.2 oldInRest]
        abel

private theorem sum_map_at (rows : List Row) (nodup : (rows.map key).Nodup) {row : Row}
    (stored : row ∈ rows) (measure : Row → M) :
    (rows.map fun other => if key other = key row then measure other else 0).sum =
      measure row := by
  induction rows with
  | nil => simp at stored
  | cons head rest ih =>
      rw [List.map_cons, List.nodup_cons] at nodup
      rw [List.map_cons, List.sum_cons]
      cases List.mem_cons.mp stored with
      | inl here =>
          have nothingElse : (rest.map fun other =>
              if key other = key row then measure other else 0).sum = 0 := by
            apply List.sum_eq_zero
            intro value valueMem
            obtain ⟨other, otherMem, rfl⟩ := List.mem_map.mp valueMem
            apply if_neg
            intro clash
            exact nodup.1 (by rw [← here, ← clash]; exact List.mem_map_of_mem otherMem)
          rw [nothingElse, add_zero, ← here, if_pos rfl]
      | inr inRest =>
          have ne : key head ≠ key row := fun clash =>
            nodup.1 (by rw [clash]; exact List.mem_map_of_mem inRest)
          rw [if_neg ne, zero_add, ih nodup.2 inRest]

/-- A sum over the rows with the key of a stored row is what that row adds. -/
theorem sum_at (table : Table Row key) {row : Row} (stored : row ∈ table.rows)
    (measure : Row → M) :
    (table.sum fun other => if key other = key row then measure other else 0) =
      measure row :=
  sum_map_at table.rows table.nodup stored measure

/-- Saving a row changes a sum by the difference to the row it replaces. -/
theorem sum_save (table : Table Row key) {old row : Row} (oldMem : old ∈ table.rows)
    (same : key row = key old) (measure : Row → M) :
    (table.save row).sum measure = table.sum measure + (measure row - measure old) :=
  sum_map_replace table.rows table.nodup oldMem same measure

/-- Saving new versions of distinct stored rows changes a sum by the sum of the
differences. -/
theorem sum_saveAll (measure : Row → M) (changes : List (Row × Row)) :
    ∀ (table : Table Row key), (∀ change ∈ changes, change.1 ∈ table.rows) →
      (∀ change ∈ changes, key change.2 = key change.1) →
      (changes.map fun change => key change.1).Nodup →
      (table.saveAll (changes.map Prod.snd)).sum measure =
        table.sum measure +
          (changes.map fun change => measure change.2 - measure change.1).sum := by
  induction changes with
  | nil =>
      intro table _ _ _
      simp
  | cons change rest ih =>
      intro table stored sameKey nodup
      rw [List.map_cons, List.nodup_cons] at nodup
      have headKey := sameKey change List.mem_cons_self
      have restStored : ∀ other ∈ rest, other.1 ∈ (table.save change.2).rows := by
        intro other otherMem
        refine table.mem_save_of_key_ne (stored other (List.mem_cons_of_mem _ otherMem)) ?_
        intro clash
        refine nodup.1 ?_
        rw [← headKey, ← clash]
        exact List.mem_map_of_mem (f := fun change : Row × Row => key change.1) otherMem
      have restSum := ih (table.save change.2) restStored
        (fun other otherMem => sameKey other (List.mem_cons_of_mem _ otherMem)) nodup.2
      simp only [List.map_cons, saveAll_cons, List.sum_cons]
      rw [restSum, table.sum_save (stored change List.mem_cons_self) headKey measure]
      abel

end Table

/-! ## Orders chosen by a database -/

/-- What `ORDER BY key` promises: a rearrangement of the rows with ascending
keys.  Which of two rows with equal keys comes first is left open. -/
structure OrderBy {Row : Type u} {Key : Type v} [LE Key] (key : Row → Key) where
  sort : List Row → List Row
  perm : ∀ rows, (sort rows).Perm rows
  ascending : ∀ rows, (sort rows).Pairwise fun first second => key first ≤ key second

namespace OrderBy

variable {Row : Type u} {Key : Type v} [LinearOrder Key] {key : Row → Key}

@[simp] theorem mem_sort (order : OrderBy key) {rows : List Row} {row : Row} :
    row ∈ order.sort rows ↔ row ∈ rows :=
  (order.perm rows).mem_iff

/-- The order that keeps rows with equal keys as they were. -/
def stable (key : Row → Key) : OrderBy key where
  sort := List.insertionSort fun first second => key first ≤ key second
  perm := fun rows => List.perm_insertionSort _ rows
  ascending := by
    intro rows
    have total : Std.Total fun first second : Row => key first ≤ key second :=
      ⟨fun first second => le_total _ _⟩
    have transitive : IsTrans Row fun first second => key first ≤ key second :=
      ⟨fun _ _ _ => le_trans⟩
    exact List.pairwise_insertionSort _ rows

/-- Rows with distinct keys have one order only. -/
theorem sort_eq_of_ascending (order : OrderBy key) {rows sorted : List Row}
    (nodup : (rows.map key).Nodup) (perm : sorted.Perm rows)
    (ascending : sorted.Pairwise fun first second => key first ≤ key second) :
    order.sort rows = sorted := by
  refine List.Perm.eq_of_pairwise ?_ (order.ascending rows) ascending
    ((order.perm rows).trans perm.symm)
  intro first second firstMem secondMem below above
  exact List.inj_on_of_nodup_map nodup (order.mem_sort.mp firstMem) (perm.mem_iff.mp secondMem)
    (le_antisymm below above)

theorem sort_eq (order other : OrderBy key) {rows : List Row} (nodup : (rows.map key).Nodup) :
    order.sort rows = other.sort rows :=
  order.sort_eq_of_ascending nodup (other.perm rows) (other.ascending rows)

end OrderBy

end Lib
