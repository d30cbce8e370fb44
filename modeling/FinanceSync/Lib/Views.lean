import FinanceSync.Lib.Table

/-!
# Views of a table

A view is the rows that a condition lets through, in their order.  Writes to rows
outside a view leave it as it is, and writes to its rows can be read off the view
alone; sorting and cutting off after a number of rows can be done in it.
-/

namespace Lib

universe u v

variable {Row : Type u}

/-- A view of a view. -/
theorem filter_filter_of_imp {wide narrow : Row → Bool} (rows : List Row)
    (imp : ∀ row ∈ rows, narrow row → wide row) :
    (rows.filter wide).filter narrow = rows.filter narrow := by
  rw [List.filter_filter]
  apply List.filter_congr
  intro row isMem
  cases isNarrow : narrow row with
  | false => rfl
  | true => simp [imp row isMem isNarrow]

/-- The first rows of a list are those of the view, if they all are in it. -/
theorem take_filter_of_forall {visible : Row → Bool} {count : Nat} (rows : List Row)
    (all : ∀ row ∈ rows.take count, visible row) :
    (rows.filter visible).take count = rows.take count := by
  induction rows generalizing count with
  | nil => rfl
  | cons row rest ih =>
      cases count with
      | zero => rfl
      | succ count =>
          rw [List.take_succ_cons] at all
          have isVisible := all row List.mem_cons_self
          have restVisible : ∀ other ∈ rest.take count, visible other :=
            fun other isMem => all other (List.mem_cons_of_mem _ isMem)
          rw [List.filter_cons_of_pos isVisible, List.take_succ_cons, List.take_succ_cons,
            ih restVisible]

/-- What is found among rows with one view is the same, if it is in the view. -/
theorem find?_of_views {first second : List Row} {firstVisible secondVisible condition : Row → Bool}
    (views : first.filter firstVisible = second.filter secondVisible)
    (firstInView : ∀ row ∈ first, condition row → firstVisible row)
    (secondInView : ∀ row ∈ second, condition row → secondVisible row) :
    first.find? condition = second.find? condition := by
  have found : ∀ {rows : List Row} {visible : Row → Bool},
      (∀ row ∈ rows, condition row → visible row) →
      (rows.filter visible).find? condition = rows.find? condition := by
    intro rows visible inView
    rw [← List.head?_filter, ← List.head?_filter, filter_filter_of_imp rows inView]
  rw [← found firstInView, ← found secondInView, views]

/-! ## Sorting -/

section Sorting

variable {Key : Type v} [LinearOrder Key] {key : Row → Key}

private theorem filter_orderedInsert (visible : Row → Bool) (row : Row) (rows : List Row)
    (sorted : rows.Pairwise fun first second => key first ≤ key second) :
    (rows.orderedInsert (fun first second => key first ≤ key second) row).filter visible =
      if visible row then
        (rows.filter visible).orderedInsert (fun first second => key first ≤ key second) row
      else rows.filter visible := by
  induction rows with
  | nil => cases isVisible : visible row <;> simp [isVisible]
  | cons first rest ih =>
      rw [List.pairwise_cons] at sorted
      rw [List.orderedInsert_cons]
      split
      · next before =>
          cases isVisible : visible row with
          | false => simp [isVisible]
          | true =>
              rw [List.filter_cons_of_pos isVisible, if_pos rfl]
              -- the row stands before all that are visible
              cases found : (first :: rest).filter visible with
              | nil => rfl
              | cons head tail =>
                  have headMem : head ∈ first :: rest := by
                    apply List.mem_of_mem_filter
                    rw [found]
                    exact List.mem_cons_self
                  have headAfter : key row ≤ key head := by
                    rcases List.mem_cons.mp headMem with same | inRest
                    · rw [same]
                      exact before
                    · exact before.trans (sorted.1 head inRest)
                  rw [List.orderedInsert_cons_of_le _ tail headAfter]
      · next after =>
          have inRest := ih sorted.2
          cases firstVisible : visible first with
          | true =>
              rw [List.filter_cons_of_pos firstVisible, List.filter_cons_of_pos firstVisible,
                inRest]
              split
              · exact (List.orderedInsert_of_not_le (r := fun one other => key one ≤ key other) _
                  after).symm
              · rfl
          | false =>
              rw [List.filter_cons_of_neg (by simp [firstVisible]),
                List.filter_cons_of_neg (by simp [firstVisible]), inRest]

/-- A view of the sorted rows is the sorted view. -/
theorem OrderBy.filter_stable {visible : Row → Bool} (rows : List Row) :
    ((OrderBy.stable key).sort rows).filter visible =
      (OrderBy.stable key).sort (rows.filter visible) := by
  induction rows with
  | nil => rfl
  | cons row rest ih =>
      have sorted := (OrderBy.stable key).ascending rest
      have inserted := filter_orderedInsert visible row
        ((OrderBy.stable key).sort rest) sorted
      rw [ih] at inserted
      cases isVisible : visible row with
      | true =>
          rw [List.filter_cons_of_pos isVisible]
          rw [isVisible, if_pos rfl] at inserted
          exact inserted
      | false =>
          rw [List.filter_cons_of_neg (by simp [isVisible])]
          rw [isVisible, if_neg (by simp)] at inserted
          exact inserted

end Sorting

/-! ## Writes -/

namespace Table

variable {key : Row → Nat} {visible : Row → Bool}

/-- The row that is found is the only one with its key. -/
theorem find?_eq_some {table : Table Row key} {condition : Row → Bool} {row : Row}
    (isMem : row ∈ table.rows) (isFound : condition row)
    (byKey : ∀ other ∈ table.rows, condition other → key other = key row) :
    table.rows.find? condition = some row := by
  cases found : table.rows.find? condition with
  | none => exact absurd isFound (List.find?_eq_none.mp found row isMem)
  | some other =>
      have otherMem := List.mem_of_find?_eq_some found
      have sameKey := byKey other otherMem (List.find?_some found)
      rw [table.eq_of_key_eq otherMem isMem sameKey]

/-- Saving a row that stays in a view, or out of it, can be done in the view. -/
theorem filter_save {table : Table Row key} {old row : Row} (oldMem : old ∈ table.rows)
    (same : key row = key old) (sameView : visible row = visible old) :
    (table.save row).rows.filter visible =
      (table.rows.filter visible).map fun stored =>
        if key stored = key row then row else stored := by
  rw [save, List.filter_map]
  congr 1
  apply List.filter_congr
  intro stored storedMem
  rw [Function.comp_apply]
  split
  · next clash =>
      rw [table.eq_of_key_eq storedMem oldMem (clash.trans same), sameView]
  · rfl

/-- Saving a row outside a view leaves the view as it is. -/
theorem filter_save_of_hidden {table : Table Row key} {old row : Row}
    (oldMem : old ∈ table.rows) (same : key row = key old) (hidden : visible old = false)
    (stillHidden : visible row = false) :
    (table.save row).rows.filter visible = table.rows.filter visible := by
  rw [filter_save oldMem same (stillHidden.trans hidden.symm)]
  conv_rhs => rw [← List.map_id (table.rows.filter visible)]
  apply List.map_congr_left
  intro stored storedMem
  rw [List.mem_filter] at storedMem
  apply if_neg
  intro clash
  rw [table.eq_of_key_eq storedMem.1 oldMem (clash.trans same), hidden] at storedMem
  exact Bool.noConfusion storedMem.2

end Table

end Lib
