import Mathlib.Algebra.GroupWithZero.Nat
import Mathlib.Data.List.Nodup
import Mathlib.Data.List.Perm.Basic

/-!
# Counting rows by several queries

A total over several queries counts a row once for each query that finds it.
-/

namespace Lib

universe u

variable {Row : Type u}

/-- The rows that the queries find, each as often as it is found. -/
def found (rows : List Row) (queries : List (Row → Bool)) : List Row :=
  queries.flatMap fun query => rows.filter query

theorem length_found (rows : List Row) (queries : List (Row → Bool)) :
    (found rows queries).length = (queries.map fun query => rows.countP query).sum := by
  rw [found, List.length_flatMap]
  simp only [List.countP_eq_length_filter]

section Count

variable [DecidableEq Row]

theorem count_found {rows : List Row} (nodup : rows.Nodup) (queries : List (Row → Bool))
    {row : Row} (isMem : row ∈ rows) :
    (found rows queries).count row = queries.countP (· row) := by
  induction queries with
  | nil => rfl
  | cons query rest ih =>
      have once : (rows.filter query).count row = if query row then 1 else 0 := by
        rw [List.Nodup.count (nodup.filter query)]
        simp [isMem]
      have cons : found rows (query :: rest) = rows.filter query ++ found rows rest := rfl
      rw [cons, List.count_append, once, ih, List.countP_cons, Nat.add_comm]

/-- The queries find exactly the rows of a condition, each once. -/
theorem found_perm_filter_iff {rows : List Row} (nodup : rows.Nodup)
    {queries : List (Row → Bool)} {condition : Row → Bool} :
    (found rows queries).Perm (rows.filter condition) ↔
      ∀ row ∈ rows, queries.countP (· row) = if condition row then 1 else 0 := by
  rw [List.perm_iff_count]
  constructor
  · intro sameCount row isMem
    rw [← count_found nodup queries isMem, sameCount row,
      List.Nodup.count (nodup.filter condition)]
    simp [isMem]
  · intro sameCount row
    by_cases isMem : row ∈ rows
    · rw [count_found nodup queries isMem, sameCount row isMem,
        List.Nodup.count (nodup.filter condition)]
      simp [isMem]
    · rw [List.count_eq_zero.mpr, List.count_eq_zero.mpr]
      · exact fun isFiltered => isMem (List.mem_filter.mp isFiltered).1
      · intro isFound
        obtain ⟨_, _, isFiltered⟩ := List.mem_flatMap.mp isFound
        exact isMem (List.mem_filter.mp isFiltered).1

end Count

end Lib
