import Mathlib.Algebra.BigOperators.Group.List.Basic
import Mathlib.Data.Finset.Max
import Mathlib.Tactic.Abel

/-!
# Latest rows

Of rows that are only ever added, the latest of each key counts and supersedes
the others.  A sum over all rows is therefore the sum over the latest rows and
what the superseded rows add to it.
-/

namespace Lib

universe u v w

variable {Row : Type u} {Key : Type v} {Rank : Type w} [DecidableEq Key] [LinearOrder Rank]

/-- No row of the same key comes after the row. -/
def IsLatest (key : Row → Key) (rank : Row → Rank) (rows : List Row) (row : Row) : Prop :=
  ∀ other ∈ rows, key other = key row → rank other ≤ rank row

instance (key : Row → Key) (rank : Row → Rank) (rows : List Row) (row : Row) :
    Decidable (IsLatest key rank rows row) :=
  inferInstanceAs (Decidable (∀ other ∈ rows, _))

/-- The latest row of each key. -/
def latest (key : Row → Key) (rank : Row → Rank) (rows : List Row) : List Row :=
  rows.filter fun row => IsLatest key rank rows row

/-- The rows that a later row of their key has replaced. -/
def superseded (key : Row → Key) (rank : Row → Rank) (rows : List Row) : List Row :=
  rows.filter fun row => ¬ IsLatest key rank rows row

variable {key : Row → Key} {rank : Row → Rank} {rows : List Row}

theorem mem_latest {row : Row} :
    row ∈ latest key rank rows ↔ row ∈ rows ∧ IsLatest key rank rows row := by
  simp [latest]

/-- Every key that occurs has a latest row. -/
theorem exists_latest {row : Row} (isMem : row ∈ rows) :
    ∃ last ∈ latest key rank rows, key last = key row := by
  classical
  have nonempty : ((rows.filter fun other => key other = key row).toFinset).Nonempty :=
    ⟨row, by simp [isMem]⟩
  obtain ⟨last, lastMem, greatest⟩ := Finset.exists_max_image _ rank nonempty
  simp only [List.mem_toFinset, List.mem_filter, decide_eq_true_eq] at lastMem greatest
  refine ⟨last, mem_latest.mpr ⟨lastMem.1, ?_⟩, lastMem.2⟩
  intro other otherMem sameKey
  exact greatest other ⟨otherMem, sameKey.trans lastMem.2⟩

/-- Rows of one key that are both latest have the same rank. -/
theorem rank_eq_of_latest {first second : Row} (firstMem : first ∈ latest key rank rows)
    (secondMem : second ∈ latest key rank rows) (sameKey : key first = key second) :
    rank first = rank second := by
  obtain ⟨firstStored, firstLatest⟩ := mem_latest.mp firstMem
  obtain ⟨secondStored, secondLatest⟩ := mem_latest.mp secondMem
  exact le_antisymm (secondLatest first firstStored sameKey)
    (firstLatest second secondStored sameKey.symm)

section Sums

variable {M : Type*} [AddCommMonoid M] (value : Row → M)

/-- A sum over all rows counts the latest rows and those they have replaced. -/
theorem sum_eq_latest_add_superseded (key : Row → Key) (rank : Row → Rank) (rows : List Row) :
    (rows.map value).sum =
      ((latest key rank rows).map value).sum + ((superseded key rank rows).map value).sum := by
  have parts := ((List.filter_append_perm (fun row => decide (IsLatest key rank rows row))
    rows).map value).sum_eq
  rw [List.map_append, List.sum_append] at parts
  rw [← parts]
  simp [latest, superseded]

end Sums

end Lib
