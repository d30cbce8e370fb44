import FinanceSync.Lib.Table
import Mathlib.Data.List.AList
import Mathlib.Data.List.Induction

/-!
# Pairs by position and the map of partners

Two lists are paired position by position, and each row of a pair is written under
the key of its partner.  Where no row is in two pairs, the map is symmetric and its
entries are the pairs.
-/

namespace Lib

universe u v

/-! ## Pairs of a zip -/

section Zip

variable {Left : Type u} {Right : Type v}

/-- An entry that occurs once is in one pair only. -/
theorem zip_left_unique {left : List Left} (nodup : left.Nodup) {right : List Right}
    {first second : Left × Right} (firstMem : first ∈ left.zip right)
    (secondMem : second ∈ left.zip right) (same : first.1 = second.1) : first = second := by
  obtain ⟨place, below, rfl⟩ := List.mem_iff_getElem.mp firstMem
  obtain ⟨other, otherBelow, rfl⟩ := List.mem_iff_getElem.mp secondMem
  rw [List.getElem_zip, List.getElem_zip] at same
  have samePlace : place = other := (List.Nodup.getElem_inj_iff nodup).mp same
  subst samePlace
  rfl

theorem zip_right_unique {left : List Left} {right : List Right} (nodup : right.Nodup)
    {first second : Left × Right} (firstMem : first ∈ left.zip right)
    (secondMem : second ∈ left.zip right) (same : first.2 = second.2) : first = second := by
  obtain ⟨place, below, rfl⟩ := List.mem_iff_getElem.mp firstMem
  obtain ⟨other, otherBelow, rfl⟩ := List.mem_iff_getElem.mp secondMem
  rw [List.getElem_zip, List.getElem_zip] at same
  have samePlace : place = other := (List.Nodup.getElem_inj_iff nodup).mp same
  subst samePlace
  rfl

/-- Where a side has one entry at most, only the heads are paired. -/
theorem mem_zip_iff_head? {left : List Left} {right : List Right}
    (single : left.length ≤ 1 ∨ right.length ≤ 1) {first : Left} {second : Right} :
    (first, second) ∈ left.zip right ↔ left.head? = some first ∧ right.head? = some second := by
  cases left with
  | nil => simp
  | cons head rest =>
      cases right with
      | nil => simp
      | cons other others =>
          have noRest : rest.zip others = [] := by
            rcases single with single | single
            · rw [List.length_eq_zero_iff.mp (Nat.le_zero.mp (Nat.le_of_succ_le_succ single)),
                List.zip_nil_left]
            · rw [List.length_eq_zero_iff.mp (Nat.le_zero.mp (Nat.le_of_succ_le_succ single)),
                List.zip_nil_right]
          rw [List.zip_cons_cons, noRest, List.mem_singleton, Prod.mk.injEq, List.head?_cons,
            List.head?_cons, Option.some.injEq, Option.some.injEq, eq_comm, @eq_comm _ second]

theorem length_le_one_of_eq {entries : List Left} (nodup : entries.Nodup) {entry : Left}
    (same : ∀ other ∈ entries, other = entry) : entries.length ≤ 1 := by
  cases entries with
  | nil => exact Nat.zero_le _
  | cons first rest =>
      cases rest with
      | nil => exact le_rfl
      | cons second rest =>
          have equal := (same first List.mem_cons_self).trans
            (same second (List.mem_cons_of_mem _ List.mem_cons_self)).symm
          rw [equal, List.nodup_cons] at nodup
          exact absurd List.mem_cons_self nodup.1

/-- Rows paired by position with the ids of those that have one: each row stands with
its own id exactly if no row without an id stands before a row with one. -/
theorem zip_created_iff {created : Left → Option Right} {rows : List Left} (nodup : rows.Nodup) :
    (∀ pair ∈ rows.zip (rows.filterMap created), created pair.1 = some pair.2) ↔
      rows.Pairwise fun earlier later => (created later).isSome → (created earlier).isSome := by
  induction rows with
  | nil => simp
  | cons row rest ih =>
      rw [List.nodup_cons] at nodup
      cases outcome : created row with
      | some identifier =>
          rw [List.filterMap_cons_some outcome, List.zip_cons_cons, List.forall_mem_cons,
            ih nodup.2, List.pairwise_cons]
          simp [outcome]
      | none =>
          rw [List.filterMap_cons_none outcome, List.pairwise_cons]
          cases ids : rest.filterMap created with
          | nil =>
              have noId : ∀ later ∈ rest, created later = none := List.filterMap_eq_nil_iff.mp ids
              have unordered : rest.Pairwise fun earlier later =>
                  (created later).isSome → (created earlier).isSome :=
                List.pairwise_of_forall_mem_list fun _ _ later laterMem => by
                  simp [noId later laterMem]
              simp +contextual [noId, unordered]
          | cons identifier ids' =>
              have created : ∃ later ∈ rest, created later = some identifier :=
                List.mem_filterMap.mp (ids ▸ List.mem_cons_self)
              rcases created with ⟨later, laterMem, hasId⟩
              constructor
              · intro right
                have wrong := right (row, identifier) List.mem_cons_self
                simp [outcome] at wrong
              · rintro ⟨first, -⟩
                have wrong := first later laterMem (by simp [hasId])
                simp [outcome] at wrong

end Zip

/-- The first row of an order is the one with the least key. -/
theorem OrderBy.head?_sort_iff {Row : Type u} {Key : Type v} [LinearOrder Key] {key : Row → Key}
    (order : OrderBy key) {rows : List Row} (nodup : (rows.map key).Nodup) {row : Row}
    (isMem : row ∈ rows) :
    (order.sort rows).head? = some row ↔ ∀ other ∈ rows, key row ≤ key other := by
  have ascending := order.ascending rows
  have sameRows (other : Row) : other ∈ order.sort rows ↔ other ∈ rows := order.mem_sort
  generalize order.sort rows = sorted at ascending sameRows
  cases sorted with
  | nil => exact absurd ((sameRows row).mpr isMem) List.not_mem_nil
  | cons head rest =>
      have headMem := (sameRows head).mp List.mem_cons_self
      have least : ∀ other ∈ rows, key head ≤ key other := by
        intro other otherMem
        rcases List.mem_cons.mp ((sameRows other).mpr otherMem) with rfl | later
        · exact le_rfl
        · exact List.rel_of_pairwise_cons ascending later
      rw [List.head?_cons, Option.some.injEq]
      constructor
      · rintro rfl
        exact least
      · intro isLeast
        exact List.inj_on_of_nodup_map nodup headMem isMem
          (le_antisymm (least row isMem) (isLeast head headMem))

/-! ## The map of partners -/

section Partners

variable {Row : Type u} {Key : Type v} (key : Row → Key)

/-- The partner of each row of a pair, by the key of the row. -/
def partners [DecidableEq Key] (pairs : List (Row × Row)) : AList fun _ : Key => Row :=
  pairs.foldl (fun map (first, second) =>
    (map.insert (key first) second).insert (key second) first) ∅

/-- No row is in two pairs, nor twice in one. -/
structure Apart (pairs : List (Row × Row)) : Prop where
  left : ∀ pair ∈ pairs, ∀ other ∈ pairs, key pair.1 = key other.1 → pair = other
  right : ∀ pair ∈ pairs, ∀ other ∈ pairs, key pair.2 = key other.2 → pair = other
  sides : ∀ pair ∈ pairs, ∀ other ∈ pairs, key pair.1 ≠ key other.2

variable {key} {pairs : List (Row × Row)}

theorem Apart.mono {fewer : List (Row × Row)} (apart : Apart key pairs)
    (inside : ∀ pair ∈ fewer, pair ∈ pairs) : Apart key fewer where
  left pair pairMem other otherMem := apart.left pair (inside pair pairMem) other
    (inside other otherMem)
  right pair pairMem other otherMem := apart.right pair (inside pair pairMem) other
    (inside other otherMem)
  sides pair pairMem other otherMem := apart.sides pair (inside pair pairMem) other
    (inside other otherMem)

variable [DecidableEq Key]

/-- The entries of the map are the pairs, from either side. -/
theorem lookup_partners (apart : Apart key pairs) {wanted : Key} {row : Row} :
    (partners key pairs).lookup wanted = some row ↔
      ∃ pair ∈ pairs, key pair.1 = wanted ∧ pair.2 = row ∨ key pair.2 = wanted ∧ pair.1 = row := by
  induction pairs using List.reverseRecOn generalizing row with
  | nil => simp [partners]
  | append_singleton before pair ih =>
      have lastMem : pair ∈ before ++ [pair] := by simp
      have earlier : ∀ other ∈ before, other ∈ before ++ [pair] :=
        fun other => List.mem_append_left _
      rw [partners, List.foldl_append, List.foldl_cons, List.foldl_nil]
      by_cases atSecond : wanted = key pair.2
      · subst atSecond
        rw [AList.lookup_insert, Option.some.injEq]
        constructor
        · rintro rfl
          exact ⟨pair, lastMem, .inr ⟨rfl, rfl⟩⟩
        · rintro ⟨other, otherMem, ⟨atFirst, -⟩ | ⟨same, rfl⟩⟩
          · exact absurd atFirst (apart.sides other otherMem pair lastMem)
          · rw [apart.right other otherMem pair lastMem same]
      · rw [AList.lookup_insert_ne atSecond]
        by_cases atFirst : wanted = key pair.1
        · subst atFirst
          rw [AList.lookup_insert, Option.some.injEq]
          constructor
          · rintro rfl
            exact ⟨pair, lastMem, .inl ⟨rfl, rfl⟩⟩
          · rintro ⟨other, otherMem, ⟨same, rfl⟩ | ⟨same, -⟩⟩
            · rw [apart.left other otherMem pair lastMem same]
            · exact absurd same.symm (apart.sides pair lastMem other otherMem)
        · rw [AList.lookup_insert_ne atFirst]
          refine (ih (apart.mono earlier)).trans ⟨?_, ?_⟩
          · rintro ⟨other, otherMem, isPair⟩
            exact ⟨other, earlier other otherMem, isPair⟩
          · rintro ⟨other, otherMem, isPair⟩
            rcases List.mem_append.mp otherMem with old | new
            · exact ⟨other, old, isPair⟩
            · rw [List.mem_singleton.mp new] at isPair
              rcases isPair with ⟨same, -⟩ | ⟨same, -⟩
              · exact absurd same.symm atFirst
              · exact absurd same.symm atSecond

/-- The partner of the partner of a row is the row. -/
theorem partners_symmetric (apart : Apart key pairs) {wanted : Key} {row : Row}
    (paired : (partners key pairs).lookup wanted = some row) :
    ∃ other, key other = wanted ∧ (partners key pairs).lookup (key row) = some other := by
  obtain ⟨pair, pairMem, ⟨isKey, rfl⟩ | ⟨isKey, rfl⟩⟩ := (lookup_partners apart).mp paired
  · exact ⟨pair.1, isKey, (lookup_partners apart).mpr ⟨pair, pairMem, .inr ⟨rfl, rfl⟩⟩⟩
  · exact ⟨pair.2, isKey, (lookup_partners apart).mpr ⟨pair, pairMem, .inl ⟨rfl, rfl⟩⟩⟩

/-- Two rows have no partner in common. -/
theorem partners_injective (apart : Apart key pairs) {first second : Key} {row : Row}
    (firstPaired : (partners key pairs).lookup first = some row)
    (secondPaired : (partners key pairs).lookup second = some row) : first = second := by
  obtain ⟨other, rfl, back⟩ := partners_symmetric apart firstPaired
  obtain ⟨another, rfl, again⟩ := partners_symmetric apart secondPaired
  rw [back, Option.some.injEq] at again
  rw [again]

/-- No row is its own partner. -/
theorem partners_irreflexive (apart : Apart key pairs) {wanted : Key} {row : Row}
    (paired : (partners key pairs).lookup wanted = some row) : key row ≠ wanted := by
  obtain ⟨pair, pairMem, ⟨rfl, rfl⟩ | ⟨rfl, rfl⟩⟩ := (lookup_partners apart).mp paired
  · exact (apart.sides pair pairMem pair pairMem).symm
  · exact apart.sides pair pairMem pair pairMem

end Partners

end Lib
