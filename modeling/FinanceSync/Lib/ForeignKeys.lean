import Mathlib.Data.List.Basic

/-!
# Deletions in a database with foreign keys

A row refers to others by their keys, and each reference says what becomes of the
row when the other one is deleted: it is deleted too, it forbids the deletion, or
it loses the reference.  A sequence of deletions is brought into one form here,
from which the rows that remain can be read off.
-/

namespace Lib

universe u v

/-- The references between the rows of a database.  Rows that are deleted with
another one are not referred to themselves. -/
structure ForeignKeys (Row : Type u) (Key : Type v) where
  key : Row → Key
  /-- `ON DELETE CASCADE` -/
  cascades : Row → Key → Bool
  /-- `ON DELETE RESTRICT` -/
  restricts : Row → Key → Bool
  /-- `ON DELETE SET NULL`: the row without its references to the keys. -/
  clear : (Key → Bool) → Row → Row
  key_clear : ∀ gone row, key (clear gone row) = key row
  cascades_clear : ∀ gone row, cascades (clear gone row) = cascades row
  restricts_clear : ∀ gone row, restricts (clear gone row) = restricts row
  clear_clear : ∀ first second row,
    clear second (clear first row) = clear (fun key => first key || second key) row
  clear_none : ∀ row, clear (fun _ => false) row = row
  cascades_leaf : ∀ {row owner}, cascades row owner → ∀ other, cascades other (key row) = false
  clear_congr : ∀ {first second : Key → Bool}, (∀ wanted,
    (∃ row owner, cascades row owner ∧ key row = wanted) ∨ first wanted = second wanted) →
    ∀ row, clear first row = clear second row

namespace ForeignKeys

variable {Row : Type u} {Key : Type v} [DecidableEq Key] (keys : ForeignKeys Row Key)

/-- `DELETE FROM .. WHERE condition`; none where a reference forbids it. -/
def deleteWhere (rows : List Row) (condition : Row → Bool) : Option (List Row) :=
  if rows.any fun row => !condition row &&
      rows.any fun gone => condition gone && keys.restricts row (keys.key gone) then none
  else some ((rows.filter fun row => !condition row &&
      !rows.any fun gone => condition gone && keys.cascades row (keys.key gone)).map
    (keys.clear fun key => rows.any fun gone => condition gone && keys.key gone = key))

/-- The deletions, one after the other. -/
def deleteAll (rows : List Row) (conditions : List (Row → Bool)) : Option (List Row) :=
  conditions.foldlM keys.deleteWhere rows

/-- The row is deleted by one of the statements. -/
def hit (conditions : List (Row → Bool)) (row : Row) : Bool := conditions.any (· row)

/-- The row remains after the statements. -/
def kept (rows : List Row) (conditions : List (Row → Bool)) (row : Row) : Bool :=
  !hit conditions row &&
    !rows.any fun gone => hit conditions gone && keys.cascades row (keys.key gone)

/-- The keys of the rows that the statements delete. -/
def gone (rows : List Row) (conditions : List (Row → Bool)) (key : Key) : Bool :=
  rows.any fun row => hit conditions row && keys.key row = key

/-- What remains: the rows that are kept, without their references to what is gone. -/
def remaining (rows : List Row) (conditions : List (Row → Bool)) : List Row :=
  (rows.filter (keys.kept rows conditions)).map (keys.clear (keys.gone rows conditions))

/-- The condition does not look at references to the keys. -/
def Stable (gone : Key → Bool) (condition : Row → Bool) : Prop :=
  ∀ row, condition (keys.clear gone row) = condition row

variable {keys} {rows : List Row} {conditions : List (Row → Bool)} {condition : Row → Bool}

omit [DecidableEq Key] in
theorem kept_iff {row : Row} : keys.kept rows conditions row ↔
    ¬ hit conditions row ∧
      ∀ gone ∈ rows, hit conditions gone → ¬ keys.cascades row (keys.key gone) := by
  simp [kept]

theorem hit_append_iff {row : Row} :
    hit (conditions ++ [condition]) row ↔ hit conditions row ∨ condition row := by
  simp [hit]

omit [DecidableEq Key] in
/-- What is gone already is not referred to by what is kept: a kept row that would go
with another one goes with a kept one. -/
theorem cascades_iff_of_kept {row : Row} (isKept : keys.kept rows conditions row) :
    (∃ gone ∈ rows, condition gone ∧ keys.cascades row (keys.key gone)) ↔
      ∃ gone ∈ rows, keys.kept rows conditions gone ∧ condition gone ∧
        keys.cascades row (keys.key gone) := by
  constructor
  · intro ⟨gone, isMem, isHit, cascades⟩
    refine ⟨gone, isMem, ?_, isHit, cascades⟩
    rw [kept_iff] at isKept ⊢
    constructor
    · intro before
      exact isKept.2 gone isMem before cascades
    · intro other _ _ leaf
      rw [keys.cascades_leaf leaf row] at cascades
      contradiction
  · intro ⟨gone, isMem, _, isHit, cascades⟩
    exact ⟨gone, isMem, isHit, cascades⟩

omit [DecidableEq Key] in
theorem kept_of_kept_append {row : Row}
    (isKept : keys.kept rows (conditions ++ [condition]) row) :
    keys.kept rows conditions row := by
  rw [kept_iff] at isKept ⊢
  exact ⟨fun hits => isKept.1 (hit_append_iff.mpr (Or.inl hits)),
    fun gone isMem hits => isKept.2 gone isMem (hit_append_iff.mpr (Or.inl hits))⟩

/-- What is gone stays gone. -/
theorem gone_append_left {key : Key} (isGone : keys.gone rows conditions key) {later} :
    keys.gone rows (conditions ++ later) key := by
  simp only [gone, hit, List.any_eq_true, Bool.and_eq_true, List.any_append,
    Bool.or_eq_true] at isGone ⊢
  obtain ⟨row, isMem, hits, isKey⟩ := isGone
  exact ⟨row, isMem, Or.inl hits, isKey⟩

theorem any_remaining_iff {property : Row → Bool} :
    (keys.remaining rows conditions).any property ↔
      ∃ row ∈ rows, keys.kept rows conditions row ∧
        property (keys.clear (keys.gone rows conditions) row) := by
  simp [remaining]

theorem filter_remaining {passes : Row → Bool}
    (same : ∀ row, passes (keys.clear (keys.gone rows conditions) row) = passes row) :
    (keys.remaining rows conditions).filter passes =
      (rows.filter fun row => passes row && keys.kept rows conditions row).map
        (keys.clear (keys.gone rows conditions)) := by
  rw [remaining, List.filter_map, List.filter_filter]
  simp only [Function.comp_apply, same]

/-- The rows that one more deletion keeps. -/
theorem kept_append_iff (stable : keys.Stable (keys.gone rows conditions) condition) {row : Row} :
    keys.kept rows (conditions ++ [condition]) row ↔
      keys.kept rows conditions row ∧ ¬ condition row ∧
        ¬ (keys.remaining rows conditions).any fun gone =>
          condition gone && keys.cascades row (keys.key gone) := by
  rw [any_remaining_iff]
  simp only [stable _, keys.key_clear, Bool.and_eq_true]
  constructor
  · intro isKept
    have before := kept_of_kept_append isKept
    rw [← cascades_iff_of_kept before]
    rw [kept_iff] at isKept
    refine ⟨before, fun hits => isKept.1 (hit_append_iff.mpr (Or.inr hits)), ?_⟩
    intro ⟨gone, isMem, hits, cascades⟩
    exact isKept.2 gone isMem (hit_append_iff.mpr (Or.inr hits)) cascades
  · intro ⟨before, misses, noOwner⟩
    rw [← cascades_iff_of_kept before] at noOwner
    rw [kept_iff] at before ⊢
    constructor
    · intro hits
      cases hit_append_iff.mp hits with
      | inl earlier => exact before.1 earlier
      | inr now => exact misses now
    · intro gone isMem hits cascades
      cases hit_append_iff.mp hits with
      | inl earlier => exact before.2 gone isMem earlier cascades
      | inr now => exact noOwner ⟨gone, isMem, now, cascades⟩

/-- The keys that one more deletion adds, but for rows that are gone with another one. -/
theorem gone_append (stable : keys.Stable (keys.gone rows conditions) condition) (wanted : Key) :
    (∃ row owner, keys.cascades row owner ∧ keys.key row = wanted) ∨
      (keys.gone rows conditions wanted ||
          (keys.remaining rows conditions).any fun row =>
            condition row && keys.key row = wanted) =
        keys.gone rows (conditions ++ [condition]) wanted := by
  by_cases leaf : ∃ row owner, keys.cascades row owner ∧ keys.key row = wanted
  · exact Or.inl leaf
  · right
    rw [Bool.eq_iff_iff, Bool.or_eq_true, any_remaining_iff]
    simp only [stable _, keys.key_clear, Bool.and_eq_true, decide_eq_true_eq, gone,
      List.any_eq_true]
    constructor
    · intro either
      cases either with
      | inl earlier =>
          obtain ⟨row, isMem, hits, isKey⟩ := earlier
          exact ⟨row, isMem, hit_append_iff.mpr (Or.inl hits), isKey⟩
      | inr now =>
          obtain ⟨row, isMem, _, hits, isKey⟩ := now
          exact ⟨row, isMem, hit_append_iff.mpr (Or.inr hits), isKey⟩
    · intro ⟨row, isMem, hits, isKey⟩
      by_cases earlier : hit conditions row
      · exact Or.inl ⟨row, isMem, earlier, isKey⟩
      · right
        refine ⟨row, isMem, kept_iff.mpr ⟨earlier, ?_⟩,
          (hit_append_iff.mp hits).resolve_left earlier, isKey⟩
        intro other _ _ cascades
        exact leaf ⟨row, _, cascades, isKey⟩

/-- One more deletion, which no reference forbids. -/
theorem deleteWhere_remaining (stable : keys.Stable (keys.gone rows conditions) condition)
    (free : ∀ row ∈ rows, ∀ gone ∈ rows, condition gone →
      keys.restricts row (keys.key gone) → condition row ∨ ¬ keys.kept rows conditions row) :
    keys.deleteWhere (keys.remaining rows conditions) condition =
      some (keys.remaining rows (conditions ++ [condition])) := by
  have allowed : ¬ (keys.remaining rows conditions).any fun row => !condition row &&
      (keys.remaining rows conditions).any fun gone =>
        condition gone && keys.restricts row (keys.key gone) := by
    simp only [any_remaining_iff, stable _, keys.key_clear, keys.restricts_clear,
      Bool.and_eq_true, Bool.not_eq_true']
    intro ⟨row, isMem, isKept, misses, gone, goneMem, _, hits, restricts⟩
    cases free row isMem gone goneMem hits restricts with
    | inl now => rw [misses] at now; contradiction
    | inr dropped => exact dropped isKept
  rw [deleteWhere, if_neg allowed, Option.some.injEq, filter_remaining, List.map_map]
  · have sameRows : (rows.filter fun row => (!condition row &&
        !(keys.remaining rows conditions).any fun gone =>
          condition gone && keys.cascades row (keys.key gone)) &&
        keys.kept rows conditions row) =
        rows.filter (keys.kept rows (conditions ++ [condition])) := by
      apply List.filter_congr
      intro row _
      rw [Bool.eq_iff_iff, kept_append_iff stable]
      simp only [Bool.and_eq_true, Bool.not_eq_true', Bool.not_eq_true]
      tauto
    rw [sameRows]
    conv_rhs => rw [remaining]
    apply List.map_congr_left
    intro row _
    rw [Function.comp_apply, keys.clear_clear]
    exact keys.clear_congr (gone_append stable) row
  · intro row
    rw [stable, keys.cascades_clear]

theorem remaining_nil : keys.remaining rows [] = rows := by
  have nothingGone : keys.gone rows [] = fun _ => false := by
    funext key
    simp [gone, hit]
  have everyKept : ∀ row, keys.kept rows [] row := by simp [kept, hit]
  rw [remaining, nothingGone, List.filter_eq_self.mpr fun row _ => everyKept row]
  exact (List.map_congr_left fun row _ => keys.clear_none row).trans (List.map_id rows)

variable (keys rows) in
/-- A sequence of deletions, none of which is forbidden. -/
theorem deleteAll_remaining (allowed : Key → Prop) (statements : List (Row → Bool))
    (stable : ∀ statement ∈ statements, ∀ gone : Key → Bool,
      (∀ key, gone key → allowed key) → keys.Stable gone statement) :
    ∀ conditions : List (Row → Bool),
      (∀ key, keys.gone rows (conditions ++ statements) key → allowed key) →
      (∀ statement ∈ statements, ∀ row ∈ rows, ∀ gone ∈ rows, statement gone →
        keys.restricts row (keys.key gone) →
          statement row ∨ ¬ keys.kept rows conditions row) →
      keys.deleteAll (keys.remaining rows conditions) statements =
        some (keys.remaining rows (conditions ++ statements)) := by
  induction statements with
  | nil => intro conditions _ _; rw [List.append_nil]; rfl
  | cons statement rest ih =>
      intro conditions allGone free
      have first := deleteWhere_remaining
        (stable statement List.mem_cons_self _ fun key isGone =>
          allGone key (gone_append_left isGone))
        (free statement List.mem_cons_self)
      rw [deleteAll, List.foldlM_cons, first, Option.bind_eq_bind, Option.bind_some]
      have later := ih
        (fun other isMem => stable other (List.mem_cons_of_mem statement isMem))
        (conditions ++ [statement])
      rw [List.append_assoc, List.singleton_append] at later
      apply later allGone
      intro other isMem row rowMem gone goneMem hits restricts
      cases free other (List.mem_cons_of_mem statement isMem) row rowMem gone goneMem hits
        restricts with
      | inl now => exact Or.inl now
      | inr dropped =>
          right
          intro isKept
          exact dropped (kept_of_kept_append isKept)

/-- A sequence of two sequences. -/
theorem deleteAll_append (first second : List (Row → Bool)) :
    keys.deleteAll rows (first ++ second) =
      (keys.deleteAll rows first).bind fun between => keys.deleteAll between second := by
  rw [deleteAll, List.foldlM_append]
  rfl

end ForeignKeys

end Lib
