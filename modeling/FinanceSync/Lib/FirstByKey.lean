import Mathlib.Data.List.Nodup
import Mathlib.Data.List.Perm.Basic

/-!
# The first row of each key

A pass over rows that keeps a row if its key has not been seen.  Which rows are
kept depends on the first row of each key only, so that passes over parts and a
pass over what they keep make one pass.
-/

namespace Lib

universe u v w

variable {Key : Type u} {Row : Type v} [DecidableEq Key] (key : Row → Key)

/-- The rows whose keys are not among those seen before. -/
def keepFirst (seen : List Key) : List Row → List Row
  | [] => []
  | row :: rest =>
      if key row ∈ seen then keepFirst seen rest
      else row :: keepFirst (key row :: seen) rest

def firsts (rows : List Row) : List Row := keepFirst key [] rows

/-- The first row with a key. -/
def firstWith (wanted : Key) (rows : List Row) : Option Row :=
  rows.find? fun row => key row = wanted

section FirstWith

theorem key_of_firstWith {wanted : Key} {rows : List Row} {row : Row}
    (found : firstWith key wanted rows = some row) : key row = wanted := by
  simpa using List.find?_some found

theorem mem_of_firstWith {wanted : Key} {rows : List Row} {row : Row}
    (found : firstWith key wanted rows = some row) : row ∈ rows :=
  List.mem_of_find?_eq_some found

theorem firstWith_cons (wanted : Key) (row : Row) (rest : List Row) :
    firstWith key wanted (row :: rest) =
      if key row = wanted then some row else firstWith key wanted rest := by
  by_cases here : key row = wanted
  · simp [firstWith, here]
  · simp [firstWith, here]

/-- Of rows without repeated keys each is the first with its key. -/
theorem firstWith_of_mem {rows : List Row} (nodup : (rows.map key).Nodup) {row : Row}
    (isMem : row ∈ rows) : firstWith key (key row) rows = some row := by
  induction rows with
  | nil => simp at isMem
  | cons first rest ih =>
      rw [List.map_cons, List.nodup_cons] at nodup
      rw [firstWith_cons]
      cases List.mem_cons.mp isMem with
      | inl here => rw [here, if_pos rfl]
      | inr later =>
          have ne : key first ≠ key row := fun same =>
            nodup.1 (same ▸ List.mem_map_of_mem later)
          rw [if_neg ne]
          exact ih nodup.2 later

theorem exists_firstWith {rows : List Row} {row : Row} (isMem : row ∈ rows) :
    ∃ first, firstWith key (key row) rows = some first := by
  apply Option.isSome_iff_exists.mp
  simpa [firstWith] using ⟨row, isMem, rfl⟩

/-- In an ordered list the first row with a key comes before the others with it. -/
theorem rel_of_firstWith {relation : Row → Row → Prop} {wanted : Key} {rows : List Row}
    {row other : Row} (ordered : rows.Pairwise relation)
    (found : firstWith key wanted rows = some row) (isMem : other ∈ rows)
    (same : key other = wanted) : other = row ∨ relation row other := by
  induction rows with
  | nil => cases isMem
  | cons first rest ih =>
      obtain ⟨before, ordered⟩ := List.pairwise_cons.mp ordered
      rw [firstWith_cons] at found
      by_cases here : key first = wanted
      · rw [if_pos here, Option.some_inj] at found
        rw [← found]
        cases List.mem_cons.mp isMem with
        | inl isFirst => exact .inl isFirst
        | inr later => exact .inr (before other later)
      · rw [if_neg here] at found
        cases List.mem_cons.mp isMem with
        | inl isFirst => exact absurd (isFirst ▸ same) here
        | inr later => exact ih ordered found later

end FirstWith

/-! ## What a pass keeps -/

theorem keepFirst_nil (seen : List Key) : keepFirst key seen [] = [] := rfl

theorem keepFirst_cons (seen : List Key) (row : Row) (rest : List Row) :
    keepFirst key seen (row :: rest) =
      if key row ∈ seen then keepFirst key seen rest
      else row :: keepFirst key (key row :: seen) rest := rfl

theorem mem_keepFirst {seen : List Key} {rows : List Row} {row : Row} :
    row ∈ keepFirst key seen rows ↔
      key row ∉ seen ∧ firstWith key (key row) rows = some row := by
  induction rows generalizing seen with
  | nil => simp [keepFirst_nil, firstWith]
  | cons first rest ih =>
      rw [keepFirst_cons, firstWith_cons]
      by_cases known : key first ∈ seen
      · rw [if_pos known, ih]
        constructor
        · intro kept
          have ne : key first ≠ key row := fun same => kept.1 (same ▸ known)
          exact ⟨kept.1, by rw [if_neg ne, kept.2]⟩
        · intro kept
          have ne : key first ≠ key row := fun same => kept.1 (same ▸ known)
          exact ⟨kept.1, by simpa only [if_neg ne] using kept.2⟩
      · rw [if_neg known, List.mem_cons, ih, List.mem_cons, not_or]
        by_cases same : key first = key row
        · rw [if_pos same, Option.some_inj]
          constructor
          · intro kept
            cases kept with
            | inl here => exact ⟨here ▸ known, here.symm⟩
            | inr later => exact absurd same.symm later.1.1
          · intro kept
            exact .inl kept.2.symm
        · rw [if_neg same]
          constructor
          · intro kept
            cases kept with
            | inl here => exact absurd (here ▸ rfl) same
            | inr later => exact ⟨later.1.2, later.2⟩
          · intro kept
            exact .inr ⟨⟨fun again => same again.symm, kept.1⟩, kept.2⟩

/-- A row is kept exactly if it is the first with its key. -/
theorem mem_firsts {rows : List Row} {row : Row} :
    row ∈ firsts key rows ↔ firstWith key (key row) rows = some row := by
  rw [firsts, mem_keepFirst]
  simp

/-- Every key that occurs is kept. -/
theorem mem_keys_firsts {wanted : Key} {rows : List Row} :
    wanted ∈ (firsts key rows).map key ↔ wanted ∈ rows.map key := by
  rw [List.mem_map, List.mem_map]
  constructor
  · rintro ⟨row, kept, rfl⟩
    exact ⟨row, mem_of_firstWith key ((mem_firsts key).mp kept), rfl⟩
  · rintro ⟨row, isMem, rfl⟩
    obtain ⟨first, found⟩ := exists_firstWith key isMem
    have same := key_of_firstWith key found
    exact ⟨first, (mem_firsts key).mpr (same ▸ found), same⟩

/-- Which keys have been seen matters, not in which order or how often. -/
theorem keepFirst_congr {seen others : List Key} (same : ∀ wanted, wanted ∈ seen ↔ wanted ∈ others)
    (rows : List Row) : keepFirst key seen rows = keepFirst key others rows := by
  induction rows generalizing seen others with
  | nil => rfl
  | cons row rest ih =>
      have next : ∀ wanted, wanted ∈ key row :: seen ↔ wanted ∈ key row :: others := by
        intro wanted
        rw [List.mem_cons, List.mem_cons, same]
      simp only [keepFirst_cons, same, ih same, ih next]

/-- Of rows without repeated keys those are kept whose keys have not been seen. -/
theorem keepFirst_of_nodup {seen : List Key} {rows : List Row} (nodup : (rows.map key).Nodup) :
    keepFirst key seen rows = rows.filter fun row => key row ∉ seen := by
  induction rows generalizing seen with
  | nil => rfl
  | cons row rest ih =>
      rw [List.map_cons, List.nodup_cons] at nodup
      have later : (rest.filter fun other => key other ∉ key row :: seen) =
          rest.filter fun other => key other ∉ seen := by
        apply List.filter_congr
        intro other isMem
        have ne : key other ≠ key row := fun same =>
          nodup.1 (same ▸ List.mem_map_of_mem isMem)
        simp [ne]
      rw [keepFirst_cons, List.filter_cons, ih nodup.2, ih nodup.2,
        later]
      by_cases known : key row ∈ seen <;> simp [known]

/-- Rows without repeated keys stay in front. -/
theorem prefix_keepFirst {seen : List Key} {rows : List Row} (nodup : (rows.map key).Nodup)
    (fresh : ∀ row ∈ rows, key row ∉ seen) (more : List Row) :
    rows <+: keepFirst key seen (rows ++ more) := by
  induction rows generalizing seen with
  | nil => exact List.nil_prefix
  | cons row rest ih =>
      rw [List.map_cons, List.nodup_cons] at nodup
      rw [List.cons_append, keepFirst_cons, if_neg (fresh row List.mem_cons_self),
        List.prefix_cons_inj]
      apply ih nodup.2
      intro other isMem known
      rcases List.mem_cons.mp known with same | seenBefore
      · exact nodup.1 (same ▸ List.mem_map_of_mem isMem)
      · exact fresh other (List.mem_cons_of_mem row isMem) seenBefore

theorem nodup_keys_keepFirst (seen : List Key) (rows : List Row) :
    ((keepFirst key seen rows).map key).Nodup := by
  induction rows generalizing seen with
  | nil => exact List.nodup_nil
  | cons row rest ih =>
      rw [keepFirst_cons]
      split
      · exact ih seen
      · rw [List.map_cons, List.nodup_cons]
        refine ⟨?_, ih (key row :: seen)⟩
        intro again
        obtain ⟨other, kept, same⟩ := List.mem_map.mp again
        exact ((mem_keepFirst key).mp kept).1 (same ▸ List.mem_cons_self)

theorem nodup_keys_firsts (rows : List Row) : ((firsts key rows).map key).Nodup :=
  nodup_keys_keepFirst key [] rows

theorem nodup_firsts (rows : List Row) : (firsts key rows).Nodup :=
  (nodup_keys_firsts key rows).of_map

/-- The first row with a key is kept if the key has not been seen. -/
theorem firstWith_keepFirst (wanted : Key) (seen : List Key) (rows : List Row) :
    firstWith key wanted (keepFirst key seen rows) =
      if wanted ∈ seen then none else firstWith key wanted rows := by
  apply Option.ext
  intro row
  constructor
  · intro found
    have kept := (mem_keepFirst key).mp (mem_of_firstWith key found)
    rw [key_of_firstWith key found] at kept
    rw [if_neg kept.1]
    exact kept.2
  · intro found
    rw [Option.ite_none_left_eq_some] at found
    have sameKey := key_of_firstWith key found.2
    rw [← sameKey] at found ⊢
    exact firstWith_of_mem key (nodup_keys_keepFirst key seen rows) ((mem_keepFirst key).mpr found)

/-- The first row with a key is kept. -/
theorem firstWith_firsts (wanted : Key) (rows : List Row) :
    firstWith key wanted (firsts key rows) = firstWith key wanted rows := by
  rw [firsts, firstWith_keepFirst, if_neg List.not_mem_nil]

/-- Rows with the same first row of each key keep the same rows. -/
theorem firsts_perm {rows others : List Row}
    (same : ∀ wanted, firstWith key wanted rows = firstWith key wanted others) :
    (firsts key rows).Perm (firsts key others) := by
  rw [List.perm_ext_iff_of_nodup (nodup_firsts key rows) (nodup_firsts key others)]
  intro row
  rw [mem_firsts, mem_firsts, same]

/-- To keep the first rows of the parts before those of the whole changes nothing. -/
theorem firsts_flatMap_firsts {Part : Type w} (rowsOf : Part → List Row) (parts : List Part) :
    (firsts key (parts.flatMap rowsOf)).Perm
      (firsts key (parts.flatMap fun part => firsts key (rowsOf part))) := by
  apply firsts_perm
  intro wanted
  induction parts with
  | nil => rfl
  | cons part parts ih =>
      rw [firstWith] at ih
      simp only [List.flatMap_cons, firstWith, List.find?_append, ih]
      have here := firstWith_firsts key wanted (rowsOf part)
      simp only [firstWith] at here
      rw [here]

/-- A pass after a map that keeps the keys. -/
theorem map_firsts {Source : Type w} (toRow : Source → Row) (sources : List Source) :
    (firsts (fun source => key (toRow source)) sources).map toRow =
      firsts key (sources.map toRow) := by
  have kept : ∀ seen, (keepFirst (fun source => key (toRow source)) seen sources).map toRow =
      keepFirst key seen (sources.map toRow) := by
    induction sources with
    | nil => exact fun _ => rfl
    | cons source rest ih =>
        intro seen
        rw [List.map_cons, keepFirst_cons, keepFirst_cons]
        split
        · exact ih seen
        · rw [List.map_cons, ih]
  exact kept []

/-! ## Rows that their keys determine -/

/-- The rows with one key are the same. -/
def Consistent (rows : List Row) : Prop :=
  ∀ row ∈ rows, ∀ other ∈ rows, key row = key other → row = other

variable {key}

theorem mem_firsts_of_consistent {rows : List Row} (consistent : Consistent key rows) {row : Row} :
    row ∈ firsts key rows ↔ row ∈ rows := by
  rw [mem_firsts]
  constructor
  · exact mem_of_firstWith key
  · intro isMem
    obtain ⟨first, found⟩ := exists_firstWith key isMem
    rw [found, consistent first (mem_of_firstWith key found) row isMem
      (key_of_firstWith key found)]

/-- Of consistent rows the same are kept wherever the same occur. -/
theorem firsts_perm_of_consistent {rows others : List Row} (consistent : Consistent key rows)
    (same : ∀ row, row ∈ others ↔ row ∈ rows) : (firsts key rows).Perm (firsts key others) := by
  have othersConsistent : Consistent key others := by
    intro row rowMem other otherMem
    exact consistent row ((same row).mp rowMem) other ((same other).mp otherMem)
  rw [List.perm_ext_iff_of_nodup (nodup_firsts key rows) (nodup_firsts key others)]
  intro row
  rw [mem_firsts_of_consistent consistent, mem_firsts_of_consistent othersConsistent, same]

end Lib
