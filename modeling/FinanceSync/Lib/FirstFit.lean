import Mathlib.Data.List.Basic
import Mathlib.Data.List.Perm.Basic
import Mathlib.Data.List.Nodup

/-!
# First fit

Rows take slots one after the other: each takes the first free slot that fits it,
or none.  Every slot is taken once or left, and a row without a slot fits none of
the slots that are left.
-/

namespace Lib.FirstFit

universe u v w

variable {Row : Type u} {Slot : Type v} (fits : Row → Slot → Bool)

/-- The rows with the slots they take. -/
def assigned : List Slot → List Row → List (Row × Option Slot)
  | _, [] => []
  | free, row :: rows =>
      (row, free.find? (fits row)) :: assigned (free.eraseP (fits row)) rows

/-- The slots that no row takes. -/
def left : List Slot → List Row → List Slot
  | free, [] => free
  | free, row :: rows => left (free.eraseP (fits row)) rows

section Equations

variable (free : List Slot) (row : Row) (rows : List Row)

theorem assigned_cons : assigned fits free (row :: rows) =
    (row, free.find? (fits row)) :: assigned fits (free.eraseP (fits row)) rows := rfl

theorem left_cons : left fits free (row :: rows) = left fits (free.eraseP (fits row)) rows := rfl

end Equations

variable {fits} {free : List Slot} {rows : List Row}

theorem map_fst_assigned (fits : Row → Slot → Bool) (free : List Slot) (rows : List Row) :
    (assigned fits free rows).map Prod.fst = rows := by
  induction rows generalizing free with
  | nil => rfl
  | cons row rows ih =>
      rw [assigned_cons, List.map_cons, ih]

/-- The first slot that fits and the others are all slots. -/
theorem perm_of_find? {test : Slot → Bool} {slot : Slot} (found : free.find? test = some slot) :
    free.Perm (slot :: free.eraseP test) := by
  induction free with
  | nil => cases found
  | cons first free ih =>
      cases passes : test first with
      | true =>
          rw [List.find?_cons_of_pos passes] at found
          rw [List.eraseP_cons_of_pos passes, Option.some.inj found]
      | false =>
          have fails : ¬test first = true := by simp [passes]
          rw [List.find?_cons_of_neg fails] at found
          rw [List.eraseP_cons_of_neg fails]
          exact ((ih found).cons first).trans (.swap slot first _)

/-- Every slot is taken once or left. -/
theorem perm_assigned (fits : Row → Slot → Bool) (free : List Slot) (rows : List Row) :
    free.Perm ((assigned fits free rows).filterMap Prod.snd ++ left fits free rows) := by
  induction rows generalizing free with
  | nil => exact .refl _
  | cons row rows ih =>
      rw [assigned_cons, left_cons]
      cases found : free.find? (fits row) with
      | none =>
          have whole : free.eraseP (fits row) = free :=
            List.eraseP_of_forall_not (List.find?_eq_none.mp found)
          rw [whole]
          exact ih free
      | some slot =>
          exact (perm_of_find? found).trans ((ih _).cons slot)

theorem mem_of_assigned {row : Row} {slot : Slot}
    (taken : (row, some slot) ∈ assigned fits free rows) : slot ∈ free := by
  rw [(perm_assigned fits free rows).mem_iff, List.mem_append, List.mem_filterMap]
  exact .inl ⟨_, taken, rfl⟩

theorem mem_of_left {slot : Slot} (isLeft : slot ∈ left fits free rows) : slot ∈ free := by
  rw [(perm_assigned fits free rows).mem_iff, List.mem_append]
  exact .inr isLeft

theorem left_sublist : (left fits free rows).Sublist free := by
  induction rows generalizing free with
  | nil => exact .refl _
  | cons row rows ih =>
      exact ih.trans List.eraseP_sublist

/-- A row takes a slot that fits it. -/
theorem fits_of_assigned {row : Row} {slot : Slot}
    (taken : (row, some slot) ∈ assigned fits free rows) : fits row slot = true := by
  induction rows generalizing free with
  | nil => cases taken
  | cons first rows ih =>
      rw [assigned_cons] at taken
      cases List.mem_cons.mp taken with
      | inl same =>
          obtain ⟨isFirst, found⟩ := Prod.mk.inj same
          rw [isFirst]
          exact List.find?_some found.symm
      | inr later => exact ih later

/-- A row without a slot fits none of the slots that are left. -/
theorem not_fits_of_unassigned {row : Row} (without : (row, none) ∈ assigned fits free rows)
    {slot : Slot} (isLeft : slot ∈ left fits free rows) : fits row slot = false := by
  induction rows generalizing free with
  | nil => cases without
  | cons first rows ih =>
      rw [assigned_cons] at without
      cases List.mem_cons.mp without with
      | inl same =>
          obtain ⟨isFirst, found⟩ := Prod.mk.inj same
          rw [left_cons] at isLeft
          have inFree : slot ∈ free := List.mem_of_mem_eraseP (mem_of_left isLeft)
          rw [isFirst]
          simpa using List.find?_eq_none.mp found.symm slot inFree
      | inr later => exact ih later isLeft

theorem mem_of_assigned_fst {row : Row} {taken : Option Slot}
    (takenMem : (row, taken) ∈ assigned fits free rows) : row ∈ rows := by
  rw [← map_fst_assigned fits free rows]
  exact List.mem_map_of_mem (f := Prod.fst) takenMem

/-- A row that fits one slot only fits none of the slots that are left. -/
theorem not_fits_of_left (nodup : free.Nodup) {row : Row} (rowMem : row ∈ rows)
    (single : ∀ slot ∈ free, ∀ other ∈ free,
      fits row slot = true → fits row other = true → slot = other)
    {slot : Slot} (isLeft : slot ∈ left fits free rows) : fits row slot = false := by
  rw [← map_fst_assigned fits free rows, List.mem_map] at rowMem
  obtain ⟨⟨row, taken⟩, takenMem, rfl⟩ := rowMem
  cases taken with
  | none => exact not_fits_of_unassigned takenMem isLeft
  | some other =>
      by_contra fit
      have same := single slot (mem_of_left isLeft) other (mem_of_assigned takenMem)
        (by simpa using fit) (fits_of_assigned takenMem)
      have disjoint := List.disjoint_of_nodup_append
        ((perm_assigned fits free rows).nodup_iff.mp nodup)
      exact disjoint (List.mem_filterMap.mpr ⟨_, takenMem, rfl⟩) (same ▸ isLeft)

/-- A row and a slot that fit each other only are assigned. -/
theorem assigned_of_alone (nodup : free.Nodup) {row : Row} (rowMem : row ∈ rows) {slot : Slot}
    (slotMem : slot ∈ free) (fit : fits row slot = true)
    (onlySlot : ∀ other ∈ free, fits row other = true → other = slot)
    (onlyRow : ∀ other ∈ rows, fits other slot = true → other = row) :
    (row, some slot) ∈ assigned fits free rows := by
  have single : ∀ first ∈ free, ∀ other ∈ free,
      fits row first = true → fits row other = true → first = other := by
    intro first firstMem other otherMem fitsFirst fitsOther
    rw [onlySlot first firstMem fitsFirst, onlySlot other otherMem fitsOther]
  rw [(perm_assigned fits free rows).mem_iff, List.mem_append] at slotMem
  cases slotMem with
  | inr isLeft =>
      rw [not_fits_of_left nodup rowMem single isLeft] at fit
      cases fit
  | inl isTaken =>
      obtain ⟨⟨other, taken⟩, takenMem, isSlot⟩ := List.mem_filterMap.mp isTaken
      cases isSlot
      rw [← onlyRow other (mem_of_assigned_fst takenMem) (fits_of_assigned takenMem)]
      exact takenMem

/-- A slot that fits no row is left. -/
theorem left_of_not_fits {slot : Slot} (slotMem : slot ∈ free)
    (noFit : ∀ row ∈ rows, fits row slot = false) : slot ∈ left fits free rows := by
  rw [(perm_assigned fits free rows).mem_iff, List.mem_append] at slotMem
  cases slotMem with
  | inr isLeft => exact isLeft
  | inl isTaken =>
      obtain ⟨⟨row, taken⟩, takenMem, isSlot⟩ := List.mem_filterMap.mp isTaken
      cases isSlot
      have fit := fits_of_assigned takenMem
      rw [noFit row (mem_of_assigned_fst takenMem)] at fit
      cases fit

/-! ## A second run -/

section Relabel

variable {Other : Type w} {relabel : Slot → Other} {otherFits : Row → Other → Bool}

/-- Relabelled slots are taken by the same rows. -/
theorem assigned_map (same : ∀ row slot, otherFits row (relabel slot) = fits row slot) :
    assigned otherFits (free.map relabel) rows =
      (assigned fits free rows).map fun pair => (pair.1, pair.2.map relabel) := by
  induction rows generalizing free with
  | nil => rfl
  | cons row rows ih =>
      have fit : otherFits row ∘ relabel = fits row := funext (same row)
      rw [assigned_cons, assigned_cons, List.eraseP_map, List.find?_map, fit, ih]
      rfl

theorem left_map (same : ∀ row slot, otherFits row (relabel slot) = fits row slot) :
    left otherFits (free.map relabel) rows = (left fits free rows).map relabel := by
  induction rows generalizing free with
  | nil => rfl
  | cons row rows ih =>
      have fit : otherFits row ∘ relabel = fits row := funext (same row)
      rw [left_cons, left_cons, List.eraseP_map, fit, ih]

end Relabel

section NewSlots

variable (own : Row → Option Slot)

/-- New slots for the rows that took none. -/
def newSlots (pairs : List (Row × Option Slot)) : List Slot :=
  pairs.filterMap fun pair => if pair.2.isNone then own pair.1 else none

variable {own}

theorem mem_newSlots {slot : Slot} (isNew : slot ∈ newSlots own (assigned fits free rows)) :
    ∃ row ∈ rows, own row = some slot := by
  obtain ⟨pair, pairMem, isOwn⟩ := List.mem_filterMap.mp isNew
  split at isOwn
  · exact ⟨pair.1, map_fst_assigned fits free rows ▸
      List.mem_map_of_mem pairMem, isOwn⟩
  · cases isOwn

/-- With new slots at the end that fit their own rows only, the rows keep their
slots and the others take their own. -/
theorem assigned_append (free : List Slot)
    (fitsOwn : ∀ row ∈ rows, ∀ slot ∈ own row, fits row slot = true)
    (onlyOwn : rows.Pairwise fun row other => ∀ slot ∈ own other, fits row slot = false) :
    assigned fits (free ++ newSlots own (assigned fits free rows)) rows =
        (assigned fits free rows).map (fun pair => (pair.1, pair.2.or (own pair.1))) ∧
      left fits (free ++ newSlots own (assigned fits free rows)) rows = left fits free rows := by
  induction rows generalizing free with
  | nil => simp [assigned, newSlots, left]
  | cons row rows ih =>
      obtain ⟨others, onlyOwnRest⟩ := List.pairwise_cons.mp onlyOwn
      have rest := fun free => ih free
        (fun other otherMem => fitsOwn other (List.mem_cons_of_mem _ otherMem)) onlyOwnRest
      have laterNew : ∀ free, ∀ slot ∈ newSlots own (assigned fits free rows),
          ¬fits row slot = true := by
        intro free slot isNew
        obtain ⟨other, otherMem, isOwn⟩ := mem_newSlots isNew
        simp [others other otherMem slot isOwn]
      cases found : free.find? (fits row) with
      | some slot =>
          have slotMem := List.mem_of_find?_eq_some found
          have slotFits := List.find?_some found
          have new : newSlots own (assigned fits free (row :: rows)) =
              newSlots own (assigned fits (free.eraseP (fits row)) rows) := by
            rw [assigned_cons, found, newSlots, List.filterMap_cons]
            rfl
          rw [new, assigned_cons, left_cons, assigned_cons, left_cons, List.find?_append, found,
            List.eraseP_append_left slotFits _ slotMem, (rest _).1, (rest _).2]
          exact ⟨rfl, rfl⟩
      | none =>
          have noFit := List.find?_eq_none.mp found
          have whole : free.eraseP (fits row) = free := List.eraseP_of_forall_not noFit
          cases isOwn : own row with
          | none =>
              have new : newSlots own (assigned fits free (row :: rows)) =
                  newSlots own (assigned fits free rows) := by
                rw [assigned_cons, found, whole, newSlots, List.filterMap_cons]
                simp [isOwn, newSlots]
              have missing : (newSlots own (assigned fits free rows)).find? (fits row) = none :=
                List.find?_eq_none.mpr (laterNew free)
              rw [new, assigned_cons, left_cons, assigned_cons, left_cons, List.find?_append, found,
                missing, List.eraseP_append_right _ noFit, whole,
                List.eraseP_of_forall_not (laterNew free), (rest free).1, (rest free).2]
              simp [isOwn]
          | some slot =>
              have slotFits := fitsOwn row List.mem_cons_self slot isOwn
              have new : newSlots own (assigned fits free (row :: rows)) =
                  slot :: newSlots own (assigned fits free rows) := by
                rw [assigned_cons, found, whole, newSlots, List.filterMap_cons]
                simp [isOwn, newSlots]
              rw [new, assigned_cons, left_cons, assigned_cons, left_cons, List.find?_append, found,
                List.find?_cons_of_pos slotFits, List.eraseP_append_right _ noFit, whole,
                List.eraseP_cons_of_pos slotFits, (rest free).1, (rest free).2]
              simp [isOwn]

end NewSlots

end Lib.FirstFit
