import Mathlib.Algebra.BigOperators.Group.List.Basic
import Mathlib.Algebra.GroupWithZero.Nat
import Mathlib.Data.List.Basic
import Mathlib.Logic.Function.Basic

/-!
# Writes to a keyed store

A store holds one entry for a key, or none.  A write makes an entry out of the
entry that is there.  What a list of writes leaves under a key depends on the
writes to that key only.
-/

namespace Lib

universe u v

/-- A change of the entry of one key. -/
structure Write (Key : Type u) (Entry : Type v) where
  key : Key
  entry : Option Entry → Entry

namespace Write

variable {Key : Type u} {Entry : Type v} [DecidableEq Key]

def apply (store : Key → Option Entry) (write : Write Key Entry) : Key → Option Entry :=
  Function.update store write.key (some (write.entry (store write.key)))

def applyAll (store : Key → Option Entry) (writes : List (Write Key Entry)) :
    Key → Option Entry :=
  writes.foldl apply store

@[simp] theorem applyAll_nil (store : Key → Option Entry) : applyAll store [] = store := rfl

theorem applyAll_cons (store : Key → Option Entry) (write : Write Key Entry)
    (writes : List (Write Key Entry)) :
    applyAll store (write :: writes) = applyAll (apply store write) writes := rfl

theorem applyAll_append (store : Key → Option Entry) (first second : List (Write Key Entry)) :
    applyAll store (first ++ second) = applyAll (applyAll store first) second :=
  List.foldl_append

@[simp] theorem apply_self (store : Key → Option Entry) (write : Write Key Entry) :
    apply store write write.key = some (write.entry (store write.key)) :=
  Function.update_self ..

theorem apply_of_ne (store : Key → Option Entry) {write : Write Key Entry} {key : Key}
    (other : key ≠ write.key) : apply store write key = store key :=
  Function.update_of_ne other ..

theorem applyAll_of_not_mem {writes : List (Write Key Entry)} {key : Key}
    (others : ∀ write ∈ writes, key ≠ write.key) (store : Key → Option Entry) :
    applyAll store writes key = store key := by
  induction writes generalizing store with
  | nil => rfl
  | cons write writes ih =>
      rw [applyAll_cons,
        ih (fun later laterMem => others later (List.mem_cons_of_mem _ laterMem)),
        apply_of_ne store (others write List.mem_cons_self)]

/-- What the last write to a key leaves there. -/
theorem applyAll_at {before after : List (Write Key Entry)} (write : Write Key Entry)
    (last : ∀ later ∈ after, write.key ≠ later.key) (store : Key → Option Entry) :
    applyAll store (before ++ write :: after) write.key =
      some (write.entry (applyAll store before write.key)) := by
  rw [applyAll_append, applyAll_cons, applyAll_of_not_mem last, apply_self]

/-! ## The same writes again -/

/-- The second write makes its entry as if the first one had not been. -/
def Absorbs (second first : Write Key Entry) : Prop :=
  first.key = second.key → ∀ entry, second.entry (some (first.entry entry)) = second.entry entry

/-- A write that absorbs others makes its entry from what was there before them. -/
theorem entry_applyAll {write : Write Key Entry} {before : List (Write Key Entry)}
    (absorbs : ∀ earlier ∈ before, Absorbs write earlier) (store : Key → Option Entry) :
    write.entry (applyAll store before write.key) = write.entry (store write.key) := by
  induction before generalizing store with
  | nil => rfl
  | cons earlier before ih =>
      have restAbsorbs : ∀ other ∈ before, Absorbs write other :=
        fun other otherMem => absorbs other (List.mem_cons_of_mem _ otherMem)
      rw [applyAll_cons, ih restAbsorbs]
      by_cases sameKey : earlier.key = write.key
      · rw [← sameKey, apply_self, absorbs earlier List.mem_cons_self sameKey]
      · rw [apply_of_ne store (Ne.symm sameKey)]

theorem exists_last {writes : List (Write Key Entry)} {key : Key}
    (written : ∃ write ∈ writes, write.key = key) :
    ∃ before write after, writes = before ++ write :: after ∧ write.key = key ∧
      ∀ later ∈ after, write.key ≠ later.key := by
  induction writes with
  | nil => simp at written
  | cons head rest ih =>
      by_cases inRest : ∃ write ∈ rest, write.key = key
      · obtain ⟨before, write, after, split, isKey, last⟩ := ih inRest
        exact ⟨head :: before, write, after, by rw [split, List.cons_append], isKey, last⟩
      · obtain ⟨write, writeMem, isKey⟩ := written
        cases List.mem_cons.mp writeMem with
        | inr later => exact absurd ⟨write, later, isKey⟩ inRest
        | inl isHead =>
            refine ⟨[], head, rest, rfl, isHead ▸ isKey, ?_⟩
            intro later laterMem sameKey
            exact inRest ⟨later, laterMem, by rw [← sameKey, ← isHead, isKey]⟩

/-- Writes that absorb each other leave nothing to do for a second time. -/
theorem applyAll_twice {writes : List (Write Key Entry)}
    (absorbs : ∀ second ∈ writes, ∀ first ∈ writes, Absorbs second first)
    (store : Key → Option Entry) :
    applyAll (applyAll store writes) writes = applyAll store writes := by
  funext key
  by_cases written : ∃ write ∈ writes, write.key = key
  · obtain ⟨before, write, after, rfl, rfl, last⟩ := exists_last written
    have inAll : write ∈ before ++ write :: after := by simp
    have beforeAbsorbs : ∀ earlier ∈ before, Absorbs write earlier :=
      fun earlier earlierMem => absorbs write inAll earlier (List.mem_append_left _ earlierMem)
    have once : ∀ store, applyAll store (before ++ write :: after) write.key =
        some (write.entry (store write.key)) := by
      intro store
      rw [applyAll_at write last, entry_applyAll beforeAbsorbs]
    rw [once, once, absorbs write inAll write inAll rfl]
  · have others : ∀ write ∈ writes, key ≠ write.key :=
      fun write writeMem same => written ⟨write, writeMem, same.symm⟩
    rw [applyAll_of_not_mem others]

/-! ## Sizes -/

/-- The size of what a key holds. -/
def sizeAt (size : Entry → Nat) (store : Key → Option Entry) (key : Key) : Nat :=
  ((store key).map size).getD 0

/-- The size of an entry grows by what the writes to its key add. -/
theorem sizeAt_applyAll (size : Entry → Nat) (added : Write Key Entry → Nat)
    {writes : List (Write Key Entry)}
    (adds : ∀ write ∈ writes, ∀ entry,
      size (write.entry entry) = (entry.map size).getD 0 + added write)
    (store : Key → Option Entry) (key : Key) :
    sizeAt size (applyAll store writes) key =
      sizeAt size store key + ((writes.filter (·.key = key)).map added).sum := by
  induction writes generalizing store with
  | nil => simp
  | cons write writes ih =>
      have restAdds := fun other otherMem => adds other (List.mem_cons_of_mem write otherMem)
      rw [applyAll_cons, ih restAdds]
      by_cases sameKey : write.key = key
      · have grown : sizeAt size (apply store write) key = sizeAt size store key + added write := by
          rw [sizeAt, ← sameKey, apply_self, Option.map_some, Option.getD_some,
            adds write List.mem_cons_self, sizeAt]
        rw [List.filter_cons_of_pos (by simpa using sameKey), List.map_cons, List.sum_cons, grown,
          add_assoc]
      · have same : sizeAt size (apply store write) key = sizeAt size store key := by
          rw [sizeAt, apply_of_ne store (Ne.symm sameKey), sizeAt]
        rw [List.filter_cons_of_neg (by simpa using sameKey), same]

end Write

end Lib
