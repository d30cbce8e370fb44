import Mathlib.Data.Fintype.Card
import Mathlib.Data.List.Nodup
import Mathlib.Data.List.Range
import Mathlib.Data.List.Infix

/-!
# Chains of named pages

A name leads to a page, and a page to the next name.  Names are followed until one comes
back, which happens where the pages are finitely many.  By then every page that the names
lead to has been seen, and no page twice exactly if none goes by two names.
-/

namespace Lib

variable {Name Page : Type}

structure Chain (Name Page : Type) where
  first : Name
  pageOf : Name → Page
  next : Page → Option Name

namespace Chain

variable (chain : Chain Name Page)

def nameAt : Nat → Option Name
  | 0 => some chain.first
  | count + 1 => (nameAt count).bind fun name => chain.next (chain.pageOf name)

/-- The first names, as far as there are that many. -/
def names (count : Nat) : List Name := (List.range count).filterMap chain.nameAt

def pages (count : Nat) : List Page := (chain.names count).map chain.pageOf

theorem names_succ (count : Nat) :
    chain.names (count + 1) = chain.names count ++ (chain.nameAt count).toList := by
  rw [names, List.range_succ, List.filterMap_append]
  cases atCount : chain.nameAt count <;> simp [names, atCount]

theorem mem_names {count : Nat} {name : Name} :
    name ∈ chain.names count ↔ ∃ index < count, chain.nameAt index = some name := by
  simp [names]

theorem names_prefix {fewer more : Nat} (le : fewer ≤ more) :
    chain.names fewer <+: chain.names more := by
  induction more, le using Nat.le_induction with
  | base => exact List.prefix_rfl
  | succ more _ ih =>
      rw [names_succ]
      exact ih.trans (List.prefix_append _ _)

theorem pages_prefix {fewer more : Nat} (le : fewer ≤ more) :
    chain.pages fewer <+: chain.pages more :=
  (chain.names_prefix le).map _

/-- The first names, all different, and what comes after the last. -/
structure IsTrail (seen : List Name) (name : Option Name) : Prop where
  names : chain.names seen.length = seen
  nodup : seen.Nodup
  next : chain.nameAt seen.length = name

namespace IsTrail

variable {chain} {seen : List Name} {name : Option Name}

theorem start : chain.IsTrail [] (some chain.first) :=
  ⟨rfl, List.nodup_nil, rfl⟩

theorem step {name : Name} (trail : chain.IsTrail seen (some name)) (isNew : name ∉ seen) :
    chain.IsTrail (seen ++ [name]) (chain.next (chain.pageOf name)) where
  names := by
    rw [List.length_append, List.length_singleton, names_succ, trail.names, trail.next]
    rfl
  nodup := by
    rw [← List.concat_eq_append]
    exact trail.nodup.concat isNew
  next := by
    rw [List.length_append, List.length_singleton, nameAt, trail.next]
    rfl

theorem mem_iff (trail : chain.IsTrail seen name) {other : Name} :
    other ∈ seen ↔ ∃ index < seen.length, chain.nameAt index = some other := by
  have isMem : other ∈ chain.names seen.length ↔ _ := chain.mem_names
  rwa [trail.names] at isMem

theorem pages (trail : chain.IsTrail seen name) :
    chain.pages seen.length = seen.map chain.pageOf := by
  rw [Chain.pages, trail.names]

/-- There is a name for every page, and the first one. -/
theorem length_le [Fintype Page] (trail : chain.IsTrail seen name) :
    seen.length ≤ Fintype.card Page + 1 := by
  classical
  have covered : seen ⊆ chain.first :: Finset.univ.toList.filterMap chain.next := by
    intro other isMem
    rcases trail.mem_iff.mp isMem with ⟨index, _, atIndex⟩
    cases index with
    | zero =>
        rw [nameAt] at atIndex
        rw [← Option.some.inj atIndex]
        exact List.mem_cons_self
    | succ index =>
        rw [nameAt, Option.bind_eq_some_iff] at atIndex
        rcases atIndex with ⟨previous, _, isNext⟩
        apply List.mem_cons_of_mem
        rw [List.mem_filterMap]
        exact ⟨chain.pageOf previous, Finset.mem_toList.mpr (Finset.mem_univ _), isNext⟩
  calc
    seen.length ≤ (chain.first :: Finset.univ.toList.filterMap chain.next).length :=
      (trail.nodup.subperm covered).length_le
    _ ≤ Fintype.card Page + 1 := by
      rw [List.length_cons, ← Finset.card_univ, ← Finset.length_toList]
      exact Nat.succ_le_succ (List.length_filterMap_le _ _)

/-! ## The end of a trail -/

/-- There is no further name, or it has been seen. -/
def Ended (seen : List Name) (name : Option Name) : Prop := ∀ other ∈ name, other ∈ seen

theorem all_seen (trail : chain.IsTrail seen name) (ended : Ended seen name) {index : Nat}
    {other : Name} (atIndex : chain.nameAt index = some other) : other ∈ seen := by
  induction index generalizing other with
  | zero =>
      cases seen with
      | nil =>
          have isFirst := trail.next
          rw [List.length_nil, atIndex] at isFirst
          exact ended other isFirst.symm
      | cons head rest => exact trail.mem_iff.mpr ⟨0, Nat.succ_pos _, atIndex⟩
  | succ index ih =>
      rw [nameAt, Option.bind_eq_some_iff] at atIndex
      rcases atIndex with ⟨previous, isPrevious, isNext⟩
      -- The previous name has been seen at some place, and this one comes after that.
      rcases trail.mem_iff.mp (ih isPrevious) with ⟨place, inside, atPlace⟩
      have after : chain.nameAt (place + 1) = some other := by
        rw [nameAt, atPlace]
        exact isNext
      rcases Nat.lt_or_eq_of_le (Nat.succ_le_of_lt inside) with within | last
      · exact trail.mem_iff.mpr ⟨place + 1, within, after⟩
      · apply ended
        rw [← trail.next, ← last]
        exact after

/-- Where names are followed until they end or a stop is reached, no page is seen twice
exactly if each page goes by one name up to the stop. -/
theorem nodup_pages_iff (stop : List Page → Prop) (trail : chain.IsTrail seen name)
    (mono : ∀ {fewer more}, fewer <+: more → stop fewer → stop more)
    (goes : ∀ count < seen.length, ¬ stop (chain.pages count))
    (done : Ended seen name ∨ stop (chain.pages seen.length)) :
    (seen.map chain.pageOf).Nodup ↔
      ∀ {earlier later one other}, earlier < later → chain.nameAt earlier = some one →
        chain.nameAt later = some other → chain.pageOf one = chain.pageOf other →
        one ≠ other → stop (chain.pages later) := by
  constructor
  · intro nodup earlier later one other before atEarlier atLater samePage ne
    by_contra notYet
    have within : ∀ {index found}, index ≤ later → chain.nameAt index = some found →
        found ∈ seen := by
      intro index found le atIndex
      rcases done with ended | stopped
      · exact trail.all_seen ended atIndex
      · rw [trail.mem_iff]
        refine ⟨index, lt_of_not_ge fun outside => ?_, atIndex⟩
        exact notYet (mono (chain.pages_prefix (outside.trans le)) stopped)
    exact ne (List.inj_on_of_nodup_map nodup (within before.le atEarlier)
      (within le_rfl atLater) samePage)
  · intro oneName
    rw [List.nodup_map_iff_inj_on trail.nodup]
    intro one isOne other isOther samePage
    by_contra ne
    rcases trail.mem_iff.mp isOne with ⟨first, firstInside, atFirst⟩
    rcases trail.mem_iff.mp isOther with ⟨second, secondInside, atSecond⟩
    rcases lt_trichotomy first second with before | same | after
    · exact goes second secondInside (oneName before atFirst atSecond samePage ne)
    · rw [same, atSecond] at atFirst
      exact ne (Option.some.inj atFirst).symm
    · exact goes first firstInside
        (oneName after atSecond atFirst samePage.symm (Ne.symm ne))

/-- Pages that are all different have been seen by the end. -/
theorem pages_prefix_of_nodup (trail : chain.IsTrail seen name) (ended : Ended seen name)
    {count : Nat} (nodup : (chain.pages count).Nodup) :
    chain.pages count <+: seen.map chain.pageOf := by
  rw [← trail.pages]
  induction count with
  | zero => exact List.nil_prefix
  | succ count ih =>
      have names := chain.names_succ count
      cases atCount : chain.nameAt count with
      | none =>
          rw [atCount, Option.toList_none, List.append_nil] at names
          rw [Chain.pages, names] at nodup ⊢
          exact ih nodup
      | some last =>
          apply chain.pages_prefix
          by_contra outside
          rw [Nat.not_le, Nat.lt_succ_iff] at outside
          -- The last name has been seen before, and so its page comes twice.
          rcases trail.mem_iff.mp (trail.all_seen ended atCount) with ⟨place, inside, atPlace⟩
          have isEarlier : last ∈ chain.names count :=
            chain.mem_names.mpr ⟨place, inside.trans_le outside, atPlace⟩
          rw [Chain.pages, names, atCount, List.map_append] at nodup
          exact (List.disjoint_of_nodup_append nodup) (List.mem_map_of_mem isEarlier)
            (List.mem_map_of_mem (by simp))

end IsTrail

end Chain

end Lib
