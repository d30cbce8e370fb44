import FinanceSync.Lib.GreedyPairs
import Mathlib.Data.List.Nodup
import Mathlib.Data.List.Pairwise
import Mathlib.Data.List.Zip
import Mathlib.Tactic.Tauto

/-!
# Pairs of opposite rows

Rows of two sides are gone through once; each row that is in no pair yet takes the
first later row of its kind on the other side that is in none.  Of each kind the
first row of one side is paired with the first of the other, the second with the
second, until one side has no more.
-/

namespace Lib.OppositePairs

open GreedyPairs (pairedKeys pairedKeys_append)

universe u v w

variable {Row : Type u} {Index : Type v} {Kind : Type w} [DecidableEq Index]

/-- The pairs that are formed after those that there are. -/
def pairOpposites (index : Row → Index) (starts : Row → Bool) (fits : Row → Row → Bool) :
    List Row → List (Row × Row) → List (Row × Row)
  | [], pairs => pairs
  | row :: rest, pairs =>
      if index row ∈ pairedKeys index pairs || !starts row then
        pairOpposites index starts fits rest pairs
      else
        match rest.find? fun candidate =>
            index candidate ∉ pairedKeys index pairs && fits row candidate with
        | none => pairOpposites index starts fits rest pairs
        | some partner => pairOpposites index starts fits rest (pairs ++ [(row, partner)])

/-- Rows start a pair if they have a kind, and fit rows of their kind on the other side. -/
structure TwoSided (starts : Row → Bool) (fits : Row → Row → Bool) (kind : Row → Option Kind)
    (side : Row → Bool) : Prop where
  starts_iff : ∀ row, starts row ↔ (kind row).isSome
  fits_iff : ∀ row candidate, starts row →
    (fits row candidate ↔ kind candidate = kind row ∧ side candidate ≠ side row)

section Runs

variable {index : Row → Index} {starts : Row → Bool} {fits : Row → Row → Bool}

/-- A pair that is formed stays. -/
theorem mem_of_mem {rows : List Row} {pairs : List (Row × Row)} {pair : Row × Row}
    (isMem : pair ∈ pairs) : pair ∈ pairOpposites index starts fits rows pairs := by
  induction rows generalizing pairs with
  | nil => exact isMem
  | cons row rest ih =>
      rw [pairOpposites]
      split
      · exact ih isMem
      · split
        · exact ih isMem
        · exact ih (List.mem_append_left _ isMem)

/-- Only rows that are gone through get into a pair. -/
theorem pairedKeys_subset {rows : List Row} {pairs : List (Row × Row)} {used : Index}
    (isUsed : used ∈ pairedKeys index (pairOpposites index starts fits rows pairs)) :
    used ∈ pairedKeys index pairs ∨ used ∈ rows.map index := by
  induction rows generalizing pairs with
  | nil => exact .inl isUsed
  | cons row rest ih =>
      rw [pairOpposites] at isUsed
      rw [List.map_cons, List.mem_cons]
      split at isUsed
      · exact (ih isUsed).imp_right .inr
      · split at isUsed
        · exact (ih isUsed).imp_right .inr
        · next partner isPartner =>
            rcases ih isUsed with before | later
            · rw [pairedKeys_append, List.mem_append, List.mem_cons, List.mem_singleton] at before
              rcases before with before | rfl | rfl
              · exact .inl before
              · exact .inr (.inl rfl)
              · exact .inr (.inr (List.mem_map_of_mem (List.mem_of_find?_eq_some isPartner)))
            · exact .inr (.inr later)

/-- No row is in two pairs. -/
theorem nodup_pairedKeys {rows : List Row} (nodup : (rows.map index).Nodup)
    {pairs : List (Row × Row)} (apart : (pairedKeys index pairs).Nodup) :
    (pairedKeys index (pairOpposites index starts fits rows pairs)).Nodup := by
  induction rows generalizing pairs with
  | nil => exact apart
  | cons row rest ih =>
      rw [List.map_cons, List.nodup_cons] at nodup
      rw [pairOpposites]
      split
      · exact ih nodup.2 apart
      · next isOpen =>
          rw [Bool.or_eq_true, decide_eq_true_eq, not_or] at isOpen
          split
          · exact ih nodup.2 apart
          · next partner isPartner =>
              have inRest := List.mem_map_of_mem (f := index) (List.mem_of_find?_eq_some isPartner)
              have isFree := List.find?_some isPartner
              rw [Bool.and_eq_true, decide_eq_true_eq] at isFree
              refine ih nodup.2 ?_
              rw [pairedKeys_append, List.nodup_append]
              refine ⟨apart, ?_, ?_⟩
              · rw [List.nodup_cons, List.mem_singleton]
                exact ⟨fun same => nodup.1 (same ▸ inRest), List.pairwise_singleton _ _⟩
              · intro old oldMem new newMem clash
                rw [List.mem_cons, List.mem_singleton] at newMem
                rcases newMem with rfl | rfl
                · exact isOpen.1 (clash ▸ oldMem)
                · exact isFree.1 (clash ▸ oldMem)

end Runs

/-! ## Open rows -/

section Open

variable [DecidableEq Kind] (index : Row → Index) (kind : Row → Option Kind) (side : Row → Bool)

/-- The rows of a kind and a side that are in no pair. -/
def openRows (wanted : Kind) (of : Bool) (rows : List Row) (pairs : List (Row × Row)) :
    List Row :=
  rows.filter fun row =>
    kind row = some wanted ∧ side row = of ∧ index row ∉ pairedKeys index pairs

variable {index kind side} {row : Row} {rest : List Row} {pairs : List (Row × Row)}
  {wanted : Kind} {of : Bool}

theorem openRows_skip
    (closed : index row ∈ pairedKeys index pairs ∨ kind row = none) :
    openRows index kind side wanted of (row :: rest) pairs =
      openRows index kind side wanted of rest pairs := by
  apply List.filter_cons_of_neg
  rw [decide_eq_true_eq]
  rintro ⟨isKind, _, isFree⟩
  rcases closed with isPaired | noKind
  · exact isFree isPaired
  · rw [noKind] at isKind
    cases isKind

theorem openRows_other (other : ¬ (kind row = some wanted ∧ side row = of)) :
    openRows index kind side wanted of (row :: rest) pairs =
      openRows index kind side wanted of rest pairs := by
  apply List.filter_cons_of_neg
  rw [decide_eq_true_eq]
  exact fun both => other ⟨both.1, both.2.1⟩

theorem openRows_here (isKind : kind row = some wanted) (isSide : side row = of)
    (isFree : index row ∉ pairedKeys index pairs) :
    openRows index kind side wanted of (row :: rest) pairs =
      row :: openRows index kind side wanted of rest pairs := by
  apply List.filter_cons_of_pos
  rw [decide_eq_true_eq]
  exact ⟨isKind, isSide, isFree⟩

/-- A pair closes its two rows only. -/
theorem openRows_pair {partner : Row} (rowAway : index row ∉ rest.map index) :
    openRows index kind side wanted of rest (pairs ++ [(row, partner)]) =
      (openRows index kind side wanted of rest pairs).filter (index · ≠ index partner) := by
  rw [openRows, openRows, List.filter_filter]
  apply List.filter_congr
  intro other otherMem
  have notRow : index other ≠ index row := by
    intro same
    exact rowAway (same ▸ List.mem_map_of_mem otherMem)
  rw [← Bool.decide_and, decide_eq_decide, pairedKeys_append, List.mem_append, List.mem_cons,
    List.mem_singleton]
  tauto

/-- What is left of the side of a partner. -/
theorem openRows_pair_taken {partner : Row} {later : List Row}
    (nodup : ((row :: rest).map index).Nodup)
    (taken : openRows index kind side wanted of rest pairs = partner :: later) :
    openRows index kind side wanted of rest (pairs ++ [(row, partner)]) = later := by
  rw [List.map_cons, List.nodup_cons] at nodup
  have apart : ((partner :: later).map index).Nodup := by
    rw [← taken]
    exact nodup.2.sublist (List.filter_sublist.map index)
  rw [List.map_cons, List.nodup_cons] at apart
  rw [openRows_pair nodup.1, taken, List.filter_cons_of_neg (by simp), List.filter_eq_self]
  intro other otherMem
  rw [decide_eq_true_eq]
  intro same
  exact apart.1 (same ▸ List.mem_map_of_mem otherMem)

/-- Nothing is left out on the other side, or of another kind. -/
theorem openRows_pair_other {partner : Row} (nodup : ((row :: rest).map index).Nodup)
    (inRest : partner ∈ rest) (other : ¬ (kind partner = some wanted ∧ side partner = of)) :
    openRows index kind side wanted of rest (pairs ++ [(row, partner)]) =
      openRows index kind side wanted of rest pairs := by
  rw [List.map_cons, List.nodup_cons] at nodup
  rw [openRows_pair nodup.1, List.filter_eq_self]
  intro candidate candidateMem
  rw [decide_eq_true_eq]
  intro same
  obtain ⟨inRows, isOpen⟩ := List.mem_filter.mp candidateMem
  rw [decide_eq_true_eq] at isOpen
  rw [List.inj_on_of_nodup_map nodup.2 inRows inRest same] at isOpen
  exact other ⟨isOpen.1, isOpen.2.1⟩

end Open

/-! ## Who is paired -/

section Paired

variable [DecidableEq Kind] {index : Row → Index} {starts : Row → Bool} {fits : Row → Row → Bool}
  {kind : Row → Option Kind} {side : Row → Bool}

/-- What one row does: it is passed over, finds nobody, or takes the first open row of
its kind on the other side. -/
theorem pairOpposites_cases (index : Row → Index) (twoSided : TwoSided starts fits kind side)
    (row : Row) (rest : List Row) (pairs : List (Row × Row)) :
    (index row ∈ pairedKeys index pairs ∨ kind row = none) ∧
        pairOpposites index starts fits (row :: rest) pairs =
          pairOpposites index starts fits rest pairs ∨
      ∃ wanted, kind row = some wanted ∧ index row ∉ pairedKeys index pairs ∧
        (openRows index kind side wanted (!side row) rest pairs = [] ∧
            pairOpposites index starts fits (row :: rest) pairs =
              pairOpposites index starts fits rest pairs ∨
          ∃ partner later,
            openRows index kind side wanted (!side row) rest pairs = partner :: later ∧
              pairOpposites index starts fits (row :: rest) pairs =
                pairOpposites index starts fits rest (pairs ++ [(row, partner)])) := by
  by_cases closed : index row ∈ pairedKeys index pairs ∨ kind row = none
  · refine .inl ⟨closed, ?_⟩
    rw [pairOpposites, if_pos]
    rw [Bool.or_eq_true, decide_eq_true_eq]
    refine closed.imp_right fun noKind => ?_
    rw [Bool.not_eq_true', ← Bool.not_eq_true, twoSided.starts_iff, noKind]
    simp
  · rw [not_or] at closed
    obtain ⟨wanted, isKind⟩ := Option.ne_none_iff_exists'.mp closed.2
    have isStart : starts row := (twoSided.starts_iff row).mpr (by simp [isKind])
    refine .inr ⟨wanted, isKind, closed.1, ?_⟩
    have first : (rest.find? fun candidate =>
        index candidate ∉ pairedKeys index pairs && fits row candidate) =
          (openRows index kind side wanted (!side row) rest pairs).head? := by
      rw [openRows, List.head?_filter]
      congr 1
      funext candidate
      rw [Bool.eq_iff_iff, Bool.and_eq_true, decide_eq_true_eq, decide_eq_true_eq,
        twoSided.fits_iff row candidate isStart, isKind, Bool.eq_not_iff]
      tauto
    rw [pairOpposites, if_neg (by simp [closed.1, isStart]), first]
    cases openRows index kind side wanted (!side row) rest pairs with
    | nil => exact .inl ⟨rfl, rfl⟩
    | cons partner later => exact .inr ⟨partner, later, rfl, rfl⟩

/-- Two lists are paired in their order: the first with the first, the second with the
second, and what is left of the longer with nobody. -/
structure InOrder (index : Row → Index) (pairs : List (Row × Row)) (left right : List Row) :
    Prop where
  paired : ∀ pair ∈ left.zip right, pair ∈ pairs ∨ pair.swap ∈ pairs
  leftOver : ∀ row ∈ left.drop right.length ++ right.drop left.length,
    index row ∉ pairedKeys index pairs

namespace InOrder

variable {pairs : List (Row × Row)} {left right : List Row}

omit [DecidableEq Index] in
theorem symm (inOrder : InOrder index pairs left right) : InOrder index pairs right left where
  paired pair isMem := by
    have swapped : pair.swap ∈ left.zip right := by
      rw [← List.zip_swap]
      exact List.mem_map_of_mem isMem
    rcases inOrder.paired pair.swap swapped with isPair | isPair
    · exact .inr isPair
    · exact .inl isPair
  leftOver row isMem := by
    apply inOrder.leftOver row
    rw [List.mem_append] at isMem ⊢
    exact isMem.symm

omit [DecidableEq Index] in
theorem cons {row partner : Row} (isPair : (row, partner) ∈ pairs)
    (inOrder : InOrder index pairs left right) :
    InOrder index pairs (row :: left) (partner :: right) where
  paired := by
    rw [List.zip_cons_cons, List.forall_mem_cons]
    exact ⟨.inl isPair, inOrder.paired⟩
  leftOver := inOrder.leftOver

omit [DecidableEq Index] in
theorem alone {row : Row} (isFree : index row ∉ pairedKeys index pairs)
    (inOrder : InOrder index pairs left []) : InOrder index pairs (row :: left) [] where
  paired := by simp
  leftOver := by
    have rest := inOrder.leftOver
    rw [List.length_nil, List.drop_zero, List.drop_nil, List.append_nil] at rest ⊢
    exact List.forall_mem_cons.mpr ⟨isFree, rest⟩

end InOrder

/-- The open rows of the two sides of a kind are paired in their order. -/
theorem inOrder_pairOpposites (twoSided : TwoSided starts fits kind side) {rows : List Row}
    (nodup : (rows.map index).Nodup) (pairs : List (Row × Row)) (wanted : Kind) (of : Bool) :
    InOrder index (pairOpposites index starts fits rows pairs)
      (openRows index kind side wanted of rows pairs)
      (openRows index kind side wanted (!of) rows pairs) := by
  induction rows generalizing pairs of with
  | nil => exact ⟨by simp [openRows], by simp [openRows]⟩
  | cons row rest ih =>
      have restNodup := (List.nodup_cons.mp nodup).2
      have rowAway := (List.nodup_cons.mp nodup).1
      rcases pairOpposites_cases index twoSided row rest pairs with
        ⟨closed, same⟩ | ⟨found, isKind, isFree, outcome⟩
      · have skip (of : Bool) : openRows index kind side wanted of (row :: rest) pairs =
            openRows index kind side wanted of rest pairs := openRows_skip closed
        rw [skip, skip, same]
        exact ih restNodup pairs of
      by_cases here : wanted = found
      · subst here
        -- The sides are alike, so that the row is on the first.
        suffices onFirst : InOrder index (pairOpposites index starts fits (row :: rest) pairs)
            (openRows index kind side wanted (side row) (row :: rest) pairs)
            (openRows index kind side wanted (!side row) (row :: rest) pairs) by
          rcases Bool.eq_or_eq_not of (side row) with rfl | rfl
          · exact onFirst
          · rw [Bool.not_not]
            exact onFirst.symm
        have mine : openRows index kind side wanted (side row) (row :: rest) pairs =
            row :: openRows index kind side wanted (side row) rest pairs :=
          openRows_here isKind rfl isFree
        have theirs : openRows index kind side wanted (!side row) (row :: rest) pairs =
            openRows index kind side wanted (!side row) rest pairs :=
          openRows_other fun both => (Bool.eq_not_self _).mp both.2
        rw [mine, theirs]
        rcases outcome with ⟨alone, same⟩ | ⟨partner, later, taken, formed⟩
        · have stays : index row ∉
              pairedKeys index (pairOpposites index starts fits rest pairs) :=
            fun isUsed => (pairedKeys_subset isUsed).elim isFree rowAway
          rw [same, alone]
          refine InOrder.alone stays ?_
          rw [← alone]
          exact ih restNodup pairs (side row)
        · have isPair : (row, partner) ∈
              pairOpposites index starts fits rest (pairs ++ [(row, partner)]) :=
            mem_of_mem (List.mem_append_right _ List.mem_cons_self)
          have partnerMem : partner ∈ openRows index kind side wanted (!side row) rest pairs := by
            rw [taken]
            exact List.mem_cons_self
          obtain ⟨inRest, isOpen⟩ := List.mem_filter.mp partnerMem
          rw [decide_eq_true_eq] at isOpen
          have mineLeft : openRows index kind side wanted (side row) rest
              (pairs ++ [(row, partner)]) = openRows index kind side wanted (side row) rest pairs :=
            openRows_pair_other nodup inRest fun both =>
              (Bool.eq_not_self _).mp (both.2.symm.trans isOpen.2.1)
          have theirsLeft := openRows_pair_taken nodup taken
          rw [formed, taken]
          refine InOrder.cons isPair ?_
          rw [← mineLeft, ← theirsLeft]
          exact ih restNodup _ (side row)
      · have others (of : Bool) : openRows index kind side wanted of (row :: rest) pairs =
            openRows index kind side wanted of rest pairs :=
          openRows_other fun both => here (Option.some.inj (both.1.symm.trans isKind))
        rw [others, others]
        rcases outcome with ⟨-, same⟩ | ⟨partner, later, taken, formed⟩
        · rw [same]
          exact ih restNodup pairs of
        · have partnerMem : partner ∈ openRows index kind side found (!side row) rest pairs := by
            rw [taken]
            exact List.mem_cons_self
          obtain ⟨inRest, isOpen⟩ := List.mem_filter.mp partnerMem
          rw [decide_eq_true_eq] at isOpen
          have unchanged (of : Bool) :
              openRows index kind side wanted of rest (pairs ++ [(row, partner)]) =
                openRows index kind side wanted of rest pairs :=
            openRows_pair_other nodup inRest fun both =>
              here (Option.some.inj (both.1.symm.trans isOpen.1))
          rw [formed, ← unchanged, ← unchanged]
          exact ih restNodup _ of

end Paired

/-- Two pairs of disjoint pairs have no row in common. -/
theorem eq_of_shared {index : Row → Index} {pairs : List (Row × Row)}
    (apart : (pairedKeys index pairs).Nodup) {first second : Row × Row} (firstMem : first ∈ pairs)
    (secondMem : second ∈ pairs) {shared : Index}
    (inFirst : index first.1 = shared ∨ index first.2 = shared)
    (inSecond : index second.1 = shared ∨ index second.2 = shared) : first = second := by
  by_contra differ
  have symmetric : Std.Symm
      (Function.onFun List.Disjoint fun pair : Row × Row => [index pair.1, index pair.2]) :=
    ⟨fun _ _ disjoint _ inFirst inSecond => disjoint inSecond inFirst⟩
  have disjoint := (List.nodup_flatMap.mp apart).2.forall firstMem secondMem differ
  have here {pair : Row × Row} (inPair : index pair.1 = shared ∨ index pair.2 = shared) :
      shared ∈ [index pair.1, index pair.2] := by
    rw [List.mem_cons, List.mem_singleton]
    exact inPair.imp Eq.symm Eq.symm
  exact disjoint (here inFirst) (here inSecond)

/-! ## Counting -/

section Counting

variable (differs : Row → Row → Bool) (reported : Row → Bool)

/-- Where the two rows of a pair are reported if they differ, and what is left over is
reported, the reports are twice the pairs that differ and the surplus of a side. -/
theorem countP_reported {left right : List Row}
    (ofPair : ∀ pair ∈ left.zip right, reported pair.1 = differs pair.1 pair.2 ∧
      reported pair.2 = differs pair.1 pair.2)
    (leftOver : ∀ row ∈ left.drop right.length ++ right.drop left.length, reported row) :
    left.countP reported + right.countP reported =
      2 * (left.zip right).countP (fun pair => differs pair.1 pair.2) +
        ((left.length : Int) - right.length).natAbs := by
  induction left generalizing right with
  | nil =>
      have all : right.countP reported = right.length :=
        List.countP_eq_length.mpr fun row rowMem => leftOver row (by simpa using rowMem)
      simp [all]
  | cons row rest ih =>
      cases right with
      | nil =>
          have all : (row :: rest).countP reported = (row :: rest).length :=
            List.countP_eq_length.mpr fun other otherMem => leftOver other (by simpa using otherMem)
          simp [all]
          omega
      | cons partner later =>
          rw [List.zip_cons_cons, List.forall_mem_cons] at ofPair
          have step := ih ofPair.2 leftOver
          rw [List.zip_cons_cons, List.countP_cons, List.countP_cons, List.countP_cons,
            ofPair.1.1, ofPair.1.2, List.length_cons, List.length_cons]
          push_cast
          split_ifs <;> omega

end Counting

end Lib.OppositePairs
