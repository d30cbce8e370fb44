import Mathlib.Algebra.Order.BigOperators.Group.List
import Mathlib.Algebra.Order.Field.Basic
import Mathlib.Data.List.Sort
import Mathlib.Tactic.Linarith

/-!
# Serving a demand from sources in order

A demand is served from a list of sources, each source giving as much as it
offers or as much as is still needed, until nothing is needed any more.  The
whole effect of such a loop is known from the offers before a source: a source
is reached exactly if the earlier offers do not cover the demand.
-/

namespace Lib

universe u v

variable {Source : Type u} {K : Type v} [AddCommGroup K]

/-- The sources that give something to the demand, each with what it gives.
The loop stops as soon as nothing is needed any more. -/
def draw [LinearOrder K] (offer : Source → K) : K → List Source → List (Source × K)
  | _, [] => []
  | demand, source :: rest =>
      if demand ≤ 0 then []
      else
        let given := min demand (offer source)
        (source, given) :: draw offer (demand - given) rest

/-- What a draw gives in total. -/
def drawn (allocations : List (Source × K)) : K :=
  (allocations.map Prod.snd).sum

@[simp] theorem drawn_nil : drawn ([] : List (Source × K)) = 0 := rfl

@[simp] theorem drawn_cons (allocation : Source × K) (rest : List (Source × K)) :
    drawn (allocation :: rest) = allocation.2 + drawn rest := by
  simp [drawn]

variable [LinearOrder K]

section Equations

variable (offer : Source → K) {demand : K} {source : Source} {rest : List Source}

@[simp] theorem draw_nil : draw offer demand [] = [] := rfl

theorem draw_of_nonpos (served : demand ≤ 0) (sources : List Source) :
    draw offer demand sources = [] := by
  cases sources with
  | nil => rfl
  | cons source rest => simp [draw, served]

theorem draw_cons_of_pos (needed : 0 < demand) :
    draw offer demand (source :: rest) =
      (source, min demand (offer source)) ::
        draw offer (demand - min demand (offer source)) rest := by
  simp [draw, not_le.mpr needed]

end Equations

/-- Sources are reached in order, each at most once. -/
theorem draw_sources_sublist (offer : Source → K) (sources : List Source) :
    ∀ demand : K, ((draw offer demand sources).map Prod.fst).Sublist sources := by
  induction sources with
  | nil => intro demand; simp
  | cons source rest ih =>
      intro demand
      by_cases served : demand ≤ 0
      · rw [draw_of_nonpos offer served]
        exact List.nil_sublist _
      · rw [draw_cons_of_pos offer (not_le.mp served), List.map_cons]
        exact (ih _).cons_cons source

theorem mem_of_mem_draw {offer : Source → K} {demand : K} {sources : List Source}
    {allocation : Source × K} (isMem : allocation ∈ draw offer demand sources) :
    allocation.1 ∈ sources :=
  (draw_sources_sublist offer sources demand).subset (List.mem_map_of_mem isMem)

variable [IsOrderedAddMonoid K]

theorem sum_offers_nonneg {offer : Source → K} {sources : List Source}
    (nonneg : ∀ source ∈ sources, 0 ≤ offer source) : 0 ≤ (sources.map offer).sum := by
  refine List.sum_nonneg fun value valueMem => ?_
  obtain ⟨source, sourceMem, rfl⟩ := List.mem_map.mp valueMem
  exact nonneg source sourceMem

/-- Which sources are reached, and with how much: a source is reached exactly if
the offers before it leave a part of the demand, and it gives that part or all
it offers. -/
theorem mem_draw_iff {offer : Source → K} {allocation : Source × K}
    (sources : List Source) (nonneg : ∀ source ∈ sources, 0 ≤ offer source) :
    ∀ demand : K, allocation ∈ draw offer demand sources ↔
      ∃ before after, sources = before ++ allocation.1 :: after ∧
        (before.map offer).sum < demand ∧
        allocation.2 = min (demand - (before.map offer).sum) (offer allocation.1) := by
  induction sources with
  | nil => intro demand; simp
  | cons source rest ih =>
      intro demand
      have offerNonneg := nonneg source List.mem_cons_self
      have restNonneg : ∀ other ∈ rest, 0 ≤ offer other :=
        fun other otherMem => nonneg other (List.mem_cons_of_mem _ otherMem)
      by_cases served : demand ≤ 0
      · rw [draw_of_nonpos offer served]
        simp only [List.not_mem_nil, false_iff, not_exists, not_and]
        intro before after split short
        have beforeNonneg : 0 ≤ (before.map offer).sum :=
          sum_offers_nonneg fun other otherMem =>
            nonneg other (by rw [split]; exact List.mem_append_left _ otherMem)
        exact absurd (lt_of_le_of_lt beforeNonneg short) (not_lt.mpr served)
      · have needed := not_le.mp served
        rw [draw_cons_of_pos offer needed, List.mem_cons, ih restNonneg]
        constructor
        · rintro (rfl | ⟨before, after, split, short, amount⟩)
          · exact ⟨[], rest, rfl, by simpa using needed, by simp⟩
          · have whole : min demand (offer source) = offer source := by
              refine min_eq_right (le_of_lt ?_)
              have beforeNonneg : 0 ≤ (before.map offer).sum :=
                sum_offers_nonneg fun other otherMem =>
                  restNonneg other (by rw [split]; exact List.mem_append_left _ otherMem)
              have remaining := lt_of_le_of_lt beforeNonneg short
              by_contra notLess
              rw [min_eq_left (not_lt.mp notLess), sub_self] at remaining
              exact lt_irrefl _ remaining
            rw [whole] at short amount
            refine ⟨source :: before, after, by rw [split, List.cons_append], ?_, ?_⟩
            · rw [List.map_cons, List.sum_cons]
              exact lt_sub_iff_add_lt'.mp short
            · rw [List.map_cons, List.sum_cons, ← sub_sub]
              exact amount
        · rintro ⟨before, after, split, short, amount⟩
          cases before with
          | nil =>
              left
              rw [List.nil_append, List.cons.injEq] at split
              refine Prod.ext split.1.symm ?_
              rw [amount, List.map_nil, List.sum_nil, sub_zero, split.1]
          | cons first before =>
              right
              rw [List.cons_append, List.cons.injEq] at split
              obtain ⟨rfl, split⟩ := split
              rw [List.map_cons, List.sum_cons] at short amount
              have beforeNonneg : 0 ≤ (before.map offer).sum :=
                sum_offers_nonneg fun other otherMem =>
                  restNonneg other (by rw [split]; exact List.mem_append_left _ otherMem)
              have whole : min demand (offer source) = offer source :=
                min_eq_right (le_of_lt
                  (lt_of_le_of_lt (le_add_of_nonneg_right beforeNonneg) short))
              rw [whole]
              refine ⟨before, after, split, lt_sub_iff_add_lt'.mpr short, ?_⟩
              rw [amount, sub_sub]

/-- A draw gives the whole demand, or everything the sources offer. -/
theorem drawn_draw {offer : Source → K} (sources : List Source)
    (nonneg : ∀ source ∈ sources, 0 ≤ offer source) :
    ∀ {demand : K}, 0 ≤ demand →
      drawn (draw offer demand sources) = min demand (sources.map offer).sum := by
  induction sources with
  | nil =>
      intro demand demandNonneg
      simp [demandNonneg]
  | cons source rest ih =>
      intro demand demandNonneg
      have offerNonneg := nonneg source List.mem_cons_self
      have restNonneg : ∀ other ∈ rest, 0 ≤ offer other :=
        fun other otherMem => nonneg other (List.mem_cons_of_mem _ otherMem)
      have restSum : 0 ≤ (rest.map offer).sum := sum_offers_nonneg restNonneg
      rcases demandNonneg.eq_or_lt with rfl | needed
      · rw [draw_of_nonpos offer le_rfl, drawn_nil, List.map_cons, List.sum_cons,
          min_eq_left (add_nonneg offerNonneg restSum)]
      · rw [draw_cons_of_pos offer needed, drawn_cons,
          ih restNonneg (sub_nonneg.mpr (min_le_left _ _)),
          List.map_cons, List.sum_cons]
        rcases le_total demand (offer source) with enough | short
        · rw [min_eq_left enough, sub_self, min_eq_left restSum, add_zero,
            min_eq_left (le_trans enough (le_add_of_nonneg_right restSum))]
        · rw [min_eq_right short, ← min_add_add_left, add_sub_cancel]

/-- Sources that offer enough serve the whole demand. -/
theorem drawn_draw_of_covered {offer : Source → K} {sources : List Source} {demand : K}
    (nonneg : ∀ source ∈ sources, 0 ≤ offer source) (demandNonneg : 0 ≤ demand)
    (covered : demand ≤ (sources.map offer).sum) :
    drawn (draw offer demand sources) = demand := by
  rw [drawn_draw sources nonneg demandNonneg, min_eq_left covered]

/-- No source gives more than it offers. -/
theorem given_le_offer {offer : Source → K} {demand : K} {sources : List Source}
    (nonneg : ∀ source ∈ sources, 0 ≤ offer source) {allocation : Source × K}
    (isMem : allocation ∈ draw offer demand sources) :
    allocation.2 ≤ offer allocation.1 := by
  obtain ⟨before, after, _, _, amount⟩ := (mem_draw_iff sources nonneg demand).mp isMem
  rw [amount]
  exact min_le_right _ _

theorem given_nonneg {offer : Source → K} {demand : K} {sources : List Source}
    (nonneg : ∀ source ∈ sources, 0 ≤ offer source) {allocation : Source × K}
    (isMem : allocation ∈ draw offer demand sources) : 0 ≤ allocation.2 := by
  have sourceNonneg := nonneg _ (mem_of_mem_draw isMem)
  obtain ⟨before, after, _, short, amount⟩ := (mem_draw_iff sources nonneg demand).mp isMem
  rw [amount]
  exact le_min (sub_nonneg.mpr short.le) sourceNonneg

/-- If all sources have something to offer, every reached source gives something. -/
theorem given_pos {offer : Source → K} {demand : K} {sources : List Source}
    (positive : ∀ source ∈ sources, 0 < offer source) {allocation : Source × K}
    (isMem : allocation ∈ draw offer demand sources) : 0 < allocation.2 := by
  have sourcePos := positive _ (mem_of_mem_draw isMem)
  obtain ⟨before, after, _, short, amount⟩ :=
    (mem_draw_iff sources (fun source sourceMem => (positive source sourceMem).le) demand).mp
      isMem
  rw [amount]
  exact lt_min (sub_pos.mpr short) sourcePos

/-- A source that gives something is reached: the offers before it leave a part of the
demand. -/
theorem sum_before_lt_of_reached {offer : Source → K} {demand given : K} {source : Source}
    {before after : List Source} (nonneg : ∀ other ∈ before ++ source :: after, 0 ≤ offer other)
    (once : source ∉ before)
    (reached : (source, given) ∈ draw offer demand (before ++ source :: after)) :
    (before.map offer).sum < demand := by
  obtain ⟨others, later, split, short, -⟩ := (mem_draw_iff _ nonneg demand).mp reached
  rcases List.append_eq_append_iff.mp split with ⟨between, rfl, -⟩ | ⟨between, rfl, rest⟩
  · have betweenNonneg : 0 ≤ (between.map offer).sum := by
      apply sum_offers_nonneg
      intro other otherMem
      apply nonneg other
      rw [split]
      simp [otherMem]
    rw [List.map_append, List.sum_append] at short
    exact lt_of_le_of_lt (le_add_of_nonneg_right betweenNonneg) short
  · cases between with
    | nil => simpa using short
    | cons first between =>
        rw [List.cons_append, List.cons.injEq] at rest
        have isFirst : source = first := rest.1
        exact absurd (by simp [isFirst]) once

/-- The sources before a source that is reached give all they offer. -/
theorem whole_of_reached {offer : Source → K} {demand : K} {before after : List Source}
    (nonneg : ∀ other ∈ before ++ after, 0 ≤ offer other)
    (reached : (before.map offer).sum < demand) {earlier : Source} (isEarlier : earlier ∈ before) :
    (earlier, offer earlier) ∈ draw offer demand (before ++ after) := by
  obtain ⟨first, between, rfl⟩ := List.append_of_mem isEarlier
  have betweenNonneg : 0 ≤ (between.map offer).sum := by
    apply sum_offers_nonneg
    intro other otherMem
    exact nonneg other (by simp [otherMem])
  rw [List.map_append, List.sum_append, List.map_cons, List.sum_cons] at reached
  have enough : (first.map offer).sum + offer earlier < demand := by
    refine lt_of_le_of_lt ?_ reached
    rw [← add_assoc]
    exact le_add_of_nonneg_right betweenNonneg
  refine (mem_draw_iff _ nonneg demand).mpr ⟨first, between ++ after, by simp, ?_, ?_⟩
  · exact lt_of_le_of_lt (le_add_of_nonneg_right (nonneg earlier (by simp))) enough
  · exact (min_eq_right (lt_sub_iff_add_lt'.mpr enough).le).symm

end Lib
