import Mathlib.Algebra.Order.Group.Defs
import Mathlib.Data.List.Basic

/-!
# Sliding windows

A log of times of which some are kept, so that those of a recent window are among them.  If a
time is added only while fewer are kept than a limit, no window ever has more than the limit.
-/

namespace Lib.SlidingWindow

variable {Time : Type*} [LinearOrder Time]

/-- The times after a cutoff. -/
def newerThan (cutoff : Time) (times : List Time) : List Time := times.filter (cutoff < ·)

theorem newerThan_sublist_of_le {now later : Time} {times : List Time} (newer : now ≤ later) :
    (newerThan later times).Sublist (newerThan now times) := by
  apply List.monotone_filter_right
  intro time isNewer
  rw [decide_eq_true_eq] at isNewer ⊢
  exact newer.trans_lt isNewer

theorem newerThan_newerThan (cutoff : Time) (times : List Time) :
    newerThan cutoff (newerThan cutoff times) = newerThan cutoff times := by
  rw [newerThan, newerThan, List.filter_filter]
  simp only [Bool.and_self]

variable [AddCommGroup Time]

/-- The times of a half-open interval. -/
def within (start width : Time) (times : List Time) : List Time :=
  times.filter fun time => start ≤ time ∧ time < start + width

/-- The times up to a last one that are newer than a width before it. -/
def preceding (width last : Time) (times : List Time) : List Time :=
  times.filter fun time => last - width < time ∧ time ≤ last

/-- The kept times are among those logged, and those of the window before now are kept. -/
structure Tracks (width now : Time) (logged kept : List Time) : Prop where
  stays : kept.Sublist logged
  recent : (newerThan (now - width) logged).Sublist kept

variable {width now later : Time} {logged kept : List Time}

namespace Tracks

theorem empty (width now : Time) : Tracks width now [] [] := ⟨.slnil, .slnil⟩

/-- Times may be dropped that are older than the window. -/
theorem drop {remaining : List Time} (tracks : Tracks width now logged kept)
    (dropped : remaining.Sublist kept) (retains : (newerThan (now - width) kept).Sublist remaining) :
    Tracks width now logged remaining where
  stays := dropped.trans tracks.stays
  recent := by
    rw [← newerThan_newerThan]
    exact (tracks.recent.filter _).trans retains

/-- Everything up to the window is dropped. -/
theorem prune (tracks : Tracks width now logged kept) :
    Tracks width now logged (newerThan (now - width) kept) :=
  tracks.drop List.filter_sublist (List.Sublist.refl _)

/-- After pruning, the kept times are those of the preceding window. -/
theorem length_newerThan_le (tracks : Tracks width now logged kept)
    (past : ∀ time ∈ logged, time ≤ now) :
    (newerThan (now - width) kept).length ≤ (preceding width now logged).length := by
  have same : preceding width now logged = newerThan (now - width) logged := by
    apply List.filter_congr
    intro time member
    simp [past time member]
  rw [same]
  exact (tracks.stays.filter _).length_le

variable [IsOrderedAddMonoid Time]

/-- Time passes. -/
theorem mono (tracks : Tracks width now logged kept) (passes : now ≤ later) :
    Tracks width later logged kept where
  stays := tracks.stays
  recent := (newerThan_sublist_of_le (sub_le_sub_right passes width)).trans tracks.recent

/-- A time is logged and kept. -/
theorem push (tracks : Tracks width now logged kept) (passes : now ≤ later) :
    Tracks width later (logged ++ [later]) (kept ++ [later]) where
  stays := tracks.stays.append (List.Sublist.refl _)
  recent := by
    rw [newerThan, List.filter_append]
    exact (tracks.mono passes).recent.append List.filter_sublist

/-- The times of an interval that has a time are kept then. -/
theorem length_within_le (tracks : Tracks width now logged kept) {start : Time}
    (inside : now < start + width) : (within start width logged).length ≤ kept.length := by
  have sublist : (within start width logged).Sublist (newerThan (now - width) logged) := by
    apply List.monotone_filter_right
    intro time isInside
    rw [decide_eq_true_eq] at isInside ⊢
    exact (sub_lt_iff_lt_add.mpr inside).trans_le isInside.1
  exact (sublist.trans tracks.recent).length_le

/-- With fewer times kept than the limit, one more may be logged. -/
theorem within_push {limit : Nat} (tracks : Tracks width now logged kept)
    (bounded : ∀ start, (within start width logged).length ≤ limit)
    (room : kept.length < limit) (start : Time) :
    (within start width (logged ++ [now])).length ≤ limit := by
  rw [within, List.filter_append, List.length_append]
  by_cases inside : start ≤ now ∧ now < start + width
  · have counted : (within start width logged).length ≤ kept.length :=
      tracks.length_within_le inside.2
    rw [List.filter_cons_of_pos (by simpa using inside)]
    exact Nat.succ_le_of_lt (counted.trans_lt room)
  · rw [List.filter_cons_of_neg (by simpa using inside)]
    exact bounded start

end Tracks

end Lib.SlidingWindow
