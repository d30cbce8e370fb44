import Mathlib.Data.List.Infix
import Mathlib.Data.Nat.Digits.Defs

/-!
# Texts with markers

The part of a text after the last occurrence of a marker, and what it is in a text
that was put together around the marker.  A text that ends in a number tells the number,
and one whose end is stripped keeps its beginning.
-/

namespace Lib

universe u

variable {α : Type u} [DecidableEq α]

/-- What follows the last occurrence of a marker, if it occurs. -/
def afterLast (marker : List α) : List α → Option (List α)
  | [] => if marker = [] then some [] else none
  | first :: rest =>
      match afterLast marker rest with
      | some tail => some tail
      | none =>
          if marker <+: first :: rest then some ((first :: rest).drop marker.length) else none

/-- The text after the first occurrence of a marker. -/
def afterFirst (marker : List α) : List α → Option (List α)
  | [] => if marker = [] then some [] else none
  | first :: rest =>
      if marker <+: first :: rest then some ((first :: rest).drop marker.length)
      else afterFirst marker rest

variable {marker text tail : List α}

/-- The text after the marker ends the text. -/
theorem afterLast_eq_some (found : afterLast marker text = some tail) :
    ∃ before, text = before ++ (marker ++ tail) := by
  induction text with
  | nil =>
      rw [afterLast] at found
      split at found
      · next blank =>
          cases found
          exact ⟨[], by simp [blank]⟩
      · cases found
  | cons first rest ih =>
      rw [afterLast] at found
      split at found
      · next later isLater =>
          cases found
          cases ih isLater with
          | intro before same => exact ⟨first :: before, by rw [same, List.cons_append]⟩
      · split at found
        · next starts =>
            cases found
            exact ⟨[], (List.prefix_iff_eq_append.mp starts).symm⟩
        · cases found

theorem length_of_afterLast (found : afterLast marker text = some tail) :
    tail.length + marker.length ≤ text.length := by
  cases afterLast_eq_some found with
  | intro before same =>
      rw [same, List.length_append, List.length_append]
      omega

/-- A marker that occurs is found. -/
theorem afterLast_append_of_some (before : List α) (found : afterLast marker text = some tail) :
    afterLast marker (before ++ text) = some tail := by
  induction before with
  | nil => exact found
  | cons first before ih =>
      rw [List.cons_append, afterLast, ih]

theorem afterLast_of_prefix (starts : marker <+: text) :
    ∃ tail, afterLast marker text = some tail := by
  cases text with
  | nil =>
      rw [afterLast, if_pos (List.prefix_nil.mp starts)]
      exact ⟨[], rfl⟩
  | cons first rest =>
      rw [afterLast]
      split
      · next tail _ => exact ⟨tail, rfl⟩
      · rw [if_pos starts]
        exact ⟨_, rfl⟩

theorem afterLast_eq_none_iff : afterLast marker text = none ↔ ¬marker <:+: text := by
  constructor
  · intro missing occurs
    obtain ⟨before, after, same⟩ := occurs
    obtain ⟨tail, found⟩ := afterLast_of_prefix (List.prefix_append marker after)
    rw [← same, List.append_assoc, afterLast_append_of_some before found] at missing
    cases missing
  · intro missing
    cases found : afterLast marker text with
    | none => rfl
    | some tail =>
        cases afterLast_eq_some found with
        | intro before same =>
            apply absurd _ missing
            exact ⟨before, tail, by rw [same, List.append_assoc]⟩

section FirstLetter

variable {first : α} {rest : List α}

/-- No occurrence starts where the first letter of the marker does not occur. -/
theorem afterLast_append_of_not_mem (before : List α) (notMem : first ∉ before) :
    afterLast (first :: rest) (before ++ text) = afterLast (first :: rest) text := by
  induction before with
  | nil => rfl
  | cons letter before ih =>
      rw [List.mem_cons, not_or] at notMem
      rw [List.cons_append, afterLast, ih notMem.2]
      cases afterLast (first :: rest) text with
      | some tail => rfl
      | none =>
          rw [if_neg]
          intro starts
          exact notMem.1 (List.cons_prefix_cons.mp starts).1

/-- The last marker of a text that was put together around a marker is in the part
after it, or is that marker. -/
theorem afterLast_around (before : List α) (notMem : first ∉ rest) :
    afterLast (first :: rest) (before ++ (first :: (rest ++ text))) =
      some ((afterLast (first :: rest) text).getD text) := by
  apply afterLast_append_of_some
  rw [afterLast, afterLast_append_of_not_mem rest notMem]
  cases afterLast (first :: rest) text with
  | some tail => rfl
  | none =>
      rw [if_pos (List.cons_prefix_cons.mpr ⟨rfl, List.prefix_append rest text⟩)]
      simp

end FirstLetter

omit [DecidableEq α] in
/-- A text without some letter is a prefix of what stands before the letter. -/
theorem prefix_append_cons_iff {start before after : List α} {letter : α}
    (notMem : letter ∉ start) : start <+: before ++ letter :: after ↔ start <+: before := by
  constructor
  · intro starts
    cases List.prefix_or_prefix_of_prefix starts (List.prefix_append before _) with
    | inl within => exact within
    | inr beyond =>
        obtain ⟨more, rfl⟩ := beyond
        cases more with
        | nil => simp
        | cons other more =>
            have next := (List.prefix_append_right_inj before).mp starts
            have same := (List.cons_prefix_cons.mp next).1
            apply absurd _ notMem
            simp [same]
  · intro starts
    exact starts.trans (List.prefix_append before _)

omit [DecidableEq α] in
/-- A text whose end is stripped keeps its first letter, if that is not stripped. -/
theorem stripEnd_cons {stripped : α → Bool} {first : α} (kept : stripped first = false)
    (rest : List α) :
    ∃ tail, ((first :: rest).reverse.dropWhile stripped).reverse = first :: tail := by
  rw [List.reverse_cons, List.dropWhile_append]
  split
  · exact ⟨[], by simp [kept]⟩
  · exact ⟨_, by rw [List.reverse_append]; rfl⟩

theorem toString_injective {first second : Nat} (same : toString first = toString second) :
    first = second := by
  rw [Nat.toString_eq_ofList_toDigits, Nat.toString_eq_ofList_toDigits, String.ofList_inj] at same
  rw [← Nat.ofDigitChars_ten_toDigits (n := first), same, Nat.ofDigitChars_ten_toDigits]

/-- Two numbers after one text are the same where the texts are. -/
theorem eq_of_append_toString (start : String) {first second : Nat}
    (same : start ++ toString first = start ++ toString second) : first = second := by
  have sameText := congrArg String.toList same
  rw [String.toList_append, String.toList_append] at sameText
  exact toString_injective (String.toList_inj.mp (List.append_cancel_left sameText))

end Lib
