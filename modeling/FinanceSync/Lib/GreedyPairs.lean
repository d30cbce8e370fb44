import FinanceSync.Lib.Run

/-!
# Greedy pairs

Rows are gone through once; each row that may start a pair and is in none yet
takes a partner among the rows in no pair that fit it, or none if there is no
such row.  Whichever of them it takes, the pairs are disjoint and no two rows
that are left over fit each other.
-/

namespace Lib.GreedyPairs

universe u v

variable {Row : Type u} {Key : Type v} [DecidableEq Key] (key : Row → Key)
  (starts : Row → Bool) (fits : Row → Row → Bool) (choose : Row → List Row → Option Row)

/-- The keys of the rows that are in a pair. -/
def pairedKeys (pairs : List (Row × Row)) : List Key :=
  pairs.flatMap fun pair => [key pair.1, key pair.2]

/-- The rows that a row may take as its partner. -/
def candidates (rows : List Row) (pairs : List (Row × Row)) (row : Row) : List Row :=
  rows.filter fun candidate => key candidate ∉ pairedKeys key pairs && fits row candidate

def pairStep (rows : List Row) (pairs : List (Row × Row)) (row : Row) : List (Row × Row) :=
  if key row ∈ pairedKeys key pairs || !starts row then pairs
  else
    match choose row (candidates key fits rows pairs row) with
    | none => pairs
    | some partner => pairs ++ [(row, partner)]

/-- The pairs that are formed. -/
def greedyPairs (rows : List Row) : List (Row × Row) :=
  runAll (pairStep key starts fits choose rows) [] rows

/-- A choice that takes one of the candidates if there is any. -/
structure Chooses (choose : Row → List Row → Option Row) : Prop where
  mem : ∀ {row rows partner}, choose row rows = some partner → partner ∈ rows
  none : ∀ {row rows}, choose row rows = none → rows = []

variable {choose}

section Steps

variable {key fits}

omit [DecidableEq Key] in
theorem pairedKeys_append (pairs : List (Row × Row)) (row partner : Row) :
    pairedKeys key (pairs ++ [(row, partner)]) =
      pairedKeys key pairs ++ [key row, key partner] := by
  simp [pairedKeys]

theorem mem_candidates {rows : List Row} {pairs : List (Row × Row)} {row candidate : Row} :
    candidate ∈ candidates key fits rows pairs row ↔
      candidate ∈ rows ∧ key candidate ∉ pairedKeys key pairs ∧ fits row candidate := by
  simp [candidates]

end Steps

/-- What one row does: it forms a pair, or there is a reason why it does not. -/
theorem pairStep_cases (chooses : Chooses choose) (rows : List Row) (pairs : List (Row × Row))
    (row : Row) :
    (∃ partner, pairStep key starts fits choose rows pairs row = pairs ++ [(row, partner)] ∧
        key row ∉ pairedKeys key pairs ∧ starts row ∧
        partner ∈ candidates key fits rows pairs row) ∨
      pairStep key starts fits choose rows pairs row = pairs ∧
        (key row ∈ pairedKeys key pairs ∨ starts row = false ∨
          candidates key fits rows pairs row = []) := by
  unfold pairStep
  split
  · next skipped =>
      rw [Bool.or_eq_true, decide_eq_true_eq, Bool.not_eq_true'] at skipped
      exact .inr ⟨rfl, skipped.imp id .inl⟩
  · next open_ =>
      rw [Bool.or_eq_true, decide_eq_true_eq, Bool.not_eq_true', not_or,
        Bool.not_eq_false] at open_
      split
      · next nothing => exact .inr ⟨rfl, .inr (.inr (chooses.none nothing))⟩
      · next partner taken => exact .inl ⟨partner, rfl, open_.1, open_.2, chooses.mem taken⟩

section Runs

variable {key starts fits} (chooses : Chooses choose) (rows : List Row)

include chooses

/-- Every pair consists of two of the rows that fit each other. -/
theorem of_mem_greedyPairs {pair : Row × Row}
    (isMem : pair ∈ greedyPairs key starts fits choose rows) :
    pair.1 ∈ rows ∧ pair.2 ∈ rows ∧ starts pair.1 ∧ fits pair.1 pair.2 := by
  suffices sound : ∀ todo : List Row, (∀ row ∈ todo, row ∈ rows) → ∀ pairs : List (Row × Row),
      (∀ pair ∈ pairs, pair.1 ∈ rows ∧ pair.2 ∈ rows ∧ starts pair.1 ∧ fits pair.1 pair.2) →
      ∀ pair ∈ runAll (pairStep key starts fits choose rows) pairs todo,
        pair.1 ∈ rows ∧ pair.2 ∈ rows ∧ starts pair.1 ∧ fits pair.1 pair.2 from
    sound rows (fun _ isRow => isRow) [] (by simp) pair isMem
  intro todo
  induction todo with
  | nil => intro _ pairs holds; exact holds
  | cons row rest ih =>
      intro areRows pairs holds
      apply ih fun other otherMem =>
        areRows other (List.mem_cons_of_mem _ otherMem)
      intro pair pairMem
      rcases pairStep_cases key starts fits chooses rows pairs row with
        ⟨partner, formed, -, isStart, isCandidate⟩ | ⟨same, -⟩
      · rw [formed, List.mem_append, List.mem_singleton] at pairMem
        rcases pairMem with old | rfl
        · exact holds pair old
        · obtain ⟨partnerMem, -, isFit⟩ := mem_candidates.mp isCandidate
          exact ⟨areRows row List.mem_cons_self, partnerMem, isStart, isFit⟩
      · rw [same] at pairMem
        exact holds pair pairMem

/-- No row is in two pairs, or twice in one. -/
theorem nodup_pairedKeys (ne : ∀ row candidate, fits row candidate →
      key row ≠ key candidate) :
    (pairedKeys key (greedyPairs key starts fits choose rows)).Nodup := by
  suffices kept : ∀ todo : List Row, ∀ pairs : List (Row × Row),
      (pairedKeys key pairs).Nodup →
      (pairedKeys key (runAll (pairStep key starts fits choose rows) pairs todo)).Nodup from
    kept rows [] List.nodup_nil
  intro todo
  induction todo with
  | nil => intro pairs nodup; exact nodup
  | cons row rest ih =>
      intro pairs nodup
      apply ih
      rcases pairStep_cases key starts fits chooses rows pairs row with
        ⟨partner, formed, isFree, -, isCandidate⟩ | ⟨same, -⟩
      · obtain ⟨-, partnerFree, isFit⟩ := mem_candidates.mp isCandidate
        rw [formed, pairedKeys_append, List.nodup_append]
        refine ⟨nodup, ?_, ?_⟩
        · simpa using ne row partner isFit
        · intro old oldMem new newMem clash
          rw [List.mem_cons, List.mem_singleton] at newMem
          rcases newMem with rfl | rfl
          · exact isFree (clash ▸ oldMem)
          · exact partnerFree (clash ▸ oldMem)
      · rw [same]
        exact nodup

/-- A row in a pair stays in it. -/
theorem mono (pairs : List (Row × Row)) (todo : List Row) {used : Key}
    (isUsed : used ∈ pairedKeys key pairs) :
    used ∈ pairedKeys key (runAll (pairStep key starts fits choose rows) pairs todo) := by
  induction todo generalizing pairs with
  | nil => exact isUsed
  | cons row rest ih =>
      apply ih
      rcases pairStep_cases key starts fits chooses rows pairs row with
        ⟨partner, formed, -⟩ | ⟨same, -⟩
      · rw [formed, pairedKeys_append]
        exact List.mem_append_left _ isUsed
      · rw [same]
        exact isUsed

/-- Of two rows that fit each other one is in a pair. -/
theorem maximal {row candidate : Row} (rowMem : row ∈ rows) (candidateMem : candidate ∈ rows)
    (isStart : starts row) (isFit : fits row candidate) :
    key row ∈ pairedKeys key (greedyPairs key starts fits choose rows) ∨
      key candidate ∈ pairedKeys key (greedyPairs key starts fits choose rows) := by
  obtain ⟨before, after, split⟩ := List.append_of_mem rowMem
  let pairs := runAll (pairStep key starts fits choose rows) [] before
  have whole : greedyPairs key starts fits choose rows =
      runAll (pairStep key starts fits choose rows)
        (pairStep key starts fits choose rows pairs row) after := by
    conv_lhs => rw [greedyPairs]; arg 3; rw [split]
    rw [runAll_append, runAll_cons]
  have rest : ∀ used, used ∈ pairedKeys key (pairStep key starts fits choose rows pairs row) →
      used ∈ pairedKeys key (runAll (pairStep key starts fits choose rows)
        (pairStep key starts fits choose rows pairs row) after) :=
    fun used => mono chooses rows (pairStep key starts fits choose rows pairs row) after
  rw [whole]
  rcases pairStep_cases key starts fits chooses rows pairs row with
    ⟨partner, formed, -⟩ | ⟨same, reason⟩
  · left
    apply rest
    rw [formed, pairedKeys_append]
    simp
  · rcases reason with used | notStart | nothing
    · left
      apply rest
      rw [same]
      exact used
    · rw [isStart] at notStart
      cases notStart
    · right
      apply rest
      rw [same]
      by_contra isFree
      have isCandidate : candidate ∈ candidates key fits rows pairs row :=
        mem_candidates.mpr ⟨candidateMem, isFree, isFit⟩
      rw [nothing] at isCandidate
      exact List.not_mem_nil isCandidate

end Runs

end Lib.GreedyPairs
