import FinanceSync.Degiro.Statement
import Mathlib.Algebra.Order.Field.Rat
import Mathlib.Data.List.Nodup

/-!
# What cash rows take from debits

The loop over a statement with the place of the row that each pending debit is from.
No debit pays for more than its amount, but only debits in dollars are kept, and rows
of every foreign currency take from them.
-/

namespace FinanceSync.Degiro

variable (runtime : Runtime)

/-! ## The traced run -/

/-- A cash row that takes its rate from a debit, both by their places. -/
structure FxUse where
  cash : Nat
  debit : Nat
  amount : ℚ

structure Trace where
  pending : List (PendingFx Nat) := []
  parsed : List StatementTransaction := []
  uses : List FxUse := []

def traceStep (trace : Trace) (place : Nat) (reading : StatementRow) : Trace :=
  let step := fxStep place trace.pending reading
  match reading with
  | .cash row =>
      { pending := step.1
        parsed := trace.parsed ++ [statementTransaction row (step.2.map (·.rate))]
        uses := trace.uses ++
          (step.2.map fun entry => ⟨place, entry.source, |row.amount|⟩).toList }
  | _ => { trace with pending := step.1 }

def traceOf (readings : List StatementRow) : Trace :=
  readings.zipIdx.foldl (fun trace (reading, place) => traceStep trace place reading) {}

theorem traceOf_append (before : List StatementRow) (reading : StatementRow) :
    traceOf (before ++ [reading]) = traceStep (traceOf before) before.length reading := by
  rw [traceOf, List.zipIdx_append, List.foldl_append]
  simp [traceOf]

/-- The rows as the loop reads them; a row that fails changes no debit. -/
def readings (tradeOrderIds : List String) (rows : List Row) : List StatementRow :=
  rows.map fun row => (readRow runtime tradeOrderIds row).toOption.getD (.ignored false)

/-- A pending debit without its place. -/
def PendingFx.forget (entry : PendingFx Nat) : PendingFx Unit :=
  ⟨entry.remaining, entry.rate, ()⟩

/-- Taking does not look at where a debit is from. -/
theorem takeFx_forget (amount : ℚ) (pending : List (PendingFx Nat)) :
    takeFx amount (pending.map PendingFx.forget) =
      (takeFx amount pending).map fun (taken, left) =>
        (taken.forget, left.map PendingFx.forget) := by
  induction pending with
  | nil => rfl
  | cons entry rest ih =>
      rw [List.map_cons, takeFx, takeFx, ih]
      by_cases short : entry.remaining < |amount|
      · rw [if_pos short, if_pos (show entry.forget.remaining < |amount| from short),
          Option.map_map, Option.map_map]
        rfl
      · rw [if_neg short, if_neg (show ¬ entry.forget.remaining < |amount| from short)]
        by_cases gone : entry.remaining - |amount| = 0
        · simp [PendingFx.forget, gone]
        · simp [PendingFx.forget, gone]

theorem fxStep_forget (place : Nat) (pending : List (PendingFx Nat)) (reading : StatementRow) :
    fxStep () (pending.map PendingFx.forget) reading =
      ((fxStep place pending reading).1.map PendingFx.forget,
        (fxStep place pending reading).2.map PendingFx.forget) := by
  cases reading with
  | ignored skipped => rfl
  | debit currency mutation fx =>
      cases mutation with
      | none => rfl
      | some mutation =>
          cases fx with
          | none => rfl
          | some fx =>
              by_cases kept : currency = "USD" ∧ fx ≠ 0
              · simp only [fxStep, if_pos kept, List.map_append]
                rfl
              · simp only [fxStep, if_neg kept]
                rfl
  | cash row =>
      rw [fxStep, fxStep]
      by_cases isForeign : projects row = true
      · rw [if_pos isForeign, if_pos isForeign, takeFx_forget]
        cases takeFx row.amount pending with
        | none => rfl
        | some taken => rfl
      · rw [if_neg isForeign, if_neg isForeign]
        rfl

/-- The loop and the trace go through the same debits and transactions. -/
theorem statementStep_trace (tradeOrderIds : List String) (row : Row) (number place : Nat)
    {state : List (PendingFx Unit) × StatementResult} {trace : Trace}
    (pending : state.1 = trace.pending.map PendingFx.forget)
    (parsed : state.2.parsed = trace.parsed) :
    let reading := (readRow runtime tradeOrderIds row).toOption.getD (.ignored false)
    (statementStep runtime tradeOrderIds state (row, number)).1 =
        (traceStep trace place reading).pending.map PendingFx.forget ∧
      (statementStep runtime tradeOrderIds state (row, number)).2.parsed =
        (traceStep trace place reading).parsed := by
  rcases state with ⟨left, result⟩
  simp only at pending parsed
  subst pending
  simp only [statementStep]
  cases readRow runtime tradeOrderIds row with
  | error error => exact ⟨rfl, parsed⟩
  | ok reading =>
      simp only [fxStep_forget place, Except.toOption, Option.getD_some, traceStep]
      cases reading with
      | ignored skipped =>
          cases skipped with
          | false => exact ⟨rfl, parsed⟩
          | true => exact ⟨rfl, parsed⟩
      | debit currency mutation fx => exact ⟨rfl, parsed⟩
      | cash cash =>
          refine ⟨rfl, ?_⟩
          simp only [parsed, Option.map_map]
          rfl

/-- The trace has the transactions of the loop. -/
theorem parseStatement_parsed (tradeOrderIds : List String) (rows : List Row) :
    (parseStatement runtime tradeOrderIds rows).parsed =
      (traceOf (readings runtime tradeOrderIds rows)).parsed := by
  suffices both : ((rows.zipIdx 2).foldl (statementStep runtime tradeOrderIds) ([], {})).1 =
        (traceOf (readings runtime tradeOrderIds rows)).pending.map PendingFx.forget ∧
      (parseStatement runtime tradeOrderIds rows).parsed =
        (traceOf (readings runtime tradeOrderIds rows)).parsed from both.2
  induction rows using List.reverseRecOn with
  | nil => exact ⟨rfl, rfl⟩
  | append_singleton before row ih =>
      rw [parseStatement] at ih ⊢
      rw [readings, List.map_append, List.map_singleton, traceOf_append, List.zipIdx_append,
        List.foldl_append]
      exact statementStep_trace runtime tradeOrderIds row _ _ ih.1
        ih.2

/-! ## Debits and what they have paid for -/

/-- Currency, amount and rate of a debit that has an amount and a rate. -/
def debitAt (rows : List StatementRow) (place : Nat) : Option (String × ℚ × ℚ) :=
  match rows[place]? with
  | some (.debit currency (some mutation) (some fx)) =>
      if fx ≠ 0 then some (currency, |mutation|, fx) else none
  | _ => none

/-- What the cash rows took from a debit. -/
def allocated (trace : Trace) (place : Nat) : ℚ :=
  ((trace.uses.filter (·.debit = place)).map (·.amount)).sum

/-- The pending debits are the debits in dollars that are not used up, with what is
left of them, and nothing was taken from other debits. -/
structure Balanced (rows : List StatementRow) (trace : Trace) : Prop where
  entries : ∀ entry ∈ trace.pending, ∃ amount,
    debitAt rows entry.source = some ("USD", amount, entry.rate) ∧
      entry.remaining = amount - allocated trace entry.source
  kept : ∀ place amount rate, debitAt rows place = some ("USD", amount, rate) →
    0 < amount - allocated trace place → ∃ entry ∈ trace.pending, entry.source = place
  bounded : ∀ place currency amount rate, debitAt rows place = some (currency, amount, rate) →
    allocated trace place ≤ amount
  sources : (trace.pending.map (·.source)).Nodup
  uses : ∀ use ∈ trace.uses, use.debit < use.cash ∧
    ∃ amount rate, debitAt rows use.debit = some ("USD", amount, rate)

theorem debitAt_append {rows : List StatementRow} {reading : StatementRow} {place : Nat}
    {debit : String × ℚ × ℚ} (isDebit : debitAt rows place = some debit) :
    debitAt (rows ++ [reading]) place = some debit := by
  have inside : place < rows.length := by
    by_contra outside
    rw [debitAt, List.getElem?_eq_none (not_lt.mp outside)] at isDebit
    cases isDebit
  rw [debitAt, List.getElem?_append_left inside]
  exact isDebit

theorem debitAt_append_cases {rows : List StatementRow} {reading : StatementRow} {place : Nat}
    {debit : String × ℚ × ℚ} (isDebit : debitAt (rows ++ [reading]) place = some debit) :
    debitAt rows place = some debit ∨
      place = rows.length ∧ ∃ mutation, reading = .debit debit.1 (some mutation) (some debit.2.2) ∧
        debit.2.1 = |mutation| ∧ debit.2.2 ≠ 0 := by
  rcases lt_trichotomy place rows.length with before | same | after
  · left
    rw [debitAt, List.getElem?_append_left before] at isDebit
    exact isDebit
  · right
    subst same
    refine ⟨rfl, ?_⟩
    rw [debitAt, List.getElem?_concat_length] at isDebit
    split at isDebit
    · next currency mutation fx isReading =>
        split_ifs at isDebit with hasRate
        rw [Option.some.injEq] at isDebit isReading
        subst isDebit
        exact ⟨mutation, isReading, rfl, hasRate⟩
    · cases isDebit
  · rw [debitAt, List.getElem?_eq_none (by simp; omega)] at isDebit
    cases isDebit

/-- Taking from the debits: the first that has enough loses the amount. -/
theorem takeFx_some {amount : ℚ} {pending left : List (PendingFx Nat)} {taken : PendingFx Nat}
    (isTaken : takeFx amount pending = some (taken, left)) :
    ∃ before after, pending = before ++ taken :: after ∧ |amount| ≤ taken.remaining ∧
      left = before ++ (if taken.remaining - |amount| ≠ 0 then
        { taken with remaining := taken.remaining - |amount| } :: after else after) := by
  induction pending generalizing left with
  | nil => cases isTaken
  | cons entry rest ih =>
      rw [takeFx] at isTaken
      by_cases short : entry.remaining < |amount|
      · rw [if_pos short, Option.map_eq_some_iff] at isTaken
        obtain ⟨⟨other, others⟩, isOther, same⟩ := isTaken
        rw [Prod.mk.injEq] at same
        obtain ⟨rfl, rfl⟩ := same
        obtain ⟨before, after, rfl, enough, rfl⟩ := ih isOther
        exact ⟨entry :: before, after, rfl, enough, rfl⟩
      · rw [if_neg short, Option.some.injEq, Prod.mk.injEq] at isTaken
        obtain ⟨rfl, rfl⟩ := isTaken
        exact ⟨[], rest, rfl, not_lt.mp short, rfl⟩

theorem takeFx_none {amount : ℚ} {pending : List (PendingFx Nat)} :
    takeFx amount pending = none ↔ ∀ entry ∈ pending, entry.remaining < |amount| := by
  induction pending with
  | nil => simp [takeFx]
  | cons entry rest ih =>
      rw [takeFx, List.forall_mem_cons]
      by_cases short : entry.remaining < |amount|
      · rw [if_pos short, Option.map_eq_none_iff, ih, and_iff_right short]
      · rw [if_neg short]
        exact iff_of_false (by simp) fun all => short all.1

section Steps

variable {rows : List StatementRow} {trace : Trace} (balanced : Balanced rows trace)

include balanced

theorem Balanced.debit_lt {use : FxUse} (useMem : use ∈ trace.uses) : use.debit < rows.length := by
  obtain ⟨_, amount, rate, isDebit⟩ := balanced.uses use useMem
  by_contra outside
  rw [debitAt, List.getElem?_eq_none (not_lt.mp outside)] at isDebit
  cases isDebit

/-- Nothing was taken from a row that is yet to come. -/
theorem Balanced.allocated_new : allocated trace rows.length = 0 := by
  have none : trace.uses.filter (·.debit = rows.length) = [] := by
    rw [List.filter_eq_nil_iff]
    intro use useMem
    simpa using (balanced.debit_lt useMem).ne
  rw [allocated, none]
  rfl

/-- What is bounded stays so with a row that takes nothing. -/
theorem Balanced.bounded_append (reading : StatementRow) {place : Nat} {currency : String}
    {amount rate : ℚ}
    (isDebit : debitAt (rows ++ [reading]) place = some (currency, amount, rate)) :
    allocated trace place ≤ amount := by
  rcases debitAt_append_cases isDebit with before | ⟨rfl, mutation, _, same, _⟩
  · exact balanced.bounded place currency amount rate before
  · have same : amount = |mutation| := same
    rw [balanced.allocated_new, same]
    exact abs_nonneg mutation

/-- A row that is no debit in dollars and takes nothing. -/
theorem Balanced.same (reading : StatementRow)
    (other : ∀ mutation fx, reading = .debit "USD" (some mutation) (some fx) → fx = 0)
    (parsed : List StatementTransaction) :
    Balanced (rows ++ [reading]) { trace with parsed := parsed } where
  entries entry entryMem := by
    obtain ⟨amount, isDebit, left⟩ := balanced.entries entry entryMem
    exact ⟨amount, debitAt_append isDebit, left⟩
  kept place amount rate isDebit left := by
    rcases debitAt_append_cases isDebit with before | ⟨_, mutation, isReading, _, hasRate⟩
    · exact balanced.kept place amount rate before left
    · exact absurd (other mutation rate isReading) hasRate
  bounded place currency amount rate isDebit := balanced.bounded_append reading isDebit
  sources := balanced.sources
  uses use useMem := by
    obtain ⟨before, amount, rate, isDebit⟩ := balanced.uses use useMem
    exact ⟨before, amount, rate, debitAt_append isDebit⟩

/-- A debit in dollars is pending. -/
theorem Balanced.debit (mutation : ℚ) {fx : ℚ} (hasRate : fx ≠ 0) :
    Balanced (rows ++ [.debit "USD" (some mutation) (some fx)])
      { trace with pending := trace.pending ++ [⟨|mutation|, fx, rows.length⟩] } where
  entries entry entryMem := by
    rcases List.mem_append.mp entryMem with old | new
    · obtain ⟨amount, isDebit, left⟩ := balanced.entries entry old
      exact ⟨amount, debitAt_append isDebit, left⟩
    · rw [List.mem_singleton.mp new]
      refine ⟨|mutation|, ?_, ?_⟩
      · rw [debitAt, List.getElem?_concat_length]
        exact if_pos hasRate
      · have new := balanced.allocated_new
        rw [allocated] at new ⊢
        rw [new, sub_zero]
  kept place amount rate isDebit left := by
    rcases debitAt_append_cases isDebit with before | ⟨rfl, _⟩
    · obtain ⟨entry, entryMem, isSource⟩ := balanced.kept place amount rate before left
      exact ⟨entry, List.mem_append_left _ entryMem, isSource⟩
    · exact ⟨_, List.mem_append_right _ List.mem_cons_self, rfl⟩
  bounded place currency amount rate isDebit := balanced.bounded_append _ isDebit
  sources := by
    rw [List.map_append, List.map_singleton, List.nodup_append]
    refine ⟨balanced.sources, List.pairwise_singleton _ _, ?_⟩
    intro source sourceMem other otherMem same
    obtain ⟨entry, entryMem, rfl⟩ := List.mem_map.mp sourceMem
    obtain ⟨amount, isDebit, _⟩ := balanced.entries entry entryMem
    rw [List.mem_singleton.mp otherMem] at same
    rw [debitAt, same, List.getElem?_eq_none le_rfl] at isDebit
    cases isDebit
  uses use useMem := by
    obtain ⟨before, amount, rate, isDebit⟩ := balanced.uses use useMem
    exact ⟨before, amount, rate, debitAt_append isDebit⟩

/-- A row takes from a debit that has enough. -/
theorem Balanced.take {row : CashRow} {taken : PendingFx Nat} {left : List (PendingFx Nat)}
    (isTaken : takeFx row.amount trace.pending = some (taken, left))
    (parsed : List StatementTransaction) :
    Balanced (rows ++ [.cash row])
      { pending := left
        parsed
        uses := trace.uses ++ [⟨rows.length, taken.source, |row.amount|⟩] } := by
  obtain ⟨before, after, whole, enough, isLeft⟩ := takeFx_some isTaken
  have sources := balanced.sources
  rw [whole, List.map_append, List.map_cons, List.nodup_append, List.nodup_cons] at sources
  have allocatedNow (place : Nat) :
      allocated ⟨left, parsed, trace.uses ++ [⟨rows.length, taken.source, |row.amount|⟩]⟩ place =
        allocated trace place + if taken.source = place then |row.amount| else 0 := by
    simp only [allocated, List.filter_append, List.map_append, List.sum_append]
    by_cases here : taken.source = place
    · simp [here]
    · simp [here]
  have before_ {place : Nat} {debit : String × ℚ × ℚ}
      (isDebit : debitAt (rows ++ [.cash row]) place = some debit) :
      debitAt rows place = some debit := by
    rcases debitAt_append_cases isDebit with isBefore | ⟨_, mutation, isReading, _⟩
    · exact isBefore
    · cases isReading
  have takenMem : taken ∈ trace.pending := by
    rw [whole]
    exact List.mem_append_right _ List.mem_cons_self
  obtain ⟨debitAmount, takenDebit, takenLeft⟩ := balanced.entries taken takenMem
  have inLeft {entry : PendingFx Nat} : entry ∈ left ↔
      (entry ∈ trace.pending ∧ entry.source ≠ taken.source) ∨
        taken.remaining - |row.amount| ≠ 0 ∧
          entry = { taken with remaining := taken.remaining - |row.amount| } := by
    have others : (entry ∈ trace.pending ∧ entry.source ≠ taken.source) ↔
        entry ∈ before ∨ entry ∈ after := by
      rw [whole, List.mem_append, List.mem_cons]
      constructor
      · rintro ⟨isBefore | rfl | isAfter, other⟩
        · exact .inl isBefore
        · exact absurd rfl other
        · exact .inr isAfter
      · rintro (isBefore | isAfter)
        · refine ⟨.inl isBefore, ?_⟩
          exact sources.2.2 _ (List.mem_map_of_mem isBefore) _ List.mem_cons_self
        · refine ⟨.inr (.inr isAfter), fun same => sources.2.1.1 ?_⟩
          rw [← same]
          exact List.mem_map_of_mem isAfter
    rw [isLeft, others]
    split_ifs with leftover
    · rw [List.mem_append, List.mem_cons, and_iff_right leftover]
      tauto
    · rw [List.mem_append]
      exact (or_iff_left fun both => leftover both.1).symm
  have takenInside : taken.source < rows.length := by
    by_contra outside
    rw [debitAt, List.getElem?_eq_none (not_lt.mp outside)] at takenDebit
    cases takenDebit
  refine ⟨?_, ?_, ?_, ?_, ?_⟩
  · intro entry entryMem
    rcases inLeft.mp entryMem with ⟨old, other⟩ | ⟨_, rfl⟩
    · obtain ⟨amount, isDebit, remaining⟩ := balanced.entries entry old
      refine ⟨amount, debitAt_append isDebit, ?_⟩
      rw [allocatedNow, if_neg other.symm, add_zero]
      exact remaining
    · refine ⟨debitAmount, debitAt_append takenDebit, ?_⟩
      rw [allocatedNow, if_pos rfl]
      simp only
      linarith
  · intro place amount rate isDebit remains
    have isDebit := before_ isDebit
    rw [allocatedNow] at remains
    by_cases here : taken.source = place
    · subst here
      rw [if_pos rfl] at remains
      rw [takenDebit, Option.some.injEq, Prod.mk.injEq, Prod.mk.injEq] at isDebit
      have leftover : taken.remaining - |row.amount| ≠ 0 := by
        have same : debitAmount = amount := isDebit.2.1
        intro gone
        linarith
      exact ⟨_, inLeft.mpr (.inr ⟨leftover, rfl⟩), rfl⟩
    · rw [if_neg here, add_zero] at remains
      obtain ⟨entry, entryMem, isSource⟩ := balanced.kept place amount rate isDebit remains
      refine ⟨entry, inLeft.mpr (.inl ⟨entryMem, ?_⟩), isSource⟩
      rw [isSource]
      exact Ne.symm here
  · intro place currency amount rate isDebit
    have isDebit := before_ isDebit
    rw [allocatedNow]
    by_cases here : taken.source = place
    · subst here
      rw [takenDebit, Option.some.injEq, Prod.mk.injEq, Prod.mk.injEq] at isDebit
      have same : debitAmount = amount := isDebit.2.1
      rw [if_pos rfl]
      linarith
    · rw [if_neg here, add_zero]
      exact balanced.bounded place currency amount rate isDebit
  · refine List.Nodup.sublist ?_ balanced.sources
    rw [isLeft, whole, List.map_append, List.map_append, List.map_cons]
    refine (List.Sublist.refl _).append ?_
    split_ifs with leftover
    · exact List.Sublist.refl _
    · exact List.sublist_cons_self _ _
  · intro use useMem
    rcases List.mem_append.mp useMem with old | new
    · obtain ⟨isBefore, amount, rate, isDebit⟩ := balanced.uses use old
      exact ⟨isBefore, amount, rate, debitAt_append isDebit⟩
    · rw [List.mem_singleton.mp new]
      exact ⟨takenInside, debitAmount, taken.rate, debitAt_append takenDebit⟩

/-- Every row keeps the balance. -/
theorem Balanced.step (reading : StatementRow) :
    Balanced (rows ++ [reading]) (traceStep trace rows.length reading) := by
  cases reading with
  | ignored skipped => exact balanced.same _ (fun _ _ same => by cases same) trace.parsed
  | debit currency mutation fx =>
      cases mutation with
      | none => exact balanced.same _ (fun _ _ same => by cases same) trace.parsed
      | some mutation =>
          cases fx with
          | none => exact balanced.same _ (fun _ _ same => by cases same) trace.parsed
          | some fx =>
              by_cases kept : currency = "USD" ∧ fx ≠ 0
              · obtain ⟨rfl, hasRate⟩ := kept
                have step := balanced.debit mutation hasRate
                simpa only [traceStep, fxStep, hasRate, ne_eq, not_false_eq_true, and_self,
                  if_true] using step
              · have step := balanced.same (.debit currency (some mutation) (some fx))
                  (fun other rate same => by
                    cases same
                    by_contra hasRate
                    exact kept ⟨rfl, hasRate⟩) trace.parsed
                simpa only [traceStep, fxStep, if_neg kept] using step
  | cash row =>
      have unused := balanced.same (.cash row) (fun _ _ same => by cases same)
        (trace.parsed ++ [statementTransaction row none])
      by_cases isForeign : projects row = true
      · cases isTaken : takeFx row.amount trace.pending with
        | none => simpa [traceStep, fxStep, isForeign, isTaken] using unused
        | some both =>
            obtain ⟨taken, left⟩ := both
            have step := balanced.take isTaken
              (trace.parsed ++ [statementTransaction row (some taken.rate)])
            simpa [traceStep, fxStep, isForeign, isTaken] using step
      · simpa [traceStep, fxStep, isForeign] using unused

end Steps

/-- Along a statement the debits stay balanced. -/
theorem balanced_traceOf (rows : List StatementRow) : Balanced rows (traceOf rows) := by
  induction rows using List.reverseRecOn with
  | nil =>
      refine ⟨by simp [traceOf], ?_, ?_, by simp [traceOf], by simp [traceOf]⟩
      · intro place amount rate isDebit
        simp [debitAt] at isDebit
      · intro place currency amount rate isDebit
        simp [debitAt] at isDebit
  | append_singleton before reading ih =>
      rw [traceOf_append]
      exact ih.step reading

/-! ## Rows in other currencies -/

/-- A cash row takes its rate from an earlier debit of its currency if from any, and
each debit of its currency that has enough left is there for it. -/
def RowSafe (before : List StatementRow) (row : CashRow) : Prop :=
  (∀ entry, (fxStep before.length (traceOf before).pending (.cash row)).2 = some entry →
      ∃ amount, debitAt before entry.source = some (row.currency, amount, entry.rate)) ∧
    (projects row → ∀ place amount rate,
      debitAt before place = some (row.currency, amount, rate) →
        0 < amount - allocated (traceOf before) place →
        |row.amount| ≤ amount - allocated (traceOf before) place →
        ∃ entry ∈ (traceOf before).pending, entry.source = place ∧
          entry.remaining = amount - allocated (traceOf before) place)

/-- Each cash row is safe, and no debit pays for more than its amount. -/
structure Conservative (rows : List StatementRow) : Prop where
  safe : ∀ before row after, rows = before ++ .cash row :: after → RowSafe before row
  bounded : ∀ place currency amount rate, debitAt rows place = some (currency, amount, rate) →
    allocated (traceOf rows) place ≤ amount

/-- No pending debit, nor an earlier debit in the currency of the row, has enough for a
cash row in a currency other than euros and dollars. -/
def DollarsOnly (rows : List StatementRow) : Prop :=
  ∀ before row after, rows = before ++ .cash row :: after → projects row →
    row.currency ≠ "USD" →
      (∀ entry ∈ (traceOf before).pending, entry.remaining < |row.amount|) ∧
        ∀ place amount rate, debitAt before place = some (row.currency, amount, rate) →
          amount < |row.amount| ∨ amount = 0

theorem debitAt_nonneg {rows : List StatementRow} {place : Nat} {currency : String}
    {amount rate : ℚ} (isDebit : debitAt rows place = some (currency, amount, rate)) :
    0 ≤ amount := by
  rw [debitAt] at isDebit
  split at isDebit
  · next mutation fx _ =>
      split_ifs at isDebit
      rw [Option.some.injEq, Prod.mk.injEq, Prod.mk.injEq] at isDebit
      rw [← isDebit.2.1]
      exact abs_nonneg mutation
  · cases isDebit

/-- Nothing is taken from debits in other currencies than dollars. -/
theorem allocated_other {rows : List StatementRow} {place : Nat} {currency : String}
    {amount rate : ℚ} (isDebit : debitAt rows place = some (currency, amount, rate))
    (other : currency ≠ "USD") : allocated (traceOf rows) place = 0 := by
  have none : (traceOf rows).uses.filter (·.debit = place) = [] := by
    rw [List.filter_eq_nil_iff]
    intro use useMem
    rw [decide_eq_true_eq]
    rintro rfl
    obtain ⟨_, _, _, inDollars⟩ := (balanced_traceOf rows).uses use useMem
    rw [isDebit, Option.some.injEq, Prod.mk.injEq] at inDollars
    exact other inDollars.1
  rw [allocated, none]
  rfl

/-- A row in dollars is safe. -/
theorem rowSafe_of_dollars {before : List StatementRow} {row : CashRow}
    (inDollars : row.currency = "USD") : RowSafe before row := by
  have balanced := balanced_traceOf before
  constructor
  · intro entry isTaken
    rw [fxStep] at isTaken
    split_ifs at isTaken
    cases found : takeFx row.amount (traceOf before).pending with
    | none => simp [found] at isTaken
    | some both =>
        obtain ⟨taken, left⟩ := both
        rw [found] at isTaken
        obtain ⟨others, rest, whole, _, _⟩ := takeFx_some found
        have same : taken = entry := Option.some.inj isTaken
        subst same
        have takenMem : taken ∈ (traceOf before).pending := by
          rw [whole]
          exact List.mem_append_right _ List.mem_cons_self
        obtain ⟨amount, isDebit, _⟩ := balanced.entries taken takenMem
        exact ⟨amount, inDollars ▸ isDebit⟩
  · intro _ place amount rate isDebit remains _
    rw [inDollars] at isDebit
    obtain ⟨entry, entryMem, rfl⟩ := balanced.kept place amount rate isDebit remains
    obtain ⟨same, sameDebit, left⟩ := balanced.entries entry entryMem
    rw [isDebit, Option.some.injEq, Prod.mk.injEq, Prod.mk.injEq] at sameDebit
    have same : amount = same := sameDebit.2.1
    exact ⟨entry, entryMem, rfl, same ▸ left⟩

/-- A row in another foreign currency is safe exactly if no debit has enough for it. -/
theorem rowSafe_iff_of_other {before : List StatementRow} {row : CashRow}
    (isForeign : projects row) (other : row.currency ≠ "USD") :
    RowSafe before row ↔
      (∀ entry ∈ (traceOf before).pending, entry.remaining < |row.amount|) ∧
        ∀ place amount rate, debitAt before place = some (row.currency, amount, rate) →
          amount < |row.amount| ∨ amount = 0 := by
  have balanced := balanced_traceOf before
  refine and_congr ?_ ?_
  · rw [← takeFx_none, fxStep, if_pos isForeign]
    cases found : takeFx row.amount (traceOf before).pending with
    | none => simp
    | some both =>
        obtain ⟨taken, left⟩ := both
        obtain ⟨others, rest, whole, _, _⟩ := takeFx_some found
        have takenMem : taken ∈ (traceOf before).pending := by
          rw [whole]
          exact List.mem_append_right _ List.mem_cons_self
        obtain ⟨amount, isDebit, _⟩ := balanced.entries taken takenMem
        refine iff_of_false (fun own => ?_) (by simp)
        obtain ⟨same, sameDebit⟩ := own taken rfl
        rw [isDebit, Option.some.injEq, Prod.mk.injEq] at sameDebit
        exact other sameDebit.1.symm
  · rw [forall_prop_of_true isForeign]
    refine forall_congr' fun place => forall_congr' fun amount => forall_congr' fun rate =>
      forall_congr' fun isDebit => ?_
    rw [allocated_other isDebit other, sub_zero]
    have nonneg := debitAt_nonneg isDebit
    constructor
    · intro there
      by_contra enough
      rw [not_or, not_lt] at enough
      obtain ⟨entry, entryMem, rfl, _⟩ := there (lt_of_le_of_ne nonneg (Ne.symm enough.2)) enough.1
      obtain ⟨same, sameDebit, _⟩ := balanced.entries entry entryMem
      rw [isDebit, Option.some.injEq, Prod.mk.injEq] at sameDebit
      exact other sameDebit.1
    · intro short positive enough
      rcases short with less | none
      · exact absurd enough less.not_ge
      · exact absurd none positive.ne'

/-- A row that takes no part in the projection is safe. -/
theorem rowSafe_of_not_projects {before : List StatementRow} {row : CashRow}
    (notForeign : ¬ projects row) : RowSafe before row := by
  constructor
  · intro entry isTaken
    simp [fxStep, notForeign] at isTaken
  · intro isForeign
    exact absurd isForeign notForeign

theorem conservative_iff (rows : List StatementRow) : Conservative rows ↔ DollarsOnly rows := by
  constructor
  · intro conservative before row after whole isForeign other
    exact (rowSafe_iff_of_other isForeign other).mp (conservative.safe before row after whole)
  · intro dollars
    refine ⟨fun before row after whole => ?_, (balanced_traceOf rows).bounded⟩
    by_cases isForeign : projects row
    · by_cases inDollars : row.currency = "USD"
      · exact rowSafe_of_dollars inDollars
      · exact (rowSafe_iff_of_other isForeign inDollars).mpr
          (dollars before row after whole isForeign inDollars)
    · exact rowSafe_of_not_projects isForeign

/-- The allocation of a statement, which is that of the loop, is conservative and safe
in its currencies exactly if no debit has enough for a cash row in a currency other
than euros and dollars. -/
theorem fx_allocation_iff (tradeOrderIds : List String) (rows : List Row) :
    (parseStatement runtime tradeOrderIds rows).parsed =
        (traceOf (readings runtime tradeOrderIds rows)).parsed ∧
      (Conservative (readings runtime tradeOrderIds rows) ↔
        DollarsOnly (readings runtime tradeOrderIds rows)) :=
  ⟨parseStatement_parsed runtime tradeOrderIds rows, conservative_iff _⟩

/-- Headers of an account statement; the mutation follows its currency. -/
def sampleHeaders : List String := ["Datum", "Tijd", "Omschrijving", "FX", "Mutatie", ""]

/-- A runtime for texts that are in the right case. -/
def sampleRuntime : Runtime where
  key := id
  upper := id
  casefold := id
  strptime _ format := if format = "%d-%m-%Y %H:%M" then some 0 else none

/-- A debit of 100 dollars, and then a dividend of 20 pounds. -/
def poundsAfterDollars : List Row :=
  [⟨sampleHeaders, [.text "01-02-2024", .text "", .text "valuta debitering", .text "1.1",
      .text "USD", .text "-100"]⟩,
    ⟨sampleHeaders, [.text "01-02-2024", .text "", .text "dividend", .text "", .text "GBP",
      .text "20"]⟩]

/-- The pounds take the rate of the dollars. -/
theorem pounds_at_dollar_rate :
    ((parseStatement sampleRuntime [] poundsAfterDollars).parsed.map fun transaction =>
        (transaction.row.currency, transaction.fxRate, transaction.projected)) =
          [("GBP", some (11 / 10), true)] ∧
      (readings sampleRuntime [] poundsAfterDollars).head? =
        some (.debit "USD" (some (-100)) (some (11 / 10))) := by
  decide +kernel

end FinanceSync.Degiro
