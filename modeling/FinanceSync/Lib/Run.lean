import Mathlib.Algebra.Order.BigOperators.Group.List
import Mathlib.Tactic.Abel

/-!
# Runs of a step function

A program that reads its inputs one after the other is a step function folded
over a list.  What one step does is turned into what a whole run does here, once
for all: invariants by induction, and measures that change by a known amount in
each step.
-/

namespace Lib

universe u v w

variable {State : Type u} {Input : Type v}

/-- The state after all inputs. -/
def runAll (step : State → Input → State) (start : State) (inputs : List Input) : State :=
  inputs.foldl step start

/-- Every step of the run meets the condition, which speaks about the state
before the step and the input read there. -/
def Along (step : State → Input → State) (condition : State → Input → Prop) :
    State → List Input → Prop
  | _, [] => True
  | state, input :: rest =>
      condition state input ∧ Along step condition (step state input) rest

/-- The sum of the costs of all steps of the run. -/
def totalCost {M : Type w} [AddCommMonoid M] (step : State → Input → State)
    (cost : State → Input → M) : State → List Input → M
  | _, [] => 0
  | state, input :: rest => cost state input + totalCost step cost (step state input) rest

section Invariants

variable {step : State → Input → State}

@[simp] theorem runAll_nil (start : State) : runAll step start [] = start := rfl

@[simp] theorem runAll_cons (start : State) (input : Input) (rest : List Input) :
    runAll step start (input :: rest) = runAll step (step start input) rest := rfl

theorem runAll_append (start : State) (inputs rest : List Input) :
    runAll step start (inputs ++ rest) = runAll step (runAll step start inputs) rest :=
  List.foldl_append

/-- A condition holds along a run exactly if it does along its parts. -/
theorem along_append {condition : State → Input → Prop} (inputs rest : List Input) :
    ∀ start : State, Along step condition start (inputs ++ rest) ↔
      Along step condition start inputs ∧
        Along step condition (runAll step start inputs) rest := by
  induction inputs with
  | nil => intro start; simp [Along]
  | cons input inputs ih =>
      intro start
      rw [List.cons_append, Along, Along, ih, runAll_cons, and_assoc]

/-- A condition holds along a run exactly if it does wherever an input is read. -/
theorem along_iff_forall {condition : State → Input → Prop} (inputs : List Input) :
    ∀ start : State, Along step condition start inputs ↔
      ∀ before input after, inputs = before ++ input :: after →
        condition (runAll step start before) input := by
  induction inputs with
  | nil => intro start; simp [Along]
  | cons first rest ih =>
      intro start
      rw [Along, ih]
      constructor
      · intro ⟨atFirst, later⟩ before input after split
        cases before with
        | nil =>
            rw [List.nil_append, List.cons.injEq] at split
            exact split.1 ▸ atFirst
        | cons head before =>
            rw [List.cons_append, List.cons.injEq] at split
            rw [runAll_cons, ← split.1]
            exact later before input after split.2
      · intro everywhere
        constructor
        · exact everywhere [] first rest rfl
        · intro before input after split
          exact everywhere (first :: before) input after (by rw [split, List.cons_append])

/-- What holds at each state of a run by itself holds along it. -/
theorem along_imp {first second : State → Input → Prop}
    (imp : ∀ state input, first state input → second state input) (inputs : List Input) :
    ∀ {start : State}, Along step first start inputs → Along step second start inputs := by
  induction inputs with
  | nil => intro start _; trivial
  | cons input rest ih =>
      intro start along
      exact ⟨imp start input along.1, ih along.2⟩

/-- A condition may be replaced along a run by one that says the same under an
invariant of the run. -/
theorem along_congr {invariant : State → Prop} {condition first second : State → Input → Prop}
    (preserved : ∀ state input, invariant state → condition state input →
      invariant (step state input))
    (same : ∀ state input, invariant state → condition state input →
      (first state input ↔ second state input))
    (inputs : List Input) :
    ∀ {start : State}, invariant start → Along step condition start inputs →
      (Along step first start inputs ↔ Along step second start inputs) := by
  induction inputs with
  | nil => intro start _ _; rfl
  | cons input rest ih =>
      intro start holds along
      rw [Along, Along, same start input holds along.1,
        ih (preserved start input holds along.1) along.2]

/-- A condition on the inputs alone holds along a run exactly if all inputs meet it. -/
theorem along_inputs_iff {condition : Input → Prop} (inputs : List Input) :
    ∀ {start : State}, Along step (fun _ input => condition input) start inputs ↔
      ∀ input ∈ inputs, condition input := by
  induction inputs with
  | nil => simp [Along]
  | cons input rest ih =>
      intro start
      rw [Along, ih, List.forall_mem_cons]

theorem along_of_forall {condition : Input → Prop} (inputs : List Input) {start : State}
    (all : ∀ input ∈ inputs, condition input) :
    Along step (fun _ input => condition input) start inputs :=
  (along_inputs_iff inputs).mpr all

theorem along_and {first second : State → Input → Prop} (inputs : List Input) :
    ∀ {start : State}, Along step first start inputs → Along step second start inputs →
      Along step (fun state input => first state input ∧ second state input) start inputs := by
  induction inputs with
  | nil => intro start _ _; trivial
  | cons input rest ih =>
      intro start firstAlong secondAlong
      exact ⟨⟨firstAlong.1, secondAlong.1⟩,
        ih firstAlong.2 secondAlong.2⟩

instance decidableAlong {condition : State → Input → Prop}
    [∀ state input, Decidable (condition state input)] :
    (start : State) → (inputs : List Input) → Decidable (Along step condition start inputs)
  | _, [] => isTrue trivial
  | start, input :: rest =>
      have : Decidable (Along step condition (step start input) rest) :=
        decidableAlong (step start input) rest
      inferInstanceAs (Decidable (condition start input ∧ _))

/-- Every step keeps the invariant, so the run does. -/
theorem runAll_invariant {invariant : State → Prop} {condition : State → Input → Prop}
    (preserved : ∀ state input, invariant state → condition state input →
      invariant (step state input))
    (inputs : List Input) :
    ∀ {start : State}, invariant start → Along step condition start inputs →
      invariant (runAll step start inputs) := by
  induction inputs with
  | nil => intro start holds _; exact holds
  | cons input rest ih =>
      intro start holds along
      exact ih (preserved start input holds along.1) along.2

/-- Every step keeps the invariant, so every state of the run has it. -/
theorem reached_invariant {invariant : State → Prop} {condition : State → Input → Prop}
    (preserved : ∀ state input, invariant state → condition state input →
      invariant (step state input))
    {start : State} {before after : List Input} (holds : invariant start)
    (along : Along step condition start (before ++ after)) :
    invariant (runAll step start before) ∧
      Along step condition (runAll step start before) after := by
  have parts := (along_append before after start).mp along
  exact ⟨runAll_invariant preserved before holds parts.1, parts.2⟩

/-- A property that holds at the start holds in every state of a run exactly if
each step meets the condition under which it keeps the property. -/
theorem reached_iff_along {invariant good : State → Prop} {condition kept : State → Input → Prop}
    (preserved : ∀ state input, invariant state → condition state input → good state →
      kept state input → invariant (step state input))
    (keeps : ∀ state input, invariant state → condition state input → good state →
      (good (step state input) ↔ kept state input))
    (inputs : List Input) :
    ∀ {start : State}, invariant start → Along step condition start inputs → good start →
      ((∀ before after, inputs = before ++ after → good (runAll step start before)) ↔
        Along step kept start inputs) := by
  induction inputs with
  | nil =>
      intro start _ _ isGood
      apply iff_of_true _ trivial
      intro before after split
      rw [(List.append_eq_nil_iff.mp split.symm).1]
      exact isGood
  | cons input rest ih =>
      intro start holds along isGood
      have stepKeeps := keeps start input holds along.1 isGood
      have next : kept start input → invariant (step start input) :=
        preserved start input holds along.1 isGood
      constructor
      · intro always
        have nextGood : good (step start input) := always [input] rest rfl
        have isKept := stepKeeps.mp nextGood
        apply And.intro isKept
        apply (ih (next isKept) along.2 nextGood).mp
        intro before after split
        exact always (input :: before) after (by rw [split, List.cons_append])
      · intro keptAlong before after split
        cases before with
        | nil => exact isGood
        | cons first before =>
            rw [List.cons_append, List.cons.injEq] at split
            rw [runAll_cons, ← split.1]
            exact (ih (next keptAlong.1) along.2
              (stepKeeps.mpr keptAlong.1)).mpr keptAlong.2 before after split.2

/-- A property that holds at the start holds in every state of a run exactly if
each step meets the condition under which it keeps the property, where the
invariant asks nothing of the steps. -/
theorem reached_iff_kept {invariant good : State → Prop} {kept : State → Input → Prop}
    (preserved : ∀ state input, invariant state → invariant (step state input))
    (keeps : ∀ state input, invariant state → good state →
      (good (step state input) ↔ kept state input))
    (inputs : List Input) {start : State} (holds : invariant start) (isGood : good start) :
    (∀ before after, inputs = before ++ after → good (runAll step start before)) ↔
      Along step kept start inputs := by
  have anything : Along step (fun _ _ => True) start inputs :=
    along_of_forall inputs fun _ _ => trivial
  apply reached_iff_along _ _ inputs holds anything isGood
  · intro state input stateHolds _ _ _
    exact preserved state input stateHolds
  · intro state input stateHolds _
    exact keeps state input stateHolds

/-- A condition on the states reached, together with one on the steps, is a condition
on the steps if every step from a good state keeps to both exactly under it. -/
theorem reached_and_along_iff {good : State → Prop} {claimed kept : State → Input → Prop}
    (keeps : ∀ state input, good state →
      (good (step state input) ∧ claimed state input ↔ kept state input))
    (inputs : List Input) :
    ∀ {start : State}, good start →
      ((∀ before after, inputs = before ++ after → good (runAll step start before)) ∧
          Along step claimed start inputs ↔ Along step kept start inputs) := by
  induction inputs with
  | nil =>
      intro start isGood
      refine ⟨fun _ => trivial, fun _ => ⟨?_, trivial⟩⟩
      intro before after split
      rw [(List.append_eq_nil_iff.mp split.symm).1]
      exact isGood
  | cons input rest ih =>
      intro start isGood
      constructor
      · rintro ⟨reached, here, later⟩
        have next := reached [input] rest rfl
        refine ⟨(keeps start input isGood).mp ⟨next, here⟩, (ih next).mp ⟨?_, later⟩⟩
        intro before after split
        exact reached (input :: before) after (by rw [split, List.cons_append])
      · rintro ⟨here, later⟩
        obtain ⟨next, isClaimed⟩ := (keeps start input isGood).mpr here
        obtain ⟨reached, claimedLater⟩ := (ih next).mpr later
        refine ⟨?_, isClaimed, claimedLater⟩
        intro before after split
        cases before with
        | nil => exact isGood
        | cons first before =>
            rw [List.cons_append, List.cons.injEq] at split
            rw [runAll_cons, ← split.1]
            exact reached before after split.2

/-- What relates the states before and after each step relates those before and
after the run. -/
theorem runAll_relates {invariant : State → Prop} {condition : State → Input → Prop}
    {relates : State → State → Prop} (same : ∀ state, relates state state)
    (chain : ∀ {first second third}, relates first second → relates second third →
      relates first third)
    (preserved : ∀ state input, invariant state → condition state input →
      invariant (step state input))
    (related : ∀ state input, invariant state → condition state input →
      relates state (step state input))
    (inputs : List Input) :
    ∀ {start : State}, invariant start → Along step condition start inputs →
      relates start (runAll step start inputs) := by
  induction inputs with
  | nil => intro start _ _; exact same start
  | cons input rest ih =>
      intro start holds along
      apply chain (related start input holds along.1)
      exact ih (preserved start input holds along.1) along.2

/-- What each step refines the whole run refines. -/
theorem runAll_simulates {Abstract : Type w} {refines : State → Abstract → Prop}
    {abstractStep : Abstract → Input → Abstract}
    (simulates : ∀ {state abstract}, refines state abstract →
      ∀ input, refines (step state input) (abstractStep abstract input))
    (inputs : List Input) :
    ∀ {state abstract}, refines state abstract →
      refines (runAll step state inputs) (runAll abstractStep abstract inputs) := by
  induction inputs with
  | nil => exact id
  | cons input rest ih => exact fun holds => ih (simulates holds input)

section Measures

variable {M : Type w} [AddCommGroup M] {invariant : State → Prop}
  {condition : State → Input → Prop} {measure : State → M} {change : State → Input → M}
  (preserved : ∀ state input, invariant state → condition state input →
    invariant (step state input))
  (changes : ∀ state input, invariant state → condition state input →
    measure (step state input) = measure state + change state input)
include preserved changes

/-- A measure that each step changes by a known amount changes over the run by
the sum of these amounts. -/
theorem runAll_measure (inputs : List Input) :
    ∀ {start : State}, invariant start → Along step condition start inputs →
      measure (runAll step start inputs) =
        measure start + totalCost step change start inputs := by
  induction inputs with
  | nil => intro start _ _; simp [totalCost]
  | cons input rest ih =>
      intro start holds along
      rw [runAll_cons, ih (preserved start input holds along.1) along.2,
        changes start input holds along.1, totalCost]
      abel

/-- A measure that each step changes by a known amount has its first value in
every state of the run exactly if no step changes it. -/
theorem runAll_measure_constant_iff (inputs : List Input) :
    ∀ {start : State}, invariant start → Along step condition start inputs →
      ((∀ before after, inputs = before ++ after →
          measure (runAll step start before) = measure start) ↔
        Along step (fun state input => change state input = 0) start inputs) := by
  induction inputs with
  | nil =>
      intro start _ _
      refine iff_of_true ?_ trivial
      intro before after split
      rw [(List.append_eq_nil_iff.mp split.symm).1]
      rfl
  | cons input rest ih =>
      intro start holds along
      have atHead := changes start input holds along.1
      rw [Along, ← ih (preserved start input holds along.1) along.2]
      constructor
      · intro constant
        have headConstant : measure (step start input) = measure start :=
          constant [input] rest rfl
        refine ⟨by rwa [atHead, add_eq_left] at headConstant, ?_⟩
        intro before after split
        rw [headConstant]
        exact constant (input :: before) after (by rw [split, List.cons_append])
      · rintro ⟨noChange, restConstant⟩ before after split
        rw [noChange, add_zero] at atHead
        cases before with
        | nil => rfl
        | cons first before =>
            rw [List.cons_append, List.cons.injEq] at split
            obtain ⟨rfl, split⟩ := split
            rw [runAll_cons, restConstant before after split, atHead]

end Measures

theorem totalCost_add {M : Type w} [AddCommMonoid M] {first second : State → Input → M}
    (inputs : List Input) :
    ∀ start : State, totalCost step (fun state input => first state input + second state input)
        start inputs =
      totalCost step first start inputs + totalCost step second start inputs := by
  induction inputs with
  | nil => intro start; simp [totalCost]
  | cons input rest ih =>
      intro start
      rw [totalCost, totalCost, totalCost, ih]
      exact add_add_add_comm _ _ _ _

/-- A cost that does not look at the state is summed over the inputs. -/
theorem totalCost_inputs {M : Type w} [AddCommMonoid M] {cost : Input → M}
    (inputs : List Input) :
    ∀ start : State,
      totalCost step (fun _ input => cost input) start inputs = (inputs.map cost).sum := by
  induction inputs with
  | nil => intro start; rfl
  | cons input rest ih =>
      intro start
      rw [totalCost, ih, List.map_cons, List.sum_cons]

end Invariants

/-! ## Costs that are never negative -/

section Nonneg

variable {M : Type w} [AddCommGroup M] [LinearOrder M] [IsOrderedAddMonoid M]
variable {step : State → Input → State}

/-- Amounts that are not negative add up to zero only if all are zero. -/
theorem sum_map_eq_zero_iff {Item : Type u} {items : List Item} {amount : Item → M}
    (nonneg : ∀ item ∈ items, 0 ≤ amount item) :
    (items.map amount).sum = 0 ↔ ∀ item ∈ items, amount item = 0 := by
  constructor
  · intro sumZero item isMem
    refine List.all_zero_of_le_zero_le_of_sum_eq_zero ?_ sumZero (List.mem_map_of_mem isMem)
    intro value valueMem
    obtain ⟨other, otherMem, rfl⟩ := List.mem_map.mp valueMem
    exact nonneg other otherMem
  · intro allZero
    refine List.sum_eq_zero fun value valueMem => ?_
    obtain ⟨item, isMem, rfl⟩ := List.mem_map.mp valueMem
    exact allZero item isMem

/-- Costs that are never negative add up to zero only if every step is free. -/
theorem totalCost_eq_zero_iff {invariant : State → Prop} {condition : State → Input → Prop}
    {cost : State → Input → M}
    (preserved : ∀ state input, invariant state → condition state input →
      invariant (step state input))
    (nonneg : ∀ state input, invariant state → condition state input → 0 ≤ cost state input)
    (inputs : List Input) :
    ∀ {start : State}, invariant start → Along step condition start inputs →
      0 ≤ totalCost step cost start inputs ∧
        (totalCost step cost start inputs = 0 ↔
          Along step (fun state input => cost state input = 0) start inputs) := by
  induction inputs with
  | nil => intro start _ _; simp [totalCost, Along]
  | cons input rest ih =>
      intro start holds along
      have headNonneg := nonneg start input holds along.1
      obtain ⟨restNonneg, restZero⟩ :=
        ih (preserved start input holds along.1) along.2
      refine ⟨add_nonneg headNonneg restNonneg, ?_⟩
      rw [totalCost, add_eq_zero_iff_of_nonneg headNonneg restNonneg, restZero, Along]

end Nonneg

end Lib
