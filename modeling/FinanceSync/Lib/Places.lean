import FinanceSync.Lib.Fallible

/-!
# Steps that concern one place each

A step reads and writes what is observed at the place of its input, and leaves
what is observed elsewhere.  A run over inputs at pairwise different places does
to each place what the one step does that concerns it.  Two such runs from one
state therefore agree exactly if their steps do, place by place.
-/

namespace Lib

universe u v w x y

variable {Error : Type u} {State : Type v} {Input : Type w} {Output : Type x}
variable {Place Observation View Kind : Type y}

/-- How states and outputs are compared: by a view of what is observed at each
place, and by the kind of each output. -/
structure Comparison (State : Type v) (Output : Type x) (Place Observation View Kind : Type y)
    where
  observe : State → Place → Observation
  view : Observation → View
  kind : Output → Kind

/-- The step concerns the place of its input only.  Its effect, which may also be
to fail, is a function of the input and of what was observed there; it gives the
view of that place afterwards and the kind of the output. -/
structure OnePlace (comparison : Comparison State Output Place Observation View Kind)
    (step : State → Input → Except Error (State × Output)) (place : Input → Place)
    (effect : Input → Observation → Option (View × Kind)) : Prop where
  frame : ∀ {state next input output}, step state input = .ok (next, output) →
    ∀ other, other ≠ place input →
      comparison.observe next other = comparison.observe state other
  succeeds : ∀ {state next input output}, step state input = .ok (next, output) →
    effect input (comparison.observe state (place input)) =
      some (comparison.view (comparison.observe next (place input)), comparison.kind output)
  fails : ∀ {state input error}, step state input = .error error →
    effect input (comparison.observe state (place input)) = none

namespace OnePlace

variable {comparison : Comparison State Output Place Observation View Kind}
variable {step : State → Input → Except Error (State × Output)} {place : Input → Place}
variable {effect : Input → Observation → Option (View × Kind)}

theorem isOk_iff (onePlace : OnePlace comparison step place effect) {state : State}
    {input : Input} :
    (∃ next output, step state input = .ok (next, output)) ↔
      effect input (comparison.observe state (place input)) ≠ none := by
  cases stepped : step state input with
  | error error => simp [onePlace.fails stepped]
  | ok result =>
      obtain ⟨next, output⟩ := result
      simp [onePlace.succeeds stepped]

/-- A run leaves the places that none of its inputs concerns. -/
theorem collect_frame (onePlace : OnePlace comparison step place effect)
    (inputs : List Input) :
    ∀ {state last : State} {outputs : List Output} {other : Place},
      collect step state inputs = .ok (last, outputs) →
      (∀ input ∈ inputs, other ≠ place input) →
      comparison.observe last other = comparison.observe state other := by
  induction inputs with
  | nil =>
      intro state last outputs other collected _
      cases collected
      rfl
  | cons input rest ih =>
      intro state last outputs other collected apart
      obtain ⟨next, output, others, stepped, collectedRest, -⟩ := collect_cons_ok.mp collected
      rw [ih collectedRest fun later laterMem =>
        apart later (List.mem_cons_of_mem _ laterMem)]
      exact onePlace.frame stepped other (apart input List.mem_cons_self)

/-- The steps that are still to come do not see the first one. -/
theorem effect_rest (onePlace : OnePlace comparison step place effect)
    {state next : State} {input : Input} {output : Output} {rest : List Input}
    (apart : ∀ later ∈ rest, place input ≠ place later)
    (stepped : step state input = .ok (next, output)) :
    ∀ later ∈ rest, effect later (comparison.observe next (place later)) =
      effect later (comparison.observe state (place later)) := by
  intro later laterMem
  rw [onePlace.frame stepped (place later) (apart later laterMem).symm]

theorem collect_isOk_iff (onePlace : OnePlace comparison step place effect)
    (inputs : List Input) :
    ∀ {state : State}, inputs.Pairwise (fun first second => place first ≠ place second) →
      ((∃ result, collect step state inputs = .ok result) ↔
        ∀ input ∈ inputs, effect input (comparison.observe state (place input)) ≠ none) := by
  induction inputs with
  | nil => simp
  | cons input rest ih =>
      intro state distinct
      obtain ⟨apart, distinctRest⟩ := List.pairwise_cons.mp distinct
      rw [collect_cons_isOk_iff, List.forall_mem_cons, ← onePlace.isOk_iff]
      constructor
      · rintro ⟨next, output, stepped, collectedRest⟩
        refine ⟨⟨next, output, stepped⟩, ?_⟩
        intro later laterMem
        rw [← onePlace.effect_rest apart stepped later laterMem]
        exact (ih distinctRest).mp collectedRest later laterMem
      · rintro ⟨⟨next, output, stepped⟩, effects⟩
        refine ⟨next, output, stepped, (ih distinctRest).mpr ?_⟩
        intro later laterMem
        rw [onePlace.effect_rest apart stepped later laterMem]
        exact effects later laterMem

theorem collect_fails (onePlace : OnePlace comparison step place effect) {inputs : List Input}
    {state : State} {error : Error}
    (distinct : inputs.Pairwise fun first second => place first ≠ place second)
    (failed : collect step state inputs = .error error) :
    ∃ input ∈ inputs, effect input (comparison.observe state (place input)) = none := by
  by_contra succeeds
  push Not at succeeds
  obtain ⟨_, collected⟩ := (onePlace.collect_isOk_iff inputs distinct).mpr succeeds
  rw [failed] at collected
  cases collected

/-- What a run does to the places of its inputs. -/
theorem collect_view (onePlace : OnePlace comparison step place effect)
    (inputs : List Input) :
    ∀ {state last : State} {outputs : List Output},
      inputs.Pairwise (fun first second => place first ≠ place second) →
      collect step state inputs = .ok (last, outputs) →
      ∀ input ∈ inputs, (effect input (comparison.observe state (place input))).map Prod.fst =
        some (comparison.view (comparison.observe last (place input))) := by
  induction inputs with
  | nil => simp
  | cons input rest ih =>
      intro state last outputs distinct collected
      obtain ⟨apart, distinctRest⟩ := List.pairwise_cons.mp distinct
      obtain ⟨next, output, others, stepped, collectedRest, rfl⟩ := collect_cons_ok.mp collected
      rw [List.forall_mem_cons]
      constructor
      · rw [onePlace.succeeds stepped, onePlace.collect_frame rest collectedRest apart,
          Option.map_some]
      · intro later laterMem
        rw [← onePlace.effect_rest apart stepped later laterMem]
        exact ih distinctRest collectedRest later laterMem

/-- The kinds of the outputs of a run, in the order of its inputs. -/
theorem collect_kinds (onePlace : OnePlace comparison step place effect)
    (inputs : List Input) :
    ∀ {state last : State} {outputs : List Output},
      inputs.Pairwise (fun first second => place first ≠ place second) →
      collect step state inputs = .ok (last, outputs) →
      (outputs.map comparison.kind).map some = inputs.map fun input =>
        (effect input (comparison.observe state (place input))).map Prod.snd := by
  induction inputs with
  | nil =>
      intro state last outputs _ collected
      cases collected
      rfl
  | cons input rest ih =>
      intro state last outputs distinct collected
      obtain ⟨apart, distinctRest⟩ := List.pairwise_cons.mp distinct
      obtain ⟨next, output, others, stepped, collectedRest, rfl⟩ := collect_cons_ok.mp collected
      rw [List.map_cons, List.map_cons, List.map_cons, onePlace.succeeds stepped,
        ih distinctRest collectedRest, Option.map_some, List.cons_inj_right]
      apply List.map_congr_left
      intro later laterMem
      rw [onePlace.effect_rest apart stepped later laterMem]

/-- All outputs of a run are of one kind exactly if the effects of its inputs are. -/
theorem collect_kind_iff (onePlace : OnePlace comparison step place effect) {inputs : List Input}
    {state last : State} {outputs : List Output}
    (distinct : inputs.Pairwise fun first second => place first ≠ place second)
    (collected : collect step state inputs = .ok (last, outputs)) (kind : Kind) :
    (∀ output ∈ outputs, comparison.kind output = kind) ↔
      ∀ input ∈ inputs,
        (effect input (comparison.observe state (place input))).map Prod.snd = some kind := by
  have kinds := onePlace.collect_kinds inputs distinct collected
  have ofInputs : (∀ found ∈ (outputs.map comparison.kind).map some, found = some kind) ↔
      ∀ found ∈ inputs.map fun input =>
        (effect input (comparison.observe state (place input))).map Prod.snd,
          found = some kind := by
    rw [kinds]
  simpa using ofInputs

end OnePlace

/-! ## Two runs from one state -/

/-- Two results compare as the same: the views of all places and the kinds of the
outputs are, or both are failures. -/
def Comparison.Same (comparison : Comparison State Output Place Observation View Kind) :
    Except Error (State × List Output) → Except Error (State × List Output) → Prop
  | .ok (first, firstOutputs), .ok (second, secondOutputs) =>
      (∀ place, comparison.view (comparison.observe first place) =
          comparison.view (comparison.observe second place)) ∧
        firstOutputs.map comparison.kind = secondOutputs.map comparison.kind
  | .error _, .error _ => True
  | _, _ => False

variable {comparison : Comparison State Output Place Observation View Kind}
variable {first second : State → Input → Except Error (State × Output)} {place : Input → Place}
variable {firstEffect secondEffect : Input → Observation → Option (View × Kind)}

/-- Two runs that succeed compare as the same exactly if every step has the same
effect in both. -/
theorem same_ok_iff (firstOnePlace : OnePlace comparison first place firstEffect)
    (secondOnePlace : OnePlace comparison second place secondEffect)
    {state firstLast secondLast : State} {inputs : List Input}
    {firstOutputs secondOutputs : List Output}
    (distinct : inputs.Pairwise fun first second => place first ≠ place second)
    (firstRun : collect first state inputs = .ok (firstLast, firstOutputs))
    (secondRun : collect second state inputs = .ok (secondLast, secondOutputs)) :
    comparison.Same (collect first state inputs) (collect second state inputs) ↔
      ∀ input ∈ inputs, firstEffect input (comparison.observe state (place input)) =
        secondEffect input (comparison.observe state (place input)) := by
  have firstViews := firstOnePlace.collect_view inputs distinct firstRun
  have secondViews := secondOnePlace.collect_view inputs distinct secondRun
  have firstKinds := firstOnePlace.collect_kinds inputs distinct firstRun
  have secondKinds := secondOnePlace.collect_kinds inputs distinct secondRun
  rw [firstRun, secondRun]
  constructor
  · rintro ⟨sameViews, sameKinds⟩ input inputMem
    rw [sameKinds, secondKinds, List.map_inj_left] at firstKinds
    have sameView : (firstEffect input _).map Prod.fst = (secondEffect input _).map Prod.fst :=
      (firstViews input inputMem).trans
        ((congrArg some (sameViews _)).trans (secondViews input inputMem).symm)
    have sameKind := firstKinds input inputMem
    have present := firstViews input inputMem
    cases firstCase : firstEffect input (comparison.observe state (place input)) with
    | none =>
        rw [firstCase] at present
        cases present
    | some firstResult =>
        cases secondCase : secondEffect input (comparison.observe state (place input)) with
        | none =>
            rw [firstCase, secondCase] at sameKind
            cases sameKind
        | some secondResult =>
            rw [firstCase, secondCase, Option.map_some, Option.map_some,
              Option.some_inj] at sameView sameKind
            rw [Prod.ext sameView sameKind.symm]
  · intro same
    constructor
    · intro other
      by_cases concerned : ∃ input ∈ inputs, other = place input
      · obtain ⟨input, inputMem, rfl⟩ := concerned
        have sameView := firstViews input inputMem
        rw [same input inputMem, secondViews input inputMem, Option.some_inj] at sameView
        exact sameView.symm
      · push Not at concerned
        rw [firstOnePlace.collect_frame inputs firstRun concerned,
          secondOnePlace.collect_frame inputs secondRun concerned]
    · apply List.map_injective_iff.mpr fun _ _ same => Option.some.inj same
      rw [firstKinds, secondKinds]
      apply List.map_congr_left
      intro input inputMem
      rw [same input inputMem]

/-- Two runs over inputs at different places compare as the same exactly if both
fail somewhere, or neither does and each step has the same effect in both. -/
theorem same_collect_iff (firstOnePlace : OnePlace comparison first place firstEffect)
    (secondOnePlace : OnePlace comparison second place secondEffect)
    {state : State} {inputs : List Input}
    (distinct : inputs.Pairwise fun first second => place first ≠ place second) :
    comparison.Same (collect first state inputs) (collect second state inputs) ↔
      (∃ input ∈ inputs, firstEffect input (comparison.observe state (place input)) = none) ∧
        (∃ input ∈ inputs,
          secondEffect input (comparison.observe state (place input)) = none) ∨
      ∀ input ∈ inputs,
        firstEffect input (comparison.observe state (place input)) ≠ none ∧
          firstEffect input (comparison.observe state (place input)) =
            secondEffect input (comparison.observe state (place input)) := by
  have firstOk : (∃ result, collect first state inputs = .ok result) ↔ _ :=
    firstOnePlace.collect_isOk_iff inputs distinct
  have secondOk : (∃ result, collect second state inputs = .ok result) ↔ _ :=
    secondOnePlace.collect_isOk_iff inputs distinct
  cases firstRun : collect first state inputs with
  | error firstError =>
      obtain ⟨failing, failingMem, fails⟩ := firstOnePlace.collect_fails distinct firstRun
      cases secondRun : collect second state inputs with
      | error secondError =>
          exact iff_of_true trivial (.inl ⟨⟨failing, failingMem, fails⟩,
            secondOnePlace.collect_fails distinct secondRun⟩)
      | ok secondResult =>
          apply iff_of_false (fun same => same)
          rintro (⟨-, input, inputMem, secondFails⟩ | same)
          · exact secondOk.mp ⟨_, secondRun⟩ input inputMem secondFails
          · exact (same failing failingMem).1 fails
  | ok firstResult =>
      have firstSucceeds := firstOk.mp ⟨_, firstRun⟩
      cases secondRun : collect second state inputs with
      | error secondError =>
          obtain ⟨failing, failingMem, fails⟩ := secondOnePlace.collect_fails distinct secondRun
          apply iff_of_false (fun same => same)
          rintro (⟨⟨input, inputMem, firstFails⟩, -⟩ | same)
          · exact firstSucceeds input inputMem firstFails
          · have sameEffect := (same failing failingMem).2
            rw [fails] at sameEffect
            exact (same failing failingMem).1 sameEffect
      | ok secondResult =>
          obtain ⟨firstLast, firstOutputs⟩ := firstResult
          obtain ⟨secondLast, secondOutputs⟩ := secondResult
          rw [← firstRun, ← secondRun,
            same_ok_iff firstOnePlace secondOnePlace distinct firstRun secondRun]
          constructor
          · intro same
            exact .inr fun input inputMem => ⟨firstSucceeds input inputMem, same input inputMem⟩
          · rintro (⟨⟨input, inputMem, fails⟩, -⟩ | same)
            · exact absurd fails (firstSucceeds input inputMem)
            · exact fun input inputMem => (same input inputMem).2

end Lib
