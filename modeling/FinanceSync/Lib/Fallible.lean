import Mathlib.Data.List.Basic

/-!
# Runs of fallible steps

A step reads an input in a state and either fails or goes to another state with
an output.  A run collects the outputs of its steps and fails with the first
step that fails.
-/

namespace Lib

universe u v w x

variable {Error : Type u} {State : Type v} {Input : Type w} {Output : Type x}

/-- Two computations one after the other succeed if both do. -/
theorem bind_eq_ok {First Second : Type v} {first : Except Error First}
    {next : First → Except Error Second} {result : Second} :
    (first >>= next) = .ok result ↔ ∃ value, first = .ok value ∧ next value = .ok result := by
  cases first with
  | error error =>
      constructor
      · intro succeeds
        cases succeeds
      · rintro ⟨value, succeeds, -⟩
        cases succeeds
  | ok value =>
      constructor
      · intro succeeds
        exact ⟨value, rfl, succeeds⟩
      · rintro ⟨other, same, succeeds⟩
        cases same
        exact succeeds

theorem exists_ok_of_isSome {First : Type v} {first : Except Error First}
    (succeeds : first.toOption.isSome = true) : ∃ value, first = .ok value := by
  cases first with
  | error error => cases succeeds
  | ok value => exact ⟨value, rfl⟩

/-- Where a test of the result succeeds, there is a result that passes it. -/
theorem exists_ok_of_map {First : Type v} {first : Except Error First} {test : First → Prop}
    [DecidablePred test] (passes : (first.toOption.any fun value => test value) = true) :
    ∃ value, first = .ok value ∧ test value := by
  cases first with
  | error error => cases passes
  | ok value => exact ⟨value, rfl, by simpa [Except.toOption] using passes⟩

/-- Two computations one after the other fail if the first one does, or the
second one after it. -/
theorem bind_eq_error {First Second : Type v} {first : Except Error First}
    {next : First → Except Error Second} {error : Error} :
    (first >>= next) = .error error ↔
      first = .error error ∨ ∃ value, first = .ok value ∧ next value = .error error := by
  cases first with
  | error other =>
      constructor
      · intro fails
        cases fails
        exact .inl rfl
      · rintro (fails | ⟨value, succeeds, -⟩)
        · cases fails
          rfl
        · cases succeeds
  | ok value =>
      constructor
      · intro fails
        exact .inr ⟨value, rfl, fails⟩
      · rintro (fails | ⟨other, same, fails⟩)
        · cases fails
        · cases same
          exact fails

/-- A step for each input succeeds if it succeeds for all of them. -/
theorem mapM_eq_ok {step : Input → Except Error Output} (default : Output) {inputs : List Input}
    {outputs : List Output} :
    inputs.mapM step = .ok outputs ↔
      (∀ input ∈ inputs, ∃ output, step input = .ok output) ∧
        outputs = inputs.map fun input => (step input).toOption.getD default := by
  induction inputs generalizing outputs with
  | nil =>
      rw [List.mapM_nil]
      constructor
      · intro succeeds
        cases succeeds
        simp
      · intro succeeds
        rw [succeeds.2]
        rfl
  | cons input rest ih =>
      rw [List.mapM_cons]
      constructor
      · intro succeeds
        obtain ⟨output, here, succeeds⟩ := bind_eq_ok.mp succeeds
        obtain ⟨others, later, succeeds⟩ := bind_eq_ok.mp succeeds
        cases succeeds
        obtain ⟨all, rfl⟩ := ih.mp later
        refine ⟨List.forall_mem_cons.mpr ⟨⟨output, here⟩, all⟩, ?_⟩
        rw [List.map_cons, here]
        rfl
      · rintro ⟨all, rfl⟩
        obtain ⟨⟨output, here⟩, all⟩ := List.forall_mem_cons.mp all
        have later := ih.mpr ⟨all, rfl⟩
        refine bind_eq_ok.mpr ⟨output, here, bind_eq_ok.mpr ⟨_, later, ?_⟩⟩
        rw [List.map_cons, here]
        rfl

/-- The state after all inputs, and the outputs in order. -/
def collect (step : State → Input → Except Error (State × Output)) :
    State → List Input → Except Error (State × List Output)
  | state, [] => .ok (state, [])
  | state, input :: rest =>
      match step state input with
      | .error error => .error error
      | .ok (next, output) =>
          match collect step next rest with
          | .error error => .error error
          | .ok (last, outputs) => .ok (last, output :: outputs)

variable {step : State → Input → Except Error (State × Output)}

@[simp] theorem collect_nil {state : State} : collect step state [] = .ok (state, []) := rfl

theorem collect_cons_ok {state last : State} {input : Input} {rest : List Input}
    {outputs : List Output} :
    collect step state (input :: rest) = .ok (last, outputs) ↔
      ∃ next output others, step state input = .ok (next, output) ∧
        collect step next rest = .ok (last, others) ∧ outputs = output :: others := by
  rw [collect]
  split
  · next error failed => simp [failed]
  · next next output stepped =>
      split
      · next error failed => simp [stepped, failed]
      · next others collected =>
          constructor
          · intro succeeds
            cases succeeds
            exact ⟨next, output, _, stepped, collected, rfl⟩
          · rintro ⟨next', output', others', stepped', collected', rfl⟩
            rw [stepped] at stepped'
            cases stepped'
            rw [collected] at collected'
            cases collected'
            rfl

theorem collect_cons_isOk_iff {state : State} {input : Input} {rest : List Input} :
    (∃ result, collect step state (input :: rest) = .ok result) ↔
      ∃ next output, step state input = .ok (next, output) ∧
        ∃ result, collect step next rest = .ok result := by
  constructor
  · rintro ⟨⟨last, outputs⟩, collected⟩
    obtain ⟨next, output, others, stepped, collectedRest, -⟩ := collect_cons_ok.mp collected
    exact ⟨next, output, stepped, _, collectedRest⟩
  · rintro ⟨next, output, stepped, ⟨last, others⟩, collectedRest⟩
    exact ⟨_, collect_cons_ok.mpr ⟨next, output, others, stepped, collectedRest, rfl⟩⟩

theorem collect_map {Source : Type w} (toInput : Source → Input) (sources : List Source) :
    ∀ state : State, collect step state (sources.map toInput) =
      collect (fun state source => step state (toInput source)) state sources := by
  induction sources with
  | nil => intro state; rfl
  | cons source rest ih =>
      intro state
      rw [List.map_cons, collect, collect]
      simp only [ih]

/-- A run over two lists of inputs is a run over the first and then one over the
second. -/
theorem collect_append (first second : List Input) :
    ∀ state : State, collect step state (first ++ second) =
      match collect step state first with
      | .error error => .error error
      | .ok (middle, outputs) =>
          match collect step middle second with
          | .error error => .error error
          | .ok (last, others) => .ok (last, outputs ++ others) := by
  induction first with
  | nil =>
      intro state
      rw [List.nil_append, collect_nil]
      dsimp only
      split
      · next error failed => exact failed
      · next last others collected => exact collected
  | cons input rest ih =>
      intro state
      rw [List.cons_append, collect, collect]
      cases step state input with
      | error error => rfl
      | ok stepped =>
          obtain ⟨next, output⟩ := stepped
          dsimp only
          rw [ih]
          cases collect step next rest with
          | error error => rfl
          | ok collected =>
              obtain ⟨middle, outputs⟩ := collected
              dsimp only
              cases collect step middle second with
              | error error => rfl
              | ok result => rfl

/-- Runs over several lists of inputs one after the other are one run. -/
theorem collect_flatten (lists : List (List Input)) :
    ∀ state : State, collect step state lists.flatten =
      (collect (collect step) state lists).map fun (last, outputs) => (last, outputs.flatten) := by
  induction lists with
  | nil => intro state; rfl
  | cons list rest ih =>
      intro state
      rw [List.flatten_cons, collect_append, collect]
      cases collect step state list with
      | error error => rfl
      | ok collected =>
          obtain ⟨middle, outputs⟩ := collected
          dsimp only
          rw [ih]
          cases collect (collect step) middle rest with
          | error error => rfl
          | ok result => rfl

/-- Steps that do the same make the same run. -/
theorem collect_congr {other : State → Input → Except Error (State × Output)}
    (inputs : List Input) :
    ∀ state : State, (∀ state, ∀ input ∈ inputs, step state input = other state input) →
      collect step state inputs = collect other state inputs := by
  induction inputs with
  | nil => intro state _; rfl
  | cons input rest ih =>
      intro state same
      rw [collect, collect, same state input List.mem_cons_self]
      cases other state input with
      | error error => rfl
      | ok stepped =>
          dsimp only
          rw [ih stepped.1 fun state later laterMem =>
            same state later (List.mem_cons_of_mem _ laterMem)]

/-- Where every step that succeeds succeeds otherwise too and leads to the same
state, so does the run. -/
theorem collect_ok_of_step {Other : Type x} {other : State → Input → Except Error (State × Other)}
    (inputs : List Input) (sameStep : ∀ state, ∀ input ∈ inputs, ∀ next output,
      step state input = .ok (next, output) → ∃ result, other state input = .ok (next, result)) :
    ∀ {state last : State} {outputs : List Output},
      collect step state inputs = .ok (last, outputs) →
      ∃ results, collect other state inputs = .ok (last, results) := by
  induction inputs with
  | nil =>
      intro state last outputs collected
      cases collected
      exact ⟨[], rfl⟩
  | cons input rest ih =>
      intro state last outputs collected
      obtain ⟨next, output, others, stepped, collectedRest, -⟩ := collect_cons_ok.mp collected
      obtain ⟨result, same⟩ := sameStep state input List.mem_cons_self next output stepped
      obtain ⟨results, sameRest⟩ := ih
        (fun state later laterMem => sameStep state later (List.mem_cons_of_mem _ laterMem))
        collectedRest
      exact ⟨result :: results, collect_cons_ok.mpr ⟨next, result, results, same, sameRest, rfl⟩⟩

/-- What every step of a run keeps holds after it. -/
theorem collect_invariant (invariant : State → Prop) (inputs : List Input) :
    ∀ {state last : State} {outputs : List Output},
      (∀ state input next output, input ∈ inputs → invariant state →
        step state input = .ok (next, output) → invariant next) →
      invariant state → collect step state inputs = .ok (last, outputs) → invariant last := by
  induction inputs with
  | nil =>
      intro state last outputs _ holds collected
      cases collected
      exact holds
  | cons input rest ih =>
      intro state last outputs preserved holds collected
      obtain ⟨next, output, others, stepped, collectedRest, -⟩ := collect_cons_ok.mp collected
      apply ih ?_ ?_ collectedRest
      · intro state later next output laterMem
        exact preserved state later next output (List.mem_cons_of_mem _ laterMem)
      · exact preserved state input next output List.mem_cons_self holds stepped

/-- A run over an input that is never admitted fails. -/
theorem collect_fails_of_mem {inputs : List Input} {input : Input} (isMem : input ∈ inputs)
    (fails : ∀ state, ∃ error, step state input = .error error) :
    ∀ state, ∃ error, collect step state inputs = .error error := by
  induction inputs with
  | nil => cases isMem
  | cons head rest ih =>
      intro state
      rw [collect]
      rcases List.mem_cons.mp isMem with rfl | later
      · obtain ⟨error, failed⟩ := fails state
        rw [failed]
        exact ⟨error, rfl⟩
      · cases step state head with
        | error error => exact ⟨error, rfl⟩
        | ok stepped =>
            obtain ⟨error, failed⟩ := ih later stepped.1
            dsimp only
            rw [failed]
            exact ⟨error, rfl⟩

/-- A run fails only where one of its steps does. -/
theorem collect_error (errors : Error → Prop)
    (fails : ∀ state input error, step state input = .error error → errors error)
    (inputs : List Input) :
    ∀ {state : State} {error : Error}, collect step state inputs = .error error →
      errors error := by
  induction inputs with
  | nil =>
      intro state error failed
      cases failed
  | cons input rest ih =>
      intro state error failed
      rw [collect] at failed
      split at failed
      · next headError headFailed =>
          cases failed
          exact fails state input error headFailed
      · split at failed
        · next restError restFailed =>
            cases failed
            exact ih restFailed
        · cases failed

end Lib
