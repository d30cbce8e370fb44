import FinanceSync.Lib.Run

/-!
# Two runs over the same inputs

A server takes inputs and answers each.  Where every step keeps two states related,
and answers what an observer sees the same way in both, the observer cannot tell
the two runs apart.
-/

namespace Lib

universe u v w

variable {State : Type u} {Input : Type v} {Output : Type w}

/-- The answers to the inputs of an observer, in order. -/
def observed (serve : State → Input → State × Output) (observes : Input → Bool) :
    State → List Input → List Output
  | _, [] => []
  | state, input :: rest =>
      let (next, output) := serve state input
      let others := observed serve observes next rest
      if observes input then output :: others else others

variable {serve : State → Input → State × Output} {observes : Input → Bool}

/-- Related states are served alike, so the observer sees the same answers. -/
theorem observed_eq {related : State → State → Prop} {condition : State → Input → Prop}
    (preserved : ∀ first second input, related first second →
      related (serve first input).1 (serve second input).1)
    (alike : ∀ first second input, related first second → observes input →
      condition first input → condition second input →
      (serve first input).2 = (serve second input).2)
    (inputs : List Input) :
    ∀ {first second : State}, related first second →
      Along (fun state input => (serve state input).1) condition first inputs →
      Along (fun state input => (serve state input).1) condition second inputs →
      observed serve observes first inputs = observed serve observes second inputs := by
  induction inputs with
  | nil => intro first second _ _ _; rfl
  | cons input rest ih =>
      intro first second isRelated firstAlong secondAlong
      have others := ih (preserved first second input isRelated) firstAlong.2
        secondAlong.2
      simp only [observed, others]
      split
      · next isObserved =>
          rw [alike first second input isRelated isObserved firstAlong.1 secondAlong.1]
      · rfl

end Lib
