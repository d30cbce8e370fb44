import FinanceSync.Fx.Layers

/-!
# Rates in both directions

A pair and its opposite should be answered from one observation, one of the two
rates being the rounded inverse of the other.  A major pair is; any other pair is
looked up in the order of the request, so its two directions can part.
-/

namespace FinanceSync.Fx

open Lib

/-- The results of the two directions: rates of one observation, or none at all. -/
def Agree : Except DecimalError (Option FxRateObservation) →
    Except DecimalError (Option FxRateObservation) → Prop
  | .ok none, .ok none => True
  | .ok (some there), .ok (some back) => there.Reciprocal back
  | _, _ => False

namespace FxService

variable {settings : Settings} {service : FxService} {clock : Clock} {base quote : String}
  {atTimestamp : Option Instant}

/-! ## The two directions -/

/-- The pair is looked up in one order, whichever is requested. -/
def IsMajor (base quote : String) : Prop :=
  (base, quote) ∈ majorPairs ∨ (quote, base) ∈ majorPairs

instance (base quote : String) : Decidable (IsMajor base quote) :=
  inferInstanceAs (Decidable ((base, quote) ∈ majorPairs ∨ (quote, base) ∈ majorPairs))

/-- What stands in for a pair that has no observation in the order of the request:
the opposite row, inverted, else the fallback rate. -/
def indirect (settings : Settings) (service : FxService) (clock : Clock) (base quote : String)
    (atTimestamp : Option Instant) : Option FxRateObservation :=
  ((service.lookupLocalRate settings clock quote base atTimestamp).bind
    (·.inverse.toOption)).or (fallback clock base quote atTimestamp)

/-- The observations of the two directions belong together: both have one of their
own, or one has and the other is answered in its place, or only fallback rates
are left. -/
def OneOrigin (settings : Settings) (service : FxService) (clock : Clock) (base quote : String)
    (atTimestamp : Option Instant) : Prop :=
  match service.direct settings clock base quote atTimestamp,
    service.direct settings clock quote base atTimestamp with
  | some there, some back => there.Reciprocal back
  | some there, none =>
      ∃ back ∈ service.indirect settings clock quote base atTimestamp, there.Reciprocal back
  | none, some back =>
      ∃ there ∈ service.indirect settings clock base quote atTimestamp, there.Reciprocal back
  | none, none =>
      match fallback clock base quote atTimestamp, fallback clock quote base atTimestamp with
      | some there, some back => there.Reciprocal back
      | none, none => True
      | _, _ => False

theorem canonicalisePair_major (major : IsMajor base quote) :
    ∃ first second inverted, canonicalisePair base quote = ⟨first, second, inverted⟩ ∧
      canonicalisePair quote base = ⟨first, second, !inverted⟩ := by
  have oneWay : ∀ pair ∈ majorPairs, pair.1 ≠ pair.2 ∧ pair.swap ∉ majorPairs := by decide
  rcases major with asRequested | opposite
  · have facts := oneWay _ asRequested
    refine ⟨base, quote, false, ?_, ?_⟩
    · simp [canonicalisePair, asRequested]
    · simp only [Prod.swap_prod_mk] at facts
      simp [canonicalisePair, asRequested, facts.1.symm, facts.2]
  · have facts := oneWay _ opposite
    refine ⟨quote, base, true, ?_, ?_⟩
    · simp only [Prod.swap_prod_mk] at facts
      simp [canonicalisePair, opposite, facts.1.symm, facts.2]
    · simp [canonicalisePair, opposite]

theorem canonicalisePair_other (other : ¬ IsMajor base quote) :
    canonicalisePair base quote = ⟨base, quote, false⟩ := by
  simp only [IsMajor, not_or] at other
  simp [canonicalisePair, other]

/-- One observation in its two directions. -/
theorem agree_orient {first second : String} {inverted : Bool} {observation : FxRateObservation}
    (inRange : InRange observation.rate) :
    Agree (CanonicalPair.orient ⟨first, second, inverted⟩ observation)
      (CanonicalPair.orient ⟨first, second, !inverted⟩ observation) := by
  rcases FxRateObservation.inverse_inRange inRange with ⟨inverse, isInverse, _, _, _, reciprocal⟩
  cases inverted with
  | false => simpa [CanonicalPair.orient, isInverse, Except.map, Agree] using reciprocal
  | true => simpa [CanonicalPair.orient, isInverse, Except.map, Agree] using reciprocal.symm

theorem found_of_direct {observation : FxRateObservation}
    (own : service.direct settings clock base quote atTimestamp = some observation) :
    service.found settings clock base quote atTimestamp = .ok (some observation) := by
  simp only [found, own]

theorem found_of_not_direct
    (own : service.direct settings clock base quote atTimestamp = none) :
    service.found settings clock base quote atTimestamp =
      .ok (service.indirect settings clock base quote atTimestamp) := by
  simp only [found, own, indirect]
  cases reverse : service.lookupLocalRate settings clock quote base atTimestamp with
  | none => rfl
  | some opposite =>
      rcases FxRateObservation.inverse_inRange (lookupLocalRate_stored reverse).2.2 with
        ⟨inverse, inverted, _⟩
      simp [inverted, Except.map, Except.toOption]

/-- A pair without an observation in either order is left to the fallback rates. -/
theorem indirect_of_not_direct
    (opposite : service.direct settings clock quote base atTimestamp = none) :
    service.indirect settings clock base quote atTimestamp =
      fallback clock base quote atTimestamp := by
  rw [direct, Option.or_eq_none_iff] at opposite
  simp [indirect, opposite.2]

/-- Pairs that are looked up in the order of the request. -/
theorem agree_found_iff :
    Agree (service.found settings clock base quote atTimestamp)
        (service.found settings clock quote base atTimestamp) ↔
      service.OneOrigin settings clock base quote atTimestamp := by
  rw [OneOrigin]
  cases there : service.direct settings clock base quote atTimestamp with
  | some ownThere =>
      rw [found_of_direct there]
      cases back : service.direct settings clock quote base atTimestamp with
      | some ownBack =>
          rw [found_of_direct back]
          rfl
      | none =>
          rw [found_of_not_direct back]
          cases service.indirect settings clock quote base atTimestamp with
          | none => simp [Agree]
          | some instead => simp [Agree]
  | none =>
      rw [found_of_not_direct there]
      cases back : service.direct settings clock quote base atTimestamp with
      | some ownBack =>
          rw [found_of_direct back]
          cases service.indirect settings clock base quote atTimestamp with
          | none => simp [Agree]
          | some instead => simp [Agree]
      | none =>
          rw [found_of_not_direct back, indirect_of_not_direct there, indirect_of_not_direct back]
          cases fallback clock base quote atTimestamp with
          | none => cases fallback clock quote base atTimestamp <;> simp [Agree]
          | some rate => cases fallback clock quote base atTimestamp <;> simp [Agree]

theorem Sound.agree_iff (sound : service.Sound) (different : base ≠ quote) :
    Agree (getRate settings service clock base quote atTimestamp).result
        (getRate settings (getRate settings service clock base quote atTimestamp).service clock
          quote base atTimestamp).result ↔
      IsMajor base quote ∨ service.OneOrigin settings clock base quote atTimestamp := by
  rw [getRate_result different, getRate_result different.symm, (getRate_keeps base quote).found]
  by_cases major : IsMajor base quote
  · apply iff_of_true _ (.inl major)
    rcases canonicalisePair_major major with ⟨first, second, inverted, there, back⟩
    rw [there, back]
    rcases sound.found_ok settings clock first second atTimestamp with ⟨answer, ok, inRange⟩
    rw [ok]
    cases answer with
    | none => trivial
    | some observation => exact agree_orient (inRange observation rfl)
  · have opposite : ¬ IsMajor quote base := fun isMajor => major isMajor.symm
    rw [canonicalisePair_other major, canonicalisePair_other opposite, or_iff_right major,
      ← agree_found_iff]
    rcases sound.found_ok settings clock base quote atTimestamp with ⟨there, thereOk, _⟩
    rcases sound.found_ok settings clock quote base atTimestamp with ⟨back, backOk, _⟩
    rw [thereOk, backOk]
    cases there <;> cases back <;> rfl

/-- After any calls on any stored rates, a pair and its opposite are answered by
rates of one observation that are rounded inverses of each other, or both not at
all, exactly if the pair is a major one or the observations of the two directions
belong together. -/
theorem rates_reciprocal_iff (settings : Settings) (rows : List FxRate) (inputs : List Input)
    (clock : Clock) {base quote : String} (different : base ≠ quote)
    (atTimestamp : Option Instant) :
    Agree
        (getRate settings (runAll (serve settings) (start rows) inputs) clock base quote
          atTimestamp).result
        (getRate settings
          (getRate settings (runAll (serve settings) (start rows) inputs) clock base quote
            atTimestamp).service clock quote base atTimestamp).result ↔
      IsMajor base quote ∨
        (runAll (serve settings) (start rows) inputs).OneOrigin settings clock base quote
          atTimestamp :=
  (runAll_sound settings rows inputs).agree_iff different

def exampleSettings : Settings where
  fxRateCacheTtlSeconds := 86400
  order := OrderBy.stable _

/-- A major pair, before any rate is stored. -/
theorem euro_dollar_agree :
    Agree
      (getRate exampleSettings (start []) ⟨0, 0⟩ "USD" "EUR" none).result
      (getRate exampleSettings
        (getRate exampleSettings (start []) ⟨0, 0⟩ "USD" "EUR" none).service ⟨0, 0⟩
        "EUR" "USD" none).result :=
  (rates_reciprocal_iff exampleSettings [] [] ⟨0, 0⟩ (by decide) none).mpr (.inl (by decide))

/-- Before any rate is stored there is one from euros to francs, but none back. -/
theorem euro_franc_disagree :
    ¬ ∀ (settings : Settings) rows inputs clock base quote atTimestamp, base ≠ quote →
      Agree
        (getRate settings (runAll (serve settings) (start rows) inputs) clock base quote
          atTimestamp).result
        (getRate settings
          (getRate settings (runAll (serve settings) (start rows) inputs) clock base quote
            atTimestamp).service clock quote base atTimestamp).result := by
  intro agree
  have directions := agree exampleSettings [] [] ⟨0, 0⟩ "EUR" "CHF" none (by decide)
  have there : ∃ francs, (getRate exampleSettings (start []) ⟨0, 0⟩ "EUR" "CHF" none).result =
      .ok (some francs) := ⟨_, by rfl⟩
  have back : (getRate exampleSettings
      (getRate exampleSettings (start []) ⟨0, 0⟩ "EUR" "CHF" none).service ⟨0, 0⟩
      "CHF" "EUR" none).result = .ok none := by rfl
  rcases there with ⟨francs, there⟩
  rw [runAll_nil, there, back] at directions
  exact directions

end FxService

end FinanceSync.Fx
